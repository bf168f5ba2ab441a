import Mathlib.Algebra.GroupWithZero.Nat
import Pjsocky.Framing.Output

/-!
# What a line write leaves behind, and how long it takes

`pjsocky_framing_write_line` calls `send_all` twice, for the line and for its line feed. The
bytes are handed over well: whatever the kernel answers, the socket takes a prefix of the line
and its line feed. The deadline is not: each call measures its own from the moment it is
entered, so a write that has waited for the line may wait as long again for the line feed.
-/

namespace Pjsocky

open Support

/-! ## The outcomes that a write meets -/

/-- A send or a select that fails does so with an error of the operating system. -/
def SendStep.OsErrors : SendStep → Prop
  | .failed status | .blocked _ (.failed status) => ∃ errno, status.1 = .fromOs errno
  | _ => True

def SendStep.WouldBlock : SendStep → Prop
  | .blocked .. => True
  | _ => False

/-- The outcomes that `send_all` meets before it returns. -/
def met (timeoutMsec : Nat) (started : Int) : List SendStep → Bytes → List SendStep
  | [], _ => []
  | step :: rest, buf =>
      if buf.length = 0 then []
      else if step.fails timeoutMsec started then [step]
      else step :: met timeoutMsec started rest (buf.drop step.count)

namespace WriteEnv

/-- The outcomes that `pjsocky_framing_write_line` meets. -/
def met (timeoutMsec : Nat) (line : Bytes) (env : WriteEnv) : List SendStep :=
  let body := Pjsocky.met timeoutMsec env.bodyStarted env.body line
  if (sendAll timeoutMsec env.bodyStarted env.body line).status ≠ .success then body
  else body ++ Pjsocky.met timeoutMsec env.newlineStarted env.newline [lineFeed]

def OsErrors (env : WriteEnv) : Prop := ∀ step ∈ env.body ++ env.newline, step.OsErrors

/-- No more than the line and its line feed goes out. -/
theorem taken_le (timeoutMsec length : Nat) (env : WriteEnv) :
    env.taken timeoutMsec length ≤ length + 1 := by
  unfold taken
  dsimp only
  split
  · omega
  · omega

end WriteEnv

section SendAll

variable {timeoutMsec : Nat} {started : Int}

/-- `send_all` reports the timeout only after a would-block. -/
theorem sendAll_timedOut {steps : List SendStep} {buf : Bytes}
    (errors : ∀ step ∈ steps, step.OsErrors)
    (timedOut : (sendAll timeoutMsec started steps buf).status = .etimedout) :
    ∃ step ∈ met timeoutMsec started steps buf, step.WouldBlock := by
  induction steps generalizing buf with
  | nil => cases timedOut
  | cons step rest ih =>
      by_cases empty : buf = []
      · rw [empty, sendAll_empty] at timedOut
        cases timedOut
      · have size : buf.length ≠ 0 := by simpa using empty
        have first := sendAll_cons timeoutMsec started step rest empty
        simp only at first
        rw [met, if_neg size]
        split at first
        · rename_i fails
          rw [if_pos fails]
          refine ⟨step, List.mem_singleton_self _, ?_⟩
          cases step with
          | sent count =>
              simp only [SendStep.fails, decide_eq_true_iff] at fails
              simp [sendAll, size, fails] at timedOut
          | failed status =>
              obtain ⟨errno, isOs⟩ := errors _ List.mem_cons_self
              simp [sendAll, size, isOs] at timedOut
          | blocked now wait => trivial
        · rename_i continues
          rw [if_neg continues]
          rw [first.1] at timedOut
          obtain ⟨found, member, blocked⟩ :=
            ih (fun step member => errors step (List.mem_cons_of_mem _ member)) timedOut
          exact ⟨found, List.mem_cons_of_mem _ member, blocked⟩

end SendAll

/-- Whatever the kernel answers, a line write hands the socket a prefix of the line and its line
feed, succeeds exactly when that is all of it, and reports the timeout only after a
would-block: an error of the operating system is not the timeout. -/
theorem writeLine_sends_prefix (timeoutMsec : Nat) (line : Bytes) (env : WriteEnv) :
    let result := writeLine timeoutMsec line env
    result.accepted <+: line ++ [lineFeed] ∧
    (result.accepted = line ++ [lineFeed] ↔ result.status = .success) ∧
    (env.OsErrors → result.status = .etimedout →
      ∃ step ∈ env.met timeoutMsec line, step.WouldBlock) := by
  intro result
  obtain ⟨accepted, whole⟩ := @writeLine_taken timeoutMsec line env
  refine ⟨?_, ?_, fun errors timedOut => ?_⟩
  · change (writeLine timeoutMsec line env).accepted <+: _
    rw [accepted]
    exact List.take_prefix _ _
  · have bound := env.taken_le timeoutMsec line.length
    have size : (line ++ [lineFeed]).length = line.length + 1 := List.length_append
    rw [whole]
    change (writeLine timeoutMsec line env).accepted = _ ↔ _
    rw [accepted]
    constructor
    · intro all
      have taken := congrArg List.length all
      rw [List.length_take, size] at taken
      omega
    · intro all
      rw [all, ← size, List.take_length]
  · have bodyErrors : ∀ step ∈ env.body, step.OsErrors := fun step member =>
      errors step (List.mem_append_left _ member)
    have newlineErrors : ∀ step ∈ env.newline, step.OsErrors := fun step member =>
      errors step (List.mem_append_right _ member)
    rw [WriteEnv.met]
    by_cases sent : (sendAll timeoutMsec env.bodyStarted env.body line).status = .success
    · rw [if_neg (not_not.mpr sent)]
      have ended : (sendAll timeoutMsec env.newlineStarted env.newline [lineFeed]).status =
          .etimedout := by
        simpa [result, writeLine, sent] using timedOut
      obtain ⟨step, member, blocked⟩ := sendAll_timedOut newlineErrors ended
      exact ⟨step, List.mem_append_right _ member, blocked⟩
    · rw [if_pos sent]
      have failed : (sendAll timeoutMsec env.bodyStarted env.body line).status = .etimedout := by
        simpa [result, writeLine, sent] using timedOut
      exact sendAll_timedOut bodyErrors failed

/-- A socket that takes half of a line, the rest once it is writable again, and then no more. -/
def haltingEnv : WriteEnv :=
  ⟨0, [.sent 1, .blocked 10 .ready, .sent 1], 20, [.blocked 20 .expired]⟩

/-- The line goes out without its line feed. -/
theorem haltingEnv_prefix :
    let result := writeLine 5000 (ascii "\x7b\x7d") haltingEnv
    result.status = .etimedout ∧ result.accepted <+: ascii "\x7b\x7d" ++ [lineFeed] ∧
      ∃ step ∈ haltingEnv.met 5000 (ascii "\x7b\x7d"), step.WouldBlock := by
  have errors : haltingEnv.OsErrors := by
    simp [WriteEnv.OsErrors, haltingEnv, SendStep.OsErrors]
  obtain ⟨sent, -, timedOut⟩ := writeLine_sends_prefix 5000 (ascii "\x7b\x7d") haltingEnv
  exact ⟨by decide, sent, timedOut errors (by decide)⟩

/-! ## Time -/

/-- What one iteration of `send_all` meets when time passes in `select` only: the milliseconds
that a select takes stand in place of the clock. -/
inductive TimedStep where
  | sent (count : Nat)
  | blocked (elapsed : Nat) (wait : SelectOutcome)
  | failed (status : Failure)

/-- The outcomes with what the clock reads at each, from `now` on. -/
def readings : Int → List TimedStep → List SendStep
  | _, [] => []
  | now, .sent count :: rest => .sent count :: readings now rest
  | now, .failed status :: rest => .failed status :: readings now rest
  | now, .blocked elapsed wait :: rest => .blocked now wait :: readings (now + elapsed) rest

/-- How long the selects take, in order. -/
def durations : List TimedStep → List Nat
  | [] => []
  | .blocked elapsed _ :: rest => elapsed :: durations rest
  | _ :: rest => durations rest

/-- The time that passes before `count` bytes are through. -/
def delay : Nat → List TimedStep → Nat
  | 0, _ | _, [] => 0
  | count, .sent taken :: rest => delay (count - taken) rest
  | count, .blocked elapsed _ :: rest => elapsed + delay count rest
  | _, .failed _ :: _ => 0

/-- The kernel's answers to one `pjsocky_framing_write_line` that is entered at a given time. -/
structure TimedEnv where
  entered : Int
  body : List TimedStep
  newline : List TimedStep

namespace TimedEnv

variable (timeoutMsec : Nat) (line : Bytes) (env : TimedEnv)

/-- What the send of the line does. -/
def sent : SendResult := sendAll timeoutMsec env.entered (readings env.entered env.body) line

/-- How long the selects of the line's send took. -/
def bodyDurations : List Nat := (durations env.body).take (env.sent timeoutMsec line).waits.length

/-- The same answers with the clock's readings. -/
def clocked : WriteEnv :=
  let newlineStarted := env.entered + (env.bodyDurations timeoutMsec line).sum
  ⟨env.entered, readings env.entered env.body, newlineStarted,
    readings newlineStarted env.newline⟩

def result : SendResult := writeLine timeoutMsec line (env.clocked timeoutMsec line)

/-- How long the selects of the whole write take, in order. -/
def waited : List Nat := env.bodyDurations timeoutMsec line ++ durations env.newline

/-- When the write returns. -/
def returned : Int :=
  env.entered + ((env.waited timeoutMsec line).take (env.result timeoutMsec line).waits.length).sum

/-- Each select returns after at most the wait it was given. -/
def Obeyed : Prop :=
  ∀ (index : Nat) (wait : Int) (elapsed : Nat),
    (env.result timeoutMsec line).waits[index]? = some wait →
    (env.waited timeoutMsec line)[index]? = some elapsed → elapsed ≤ wait

/-- One deadline for the message: the write returns by it, and every wait is positive and at
most what is left of it. -/
structure InTime : Prop where
  returned : env.returned timeoutMsec line ≤ env.entered + timeoutMsec
  waits : ∀ (index : Nat) (wait : Int),
    (env.result timeoutMsec line).waits[index]? = some wait →
    0 < wait ∧ wait ≤ timeoutMsec - ((env.waited timeoutMsec line).take index).sum

/-- The line is sent only after some waiting, and then its line feed has to wait. -/
def WaitsTwice : Prop :=
  line.length ≤ (capacity timeoutMsec env.entered (readings env.entered env.body)).getD
    line.length ∧
  0 < delay line.length env.body ∧
  ∃ elapsed wait rest, env.newline = .blocked elapsed wait :: rest

end TimedEnv

section Timed

variable {timeoutMsec : Nat} {started now : Int} {steps : List TimedStep} {buf : Bytes}

/-- What a would-block asks of `select`, and what it leaves to the rest of the send. -/
theorem sendAll_blocked (timeoutMsec : Nat) (started now : Int) (wait : SelectOutcome)
    (rest : List SendStep) {buf : Bytes} (nonempty : buf ≠ []) :
    let result := sendAll timeoutMsec started (.blocked now wait :: rest) buf
    let remaining := timeoutMsec - (now - started)
    (remaining ≤ 0 ∧ result.status ≠ .success ∧ result.waits = []) ∨
    (0 < remaining ∧ result.status ≠ .success ∧ result.waits = [remaining]) ∨
    (0 < remaining ∧
      let later := sendAll timeoutMsec started rest buf
      result.status = later.status ∧ result.waits = remaining :: later.waits) := by
  have size : buf.length ≠ 0 := by simpa using nonempty
  dsimp only
  by_cases late : (timeoutMsec : Int) - (now - started) ≤ 0
  · simp [sendAll, size, late]
  · have left : 0 < (timeoutMsec : Int) - (now - started) := by omega
    apply Or.inr
    cases wait with
    | ready =>
        refine .inr ⟨left, ?_⟩
        simp [sendAll, size, late]
    | expired =>
        refine .inl ⟨left, ?_⟩
        simp [sendAll, size, late]
    | failed status =>
        by_cases interrupted : status.1 = .fromOs eintr
        · refine .inr ⟨left, ?_⟩
          simp [sendAll, size, late, interrupted]
        · refine .inl ⟨left, ?_⟩
          simp [sendAll, size, late, interrupted, status.2]

/-- Each wait is what was left of the send's own deadline when it was asked for. -/
theorem sendAll_waits (timeoutMsec : Nat) (started now : Int) (steps : List TimedStep)
    (buf : Bytes) {index : Nat} {wait : Int}
    (asked : (sendAll timeoutMsec started (readings now steps) buf).waits[index]? = some wait) :
    0 < wait ∧ index < (durations steps).length ∧
      wait = timeoutMsec - (now + ((durations steps).take index).sum - started) := by
  induction steps generalizing now buf index with
  | nil => simp [readings, sendAll] at asked
  | cons step rest ih =>
      by_cases empty : buf = []
      · rw [empty, sendAll_empty] at asked
        simp at asked
      · have size : buf.length ≠ 0 := by simpa using empty
        cases step with
        | sent count =>
            by_cases none : count = 0
            · simp [readings, sendAll, size, none] at asked
            · have some : ¬ min count buf.length = 0 := by omega
              simp only [readings, sendAll, size, some, if_false] at asked
              exact ih now _ asked
        | failed status => simp [readings, sendAll, size] at asked
        | blocked elapsed answer =>
            rw [readings] at asked
            obtain ⟨-, -, none⟩ | ⟨left, -, one⟩ | ⟨left, -, more⟩ :=
              sendAll_blocked timeoutMsec started now answer (readings (now + elapsed) rest) empty
            · simp [none] at asked
            · rw [one] at asked
              cases index with
              | zero =>
                  cases asked
                  simpa [durations] using left
              | succ index => simp at asked
            · rw [more] at asked
              cases index with
              | zero =>
                  cases asked
                  simpa [durations] using left
              | succ index =>
                  rw [List.getElem?_cons_succ] at asked
                  obtain ⟨positive, inside, isLeft⟩ := ih (now + elapsed) buf asked
                  refine ⟨positive, by simpa [durations] using inside, ?_⟩
                  simp only [durations, List.take_succ_cons, List.sum_cons]
                  omega

/-- A send whose selects obey their waits is over by its deadline, if it waits at all. -/
theorem sendAll_spent
    (obeyed : ∀ (index : Nat) (wait : Int) (elapsed : Nat),
      (sendAll timeoutMsec started (readings now steps) buf).waits[index]? = some wait →
      (durations steps)[index]? = some elapsed → elapsed ≤ wait) :
    let count := (sendAll timeoutMsec started (readings now steps) buf).waits.length
    count = 0 ∨ now + ((durations steps).take count).sum ≤ started + timeoutMsec := by
  intro count
  cases last : count with
  | zero => exact .inl rfl
  | succ index =>
      have inside :
          index < (sendAll timeoutMsec started (readings now steps) buf).waits.length := by
        omega
      have asked := List.getElem?_eq_getElem inside
      obtain ⟨-, bound, isLeft⟩ := sendAll_waits timeoutMsec started now steps buf asked
      have took := obeyed index _ _ asked (List.getElem?_eq_getElem bound)
      refine .inr ?_
      rw [List.take_succ_eq_append_getElem bound, List.sum_append, List.sum_singleton]
      omega

/-- A send that succeeds has taken the time that passes before its bytes are through. -/
theorem sendAll_delay
    (success : (sendAll timeoutMsec started (readings now steps) buf).status = .success) :
    ((durations steps).take
      (sendAll timeoutMsec started (readings now steps) buf).waits.length).sum =
      delay buf.length steps := by
  induction steps generalizing now buf with
  | nil =>
      cases buf <;> rfl
  | cons step rest ih =>
      cases buf with
      | nil => simp [delay]
      | cons byte more =>
          have nonempty : byte :: more ≠ [] := List.cons_ne_nil _ _
          cases step with
          | sent count =>
              by_cases none : count = 0
              · simp [readings, sendAll, none] at success
              · have some : ¬ min count (byte :: more).length = 0 := by
                  rw [List.length_cons]
                  omega
                have size : (byte :: more).length ≠ 0 := by simp
                simp only [readings, sendAll, size, some, if_false] at success ⊢
                have later := ih success
                have through : ((byte :: more).drop (min count (byte :: more).length)).length =
                    (byte :: more).length - count := by
                  rw [List.length_drop]
                  omega
                rw [through] at later
                exact later
          | failed status => simp [readings, sendAll, status.2] at success
          | blocked elapsed answer =>
              rw [readings] at success ⊢
              obtain ⟨-, failed, -⟩ | ⟨-, failed, -⟩ | ⟨-, sameStatus, more⟩ :=
                sendAll_blocked timeoutMsec started now answer (readings (now + elapsed) rest)
                  nonempty
              · exact (failed success).elim
              · exact (failed success).elim
              · rw [sameStatus] at success
                rw [more]
                have later := ih success
                simp only [durations, List.length_cons, List.take_succ_cons, List.sum_cons, delay]
                simp only [List.length_cons] at later
                omega

end Timed

namespace TimedEnv

variable {timeoutMsec : Nat} {line : Bytes} {env : TimedEnv}

/-- The line is sent just when the outcomes have room for it. -/
theorem sent_iff : (env.sent timeoutMsec line).status = .success ↔
    line.length ≤ (capacity timeoutMsec env.entered (readings env.entered env.body)).getD
      line.length :=
  sendAll_taken _ _ |>.2

/-- The line feed never waits in a send that has to be asked for once only. -/
theorem newline_waits (timeoutMsec : Nat) (started : Int) (steps : List TimedStep)
    (unblocked : ∀ elapsed wait rest, steps ≠ .blocked elapsed wait :: rest) :
    (sendAll timeoutMsec started (readings started steps) [lineFeed]).waits = [] := by
  cases steps with
  | nil => rfl
  | cons step rest =>
      cases step with
      | sent count =>
          by_cases none : count = 0
          · simp [readings, sendAll, none]
          · have taken : min count 1 = 1 := by omega
            simp [readings, sendAll, taken]
      | failed status => simp [readings, sendAll]
      | blocked elapsed wait => exact (unblocked elapsed wait rest rfl).elim

/-- What the send of the line feed does. -/
def ended (timeoutMsec : Nat) (line : Bytes) (env : TimedEnv) : SendResult :=
  let newlineStarted := env.entered + (env.bodyDurations timeoutMsec line).sum
  sendAll timeoutMsec newlineStarted (readings newlineStarted env.newline) [lineFeed]

theorem result_unsent (failed : (env.sent timeoutMsec line).status ≠ .success) :
    env.result timeoutMsec line = env.sent timeoutMsec line :=
  if_pos failed

theorem result_sent (success : (env.sent timeoutMsec line).status = .success) :
    (env.result timeoutMsec line).waits =
      (env.sent timeoutMsec line).waits ++ (env.ended timeoutMsec line).waits := by
  have same : env.result timeoutMsec line = ⟨_, _, _⟩ := if_neg (not_not.mpr success)
  rw [same]
  rfl

theorem waits_append : ∃ more, (env.result timeoutMsec line).waits =
    (env.sent timeoutMsec line).waits ++ more := by
  by_cases success : (env.sent timeoutMsec line).status = .success
  · exact ⟨_, result_sent success⟩
  · exact ⟨[], by rw [result_unsent success, List.append_nil]⟩

theorem length_bodyDurations : (env.bodyDurations timeoutMsec line).length =
    (env.sent timeoutMsec line).waits.length := by
  rw [bodyDurations, List.length_take, Nat.min_eq_left]
  cases last : (env.sent timeoutMsec line).waits.length with
  | zero => exact Nat.zero_le _
  | succ index =>
      have inside : index < (env.sent timeoutMsec line).waits.length := by omega
      exact (sendAll_waits timeoutMsec env.entered env.entered env.body line
        (List.getElem?_eq_getElem inside)).2.1

/-- The time that passed before an early wait. -/
theorem take_waited {index : Nat} (early : index ≤ (env.sent timeoutMsec line).waits.length) :
    (env.waited timeoutMsec line).take index = (durations env.body).take index := by
  rw [waited, List.take_append_of_le_length (by rw [length_bodyDurations]; exact early),
    bodyDurations, List.take_take, Nat.min_eq_left early]

/-- The selects of the line's send obey. -/
theorem Obeyed.body (obeyed : env.Obeyed timeoutMsec line) (index : Nat) (wait : Int)
    (elapsed : Nat) (asked : (env.sent timeoutMsec line).waits[index]? = some wait)
    (took : (durations env.body)[index]? = some elapsed) : elapsed ≤ wait := by
  obtain ⟨inside, -⟩ := List.getElem?_eq_some_iff.mp asked
  obtain ⟨more, all⟩ := @waits_append timeoutMsec line env
  refine obeyed index wait elapsed ?_ ?_
  · rw [all, List.getElem?_append_left inside, asked]
  · rw [waited, List.getElem?_append_left (by rw [length_bodyDurations]; exact inside),
      bodyDurations, List.getElem?_take_of_lt inside, took]

/-- So do those of the line feed's. -/
theorem Obeyed.newline (obeyed : env.Obeyed timeoutMsec line)
    (success : (env.sent timeoutMsec line).status = .success) (index : Nat) (wait : Int)
    (elapsed : Nat) (asked : (env.ended timeoutMsec line).waits[index]? = some wait)
    (took : (durations env.newline)[index]? = some elapsed) : elapsed ≤ wait := by
  refine obeyed ((env.sent timeoutMsec line).waits.length + index) wait elapsed ?_ ?_
  · rw [result_sent success, List.getElem?_append_right (Nat.le_add_right _ _),
      Nat.add_sub_cancel_left, asked]
  · rw [waited, List.getElem?_append_right (by rw [length_bodyDurations]; omega),
      length_bodyDurations, Nat.add_sub_cancel_left, took]

/-- The line's send is over by the deadline. -/
theorem Obeyed.sum_le (obeyed : env.Obeyed timeoutMsec line) :
    (env.bodyDurations timeoutMsec line).sum ≤ timeoutMsec := by
  obtain none | bounded := sendAll_spent obeyed.body
  · have empty : (env.sent timeoutMsec line).waits.length = 0 := none
    rw [bodyDurations, empty]
    exact Nat.zero_le _
  · have within : env.entered + ((env.bodyDurations timeoutMsec line).sum : Int) ≤
        env.entered + timeoutMsec := bounded
    omega

/-- The waits of the line's send are within the deadline. -/
theorem sent_waits {index : Nat} {wait : Int}
    (asked : (env.sent timeoutMsec line).waits[index]? = some wait) :
    0 < wait ∧ wait ≤ timeoutMsec - ((env.waited timeoutMsec line).take index).sum := by
  obtain ⟨inside, -⟩ := List.getElem?_eq_some_iff.mp asked
  obtain ⟨positive, -, isLeft⟩ := sendAll_waits timeoutMsec env.entered env.entered env.body line
    asked
  rw [take_waited (by omega)]
  exact ⟨positive, by omega⟩

/-- The time that passed before a wait for the line feed. -/
theorem sum_take_waited (index : Nat) :
    ((env.waited timeoutMsec line).take
      ((env.sent timeoutMsec line).waits.length + index)).sum =
      (env.bodyDurations timeoutMsec line).sum + ((durations env.newline).take index).sum := by
  rw [waited, ← length_bodyDurations, List.take_length_add_append, List.sum_append]

/-- A line feed that waits after its line has waited is given the whole deadline again. -/
theorem not_inTime_of_waitsTwice (obeyed : env.Obeyed timeoutMsec line)
    (twice : env.WaitsTwice timeoutMsec line) : ¬env.InTime timeoutMsec line := by
  intro inTime
  obtain ⟨room, later, elapsed, answer, rest, isBlocked⟩ := twice
  have success := sent_iff.mpr room
  have passed : 0 < (env.bodyDurations timeoutMsec line).sum := by
    rw [bodyDurations, sent, sendAll_delay success]
    exact later
  have bodySum := obeyed.sum_le
  have first : (env.ended timeoutMsec line).waits[0]? = some (timeoutMsec : Int) := by
    rw [ended, isBlocked, readings]
    obtain ⟨late, -⟩ | ⟨-, -, one⟩ | ⟨-, -, more⟩ := sendAll_blocked timeoutMsec
      (env.entered + (env.bodyDurations timeoutMsec line).sum)
      (env.entered + (env.bodyDurations timeoutMsec line).sum) answer
      (readings (env.entered + (env.bodyDurations timeoutMsec line).sum + elapsed) rest)
      (List.cons_ne_nil lineFeed [])
    · omega
    · rw [one, Int.sub_self, Int.sub_zero]
      rfl
    · rw [more, Int.sub_self, Int.sub_zero]
      rfl
  have asked : (env.result timeoutMsec line).waits[
      (env.sent timeoutMsec line).waits.length + 0]? = some (timeoutMsec : Int) := by
    rw [result_sent success, List.getElem?_append_right (Nat.le_add_right _ _),
      Nat.add_sub_cancel_left, first]
  obtain ⟨-, bounded⟩ := inTime.waits _ _ asked
  rw [sum_take_waited, List.take_zero, List.sum_nil] at bounded
  omega

/-- A line feed that does not wait, or waits when no time has passed yet, is in time. -/
theorem inTime_of_sent (obeyed : env.Obeyed timeoutMsec line)
    (success : (env.sent timeoutMsec line).status = .success)
    (once : (env.bodyDurations timeoutMsec line).sum = 0 ∨
      (env.ended timeoutMsec line).waits = []) : env.InTime timeoutMsec line := by
  have bodySum := obeyed.sum_le
  have waits := @result_sent timeoutMsec line env success
  refine ⟨?_, fun index wait asked => ?_⟩
  · rw [returned, waits, List.length_append, sum_take_waited]
    rcases once with none | unasked
    · obtain zero | bounded := sendAll_spent (obeyed.newline success)
      · have empty : (env.ended timeoutMsec line).waits.length = 0 := zero
        rw [empty, List.take_zero, List.sum_nil]
        omega
      · have within : env.entered + ((env.bodyDurations timeoutMsec line).sum : Int) +
            ((durations env.newline).take (env.ended timeoutMsec line).waits.length).sum ≤
            env.entered + (env.bodyDurations timeoutMsec line).sum + timeoutMsec := bounded
        omega
    · rw [unasked, List.length_nil, List.take_zero, List.sum_nil]
      omega
  · rw [waits] at asked
    by_cases early : index < (env.sent timeoutMsec line).waits.length
    · rw [List.getElem?_append_left early] at asked
      exact sent_waits asked
    · obtain ⟨offset, rfl⟩ := Nat.exists_eq_add_of_le (Nat.not_lt.mp early)
      rw [List.getElem?_append_right (Nat.le_add_right _ _), Nat.add_sub_cancel_left] at asked
      obtain ⟨positive, -, isLeft⟩ := sendAll_waits _ _ _ _ _ asked
      refine ⟨positive, ?_⟩
      rw [sum_take_waited]
      rcases once with none | unasked
      · omega
      · rw [unasked] at asked
        cases asked

/-- A write whose selects obey their waits keeps one deadline, exactly when it does not wait
for the line feed after it has waited for the line. -/
theorem in_time_iff (timeoutMsec : Nat) (line : Bytes) (env : TimedEnv)
    (obeyed : env.Obeyed timeoutMsec line) :
    env.InTime timeoutMsec line ↔ ¬env.WaitsTwice timeoutMsec line := by
  constructor
  · intro inTime twice
    exact not_inTime_of_waitsTwice obeyed twice inTime
  · intro once
    by_cases success : (env.sent timeoutMsec line).status = .success
    · apply inTime_of_sent obeyed success
      by_cases later : (env.bodyDurations timeoutMsec line).sum = 0
      · exact .inl later
      · refine .inr (newline_waits _ _ _ fun elapsed wait rest isBlocked => once ?_)
        refine ⟨sent_iff.mp success, ?_, elapsed, wait, rest, isBlocked⟩
        rw [bodyDurations, sent, sendAll_delay success] at later
        omega
    · have bodySum := obeyed.sum_le
      refine ⟨?_, fun index wait asked => ?_⟩
      · rw [returned, result_unsent success, take_waited (Nat.le_refl _)]
        change env.entered + ((env.bodyDurations timeoutMsec line).sum : Int) ≤ _
        omega
      · rw [result_unsent success] at asked
        exact sent_waits asked

/-- A socket that is full for three seconds before it takes the line, and is full again when
the line feed comes. -/
def fullTwice : TimedEnv := ⟨0, [.blocked 3000 .ready, .sent 2], [.blocked 5000 .expired]⟩

/-- The write returns after eight seconds of a deadline of five. -/
theorem fullTwice_late :
    fullTwice.Obeyed 5000 (ascii "\x7b\x7d") ∧
    fullTwice.returned 5000 (ascii "\x7b\x7d") = 8000 ∧
    (fullTwice.result 5000 (ascii "\x7b\x7d")).waits = [5000, 5000] ∧
    ¬fullTwice.InTime 5000 (ascii "\x7b\x7d") := by
  have late : fullTwice.returned 5000 (ascii "\x7b\x7d") = 8000 := by decide
  have waits : (fullTwice.result 5000 (ascii "\x7b\x7d")).waits = [5000, 5000] := by decide
  have waited : fullTwice.waited 5000 (ascii "\x7b\x7d") = [3000, 5000] := by decide
  refine ⟨?_, late, waits, fun inTime => ?_⟩
  · intro index wait elapsed asked took
    rw [waits] at asked
    rw [waited] at took
    match index with
    | 0 | 1 =>
        cases asked
        cases took
        decide
    | index + 2 => cases asked
  · have bounded := inTime.returned
    rw [late] at bounded
    exact absurd bounded (by decide)

/-- The same socket with room for the line feed. -/
def fullOnce : TimedEnv := ⟨0, [.blocked 3000 .ready, .sent 2], [.sent 1]⟩

theorem fullOnce_inTime :
    fullOnce.Obeyed 5000 (ascii "\x7b\x7d") ∧ fullOnce.InTime 5000 (ascii "\x7b\x7d") := by
  have waits : (fullOnce.result 5000 (ascii "\x7b\x7d")).waits = [5000] := by decide
  have waited : fullOnce.waited 5000 (ascii "\x7b\x7d") = [3000] := by decide
  have obeyed : fullOnce.Obeyed 5000 (ascii "\x7b\x7d") := by
    intro index wait elapsed asked took
    rw [waits] at asked
    rw [waited] at took
    cases index with
    | zero =>
        cases asked
        cases took
        decide
    | succ index => cases asked
  refine ⟨obeyed, (in_time_iff 5000 _ fullOnce obeyed).mpr ?_⟩
  rintro ⟨-, -, elapsed, wait, rest, ⟨⟩⟩

end TimedEnv
end Pjsocky
