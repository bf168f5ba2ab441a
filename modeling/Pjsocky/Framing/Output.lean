import Pjsocky.Framing.Buffer

/-!
# Writing lines

`sendAll` and `writeLine` are `send_all` and `pjsocky_framing_write_line` of
`framing.c`. What the kernel answers is an input: for each of the two sends of a
line, the clock at its start and the outcomes of the send and select calls in
order. When they are used up the socket takes everything it is offered, so a list
stands for every run of the loop that returns.
-/

namespace Pjsocky

open Support

/-- What `select` answers while waiting for writability. -/
inductive SelectOutcome where
  | ready
  | expired
  | failed (status : Failure)

/-- What one iteration of `send_all` meets. -/
inductive SendStep where
  /-- `pj_sock_send` succeeds and takes this many of the bytes offered. -/
  | sent (count : Nat)
  /-- The socket buffer is full: the clock then reads `now` and `select` answers. -/
  | blocked (now : Int) (wait : SelectOutcome)
  /-- `pj_sock_send` fails with a status other than would-block. -/
  | failed (status : Failure)

/-- What a write did: its status, the bytes the socket took and the waits, in
milliseconds, asked of `select`. -/
structure SendResult where
  status : Status
  accepted : Bytes
  waits : List Int
deriving DecidableEq

/-- `send_all`, from the clock reading `started` on. -/
def sendAll (timeoutMsec : Nat) (started : Int) : List SendStep → Bytes → SendResult
  | [], buf => ⟨.success, buf, []⟩
  | step :: rest, buf =>
      if buf.length = 0 then ⟨.success, [], []⟩
      else match step with
        | .sent count =>
            let sent := min count buf.length
            if sent = 0 then ⟨.eeof, [], []⟩
            else
              let later := sendAll timeoutMsec started rest (buf.drop sent)
              { later with accepted := buf.take sent ++ later.accepted }
        | .failed status => ⟨status, [], []⟩
        | .blocked now wait =>
            let remainingMsec := timeoutMsec - (now - started)
            if remainingMsec ≤ 0 then ⟨.etimedout, [], []⟩
            else
              let retry :=
                let later := sendAll timeoutMsec started rest buf
                { later with waits := remainingMsec :: later.waits }
              match wait with
              | .ready => retry
              | .expired => ⟨.etimedout, [], [remainingMsec]⟩
              | .failed status =>
                  if status.1 = .fromOs eintr then retry else ⟨status, [], [remainingMsec]⟩

/-- The kernel's answers to one `pjsocky_framing_write_line`: those to the send of
the line and those to the send of its line feed. -/
structure WriteEnv where
  bodyStarted : Int
  body : List SendStep
  newlineStarted : Int
  newline : List SendStep

/-- A socket that takes everything at once. -/
def WriteEnv.open : WriteEnv := ⟨0, [], 0, []⟩

/-- `pjsocky_framing_write_line`. -/
def writeLine (timeoutMsec : Nat) (line : Bytes) (env : WriteEnv) : SendResult :=
  let sent := sendAll timeoutMsec env.bodyStarted env.body line
  if sent.status ≠ .success then sent
  else
    let ended := sendAll timeoutMsec env.newlineStarted env.newline [lineFeed]
    ⟨ended.status, sent.accepted ++ ended.accepted, sent.waits ++ ended.waits⟩

/-- The outcomes after which `send_all` gives up. -/
def SendStep.fails (timeoutMsec : Nat) (started : Int) : SendStep → Bool
  | .sent count => count = 0
  | .failed _ => true
  | .blocked now wait =>
      timeoutMsec - (now - started) ≤ 0 ||
        match wait with
        | .ready => false
        | .expired => true
        | .failed status => status.1 ≠ .fromOs eintr

/-- The bytes an outcome asks to move. -/
def SendStep.count : SendStep → Nat
  | .sent count => count
  | _ => 0

/-- The bytes the outcomes take in all before the first that fails, without limit
when none does. -/
def capacity (timeoutMsec : Nat) (started : Int) : List SendStep → Option Nat
  | [] => none
  | step :: rest =>
      if step.fails timeoutMsec started then some 0
      else (capacity timeoutMsec started rest).map (step.count + ·)

/-- How many bytes of a line of some length, its line feed included, go out. -/
def WriteEnv.taken (timeoutMsec length : Nat) (env : WriteEnv) : Nat :=
  let body := (capacity timeoutMsec env.bodyStarted env.body).getD length
  if body < length then body
  else length + min 1 ((capacity timeoutMsec env.newlineStarted env.newline).getD 1)

/-- A socket that takes everything in time. -/
def WriteEnv.Healthy (timeoutMsec : Nat) (env : WriteEnv) : Prop :=
  capacity timeoutMsec env.bodyStarted env.body = none ∧
    capacity timeoutMsec env.newlineStarted env.newline = none

theorem WriteEnv.Healthy.taken_eq {timeoutMsec : Nat} {env : WriteEnv}
    (healthy : env.Healthy timeoutMsec) (length : Nat) :
    env.taken timeoutMsec length = length + 1 := by
  simp [WriteEnv.taken, healthy.1, healthy.2]

section SendAll

variable {timeoutMsec : Nat} {started : Int}

@[simp] theorem sendAll_empty (steps : List SendStep) :
    sendAll timeoutMsec started steps [] = ⟨.success, [], []⟩ := by
  cases steps <;> simp [sendAll]

/-- What one outcome does to the rest of a send: it ends it before another byte
moves, with a failure, or it takes the next bytes and the rest follows. -/
theorem sendAll_cons (timeoutMsec : Nat) (started : Int) (step : SendStep)
    (rest : List SendStep) {buf : Bytes} (nonempty : buf ≠ []) :
    let result := sendAll timeoutMsec started (step :: rest) buf
    if step.fails timeoutMsec started then result.status ≠ .success ∧ result.accepted = []
    else
      let later := sendAll timeoutMsec started rest (buf.drop step.count)
      result.status = later.status ∧
        result.accepted = buf.take step.count ++ later.accepted := by
  have size : buf.length ≠ 0 := by simpa using nonempty
  cases step with
  | sent count =>
      by_cases none : count = 0
      · simp [SendStep.fails, sendAll, size, none]
      · have some : ¬ min count buf.length = 0 := by omega
        have clamped : buf.drop (min count buf.length) = buf.drop count := by
          by_cases within : count ≤ buf.length
          · rw [Nat.min_eq_left within]
          · rw [Nat.min_eq_right (by omega), List.drop_of_length_le (Nat.le_refl _),
              List.drop_of_length_le (by omega)]
        have stored : buf.take (min count buf.length) = buf.take count :=
          List.take_eq_take_min.symm
        simp [SendStep.fails, SendStep.count, sendAll, size, none, some, clamped, stored]
  | failed status => simp [SendStep.fails, sendAll, size, status.2]
  | blocked now wait =>
      by_cases late : (timeoutMsec : Int) - (now - started) ≤ 0
      · simp [SendStep.fails, sendAll, size, late]
      · cases wait with
        | ready => simp [SendStep.fails, SendStep.count, sendAll, size, late]
        | expired => simp [SendStep.fails, sendAll, size, late]
        | failed status =>
            by_cases interrupted : status.1 = .fromOs eintr
            · simp [SendStep.fails, SendStep.count, sendAll, size, late, interrupted]
            · simp [SendStep.fails, sendAll, size, late, interrupted, status.2]

/-- A send moves the bytes the outcomes have room for, and succeeds exactly when
that is all of them. -/
theorem sendAll_taken (steps : List SendStep) (buf : Bytes) :
    let result := sendAll timeoutMsec started steps buf
    let room := (capacity timeoutMsec started steps).getD buf.length
    result.accepted = buf.take room ∧ (result.status = .success ↔ buf.length ≤ room) := by
  induction steps generalizing buf with
  | nil => simp [sendAll, capacity]
  | cons step rest ih =>
      by_cases nonempty : buf = []
      · simp [nonempty]
      · have size : 0 < buf.length := List.length_pos_iff.mpr nonempty
        have first := sendAll_cons timeoutMsec started step rest nonempty
        simp only at first
        split at first
        · rename_i fails
          simp [capacity, fails, first, nonempty]
        · rename_i continues
          obtain ⟨accepted, whole⟩ := ih (buf.drop step.count)
          simp only [first.1, first.2, whole, accepted, capacity, continues]
          cases capacity timeoutMsec started rest with
          | none =>
              rw [Option.getD_none, List.take_length, List.take_append_drop]
              simp
          | some room =>
              simp only [Bool.false_eq_true, if_false, Option.map_some, Option.getD_some,
                List.length_drop]
              exact ⟨List.take_add.symm, by omega⟩

/-- A line write moves the bytes that go out, and succeeds exactly when that is the
line and its line feed. -/
theorem writeLine_taken (line : Bytes) (env : WriteEnv) :
    let result := writeLine timeoutMsec line env
    let taken := env.taken timeoutMsec line.length
    result.accepted = (line ++ [lineFeed]).take taken ∧
      (result.status = .success ↔ taken = line.length + 1) := by
  obtain ⟨bodyAccepted, bodyWhole⟩ := @sendAll_taken timeoutMsec env.bodyStarted env.body line
  obtain ⟨endAccepted, endWhole⟩ :=
    @sendAll_taken timeoutMsec env.newlineStarted env.newline [lineFeed]
  simp only [writeLine, WriteEnv.taken]
  by_cases stops :
      (capacity timeoutMsec env.bodyStarted env.body).getD line.length < line.length
  · have failed := bodyWhole.not.mpr (by omega)
    rw [if_pos failed, if_pos stops, bodyAccepted, List.take_append_of_le_length (by omega)]
    exact ⟨rfl, iff_of_false failed (by omega)⟩
  · have sent := bodyWhole.mpr (by omega)
    rw [if_neg (not_not.mpr sent), if_neg stops, bodyAccepted, endAccepted,
      List.take_of_length_le (by omega)]
    refine ⟨?_, endWhole.trans ?_⟩
    · rw [List.take_length_add_append, List.length_singleton]
      cases (capacity timeoutMsec env.newlineStarted env.newline).getD 1 <;> simp
    · simp only [List.length_singleton]
      omega

end SendAll

end Pjsocky
