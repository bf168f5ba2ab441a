import Pjsocky.Call.Parts

/-!
# Two threads

pjsua runs its callbacks and the timers' on one worker thread; the control thread runs
the commands, and the callbacks that pjsua calls inside them. An expiry is two steps of
the worker: the heap gives the entry up, and later the callback runs. Between the two
the control thread may do anything, so a timer callback can meet an entry that has been
armed again. A callback and a command are one step each: what is interleaved is whole
callbacks and whole commands. `heapSafe_iff` says that, of these interleavings, only such
a meeting makes the flags lose track of the heap.
-/

namespace Pjsocky

open Support

/-- The phone with its worker thread. -/
structure Threads where
  phone : Phone
  /-- The entry that has left the heap and whose callback has yet to run. -/
  pending : Option TimerName
  /-- The calls dialled since the worker last ran. -/
  young : List CallId

/-- One step of either thread. -/
inductive ThreadInput where
  /-- A callback on the worker thread. -/
  | worker (input : CallInput)
  /-- A command, or a callback inside it. -/
  | control (input : CallInput)
  /-- The worker takes an expired entry out of the heap. -/
  | dequeue (name : TimerName)
  /-- The worker runs the callback of the entry it has taken out. -/
  | fire (answers : Answers)

namespace Threads

def start : Threads := ⟨.start, none, []⟩

/-- The id of the call that a command has created. -/
def dialled (daemon : Daemon) : CallInput → List CallId
  | .dial _ _ (.created callId) =>
      if daemon.accId = invalidId || !daemon.registered then [] else [callId]
  | _ => []

def step (lib : CallLib) (threads : Threads) : ThreadInput → Threads
  | .worker input => { threads with phone := threads.phone.step lib input, young := [] }
  | .control input =>
      { threads with
        phone := threads.phone.step lib input
        young := threads.young ++ dialled threads.phone.daemon input }
  | .dequeue name =>
      { threads with
        phone := { threads.phone with daemon := threads.phone.daemon.dequeueTimer name }
        pending := some name
        young := [] }
  | .fire answers =>
      match threads.pending with
      | none => threads
      | some name =>
          { phone :=
              { threads.phone with
                daemon := Phone.timerCb lib answers name threads.phone.daemon }
            pending := none
            young := [] }

/-- The state after a list of inputs. -/
abbrev run (lib : CallLib) : Threads → List ThreadInput → Threads := Machine.run (step lib)

/-- What the worker does on its own: pjsua's callbacks, but not the commands. -/
def OnWorker : CallInput → Prop
  | .incomingCall .. | .callState .. | .callMediaState .. | .callMediaEvent ..
  | .callRxOffer .. => True
  | _ => False

/-- What the control thread does: the commands, and the callbacks about a call's state
and media that pjsua makes inside them. -/
def OnControl : CallInput → Prop
  | .incomingCall .. | .callMediaEvent .. | .callRxOffer .. | .expires .. => False
  | _ => True

/-- The thread that takes a step is free to take it, and pjsua may do what the step
says. -/
def Turn (lib : CallLib) (threads : Threads) : ThreadInput → Prop
  | .worker input =>
      threads.pending = none ∧ OnWorker input ∧ threads.phone.Possible lib input
  | .control input => OnControl input ∧ threads.phone.Possible lib input
  | .dequeue name =>
      threads.pending = none ∧ (threads.phone.daemon.timers name).inHeap = true
  | .fire answers =>
      ∃ name, threads.pending = some name ∧
        answers.Tell (threads.phone.calls (threads.phone.daemon.timers name).userData)

end Threads

/-! ## The flags and the heap -/

/-- `pj_timer_entry_init` or `pjsua_schedule_timer` on an entry that is in the heap. -/
def Action.OnHeap : Action → Prop
  | .initTimer _ _ inHeap | .scheduleTimer _ _ inHeap => inHeap = true
  | _ => False

/-- Every entry in the heap has its flag up, and none was initialised or scheduled while
it was there. -/
structure Daemon.HeapSafe (daemon : Daemon) : Prop where
  flagged : ∀ name, (daemon.timers name).inHeap = true → (daemon.timers name).scheduled = true
  apart : ∀ action ∈ daemon.log, ¬action.OnHeap

/-- An entry in the heap whose flag is down. -/
def Daemon.Lost (name : TimerName) (daemon : Daemon) : Prop :=
  (daemon.timers name).inHeap = true ∧ (daemon.timers name).scheduled = false

namespace Daemon

variable {daemon before after : Daemon} {answers : Answers} {lib : CallLib}
variable {name : TimerName} {callId : CallId}

/-- A cancelled entry is out of the heap, if its flag was up when it was there. -/
theorem cancelTimer_inHeap
    (flagged : (daemon.timers name).inHeap = true → (daemon.timers name).scheduled = true) :
    ((daemon.cancelTimer name).timers name).inHeap = false := by
  by_cases scheduled : (daemon.timers name).scheduled
  · rw [Daemon.cancelTimer, if_pos scheduled, setTimer_timers, Function.update_self]
  · rw [Daemon.cancelTimer, if_neg scheduled]
    exact Bool.eq_false_iff.mpr fun held => scheduled (flagged held)

namespace HeapSafe

theorem start : HeapSafe .start := ⟨nofun, nofun⟩

/-- The other globals do not matter. -/
theorem of_eq (safe : before.HeapSafe) (timers : after.timers = before.timers)
    (log : after.log = before.log) : after.HeapSafe := by
  refine ⟨?_, ?_⟩
  · rw [timers]
    exact safe.flagged
  · rw [log]
    exact safe.apart

/-- An entry in the heap is scheduled for the call it carries. -/
theorem scheduledFor (safe : daemon.HeapSafe) (held : (daemon.timers name).inHeap = true) :
    daemon.ScheduledFor name (daemon.timers name).userData := by
  have flag := safe.flagged name held
  rw [ScheduledFor]
  generalize daemon.timers name = timer at held flag ⊢
  cases timer
  simp_all

theorem record {action : Action} (safe : daemon.HeapSafe) (off : ¬action.OnHeap) :
    (daemon.record action).HeapSafe := by
  refine ⟨safe.flagged, fun other member => ?_⟩
  rcases List.mem_append.mp member with old | new
  · exact safe.apart other old
  · rw [List.mem_singleton.mp new]
    exact off

theorem setTimer {timer : Timer} (safe : daemon.HeapSafe) (name : TimerName)
    (flagged : timer.inHeap = true → timer.scheduled = true) :
    (daemon.setTimer name timer).HeapSafe := by
  refine ⟨fun other held => ?_, safe.apart⟩
  by_cases same : other = name
  · subst same
    rw [setTimer_timers, Function.update_self] at held ⊢
    exact flagged held
  · rw [setTimer_timers, Function.update_of_ne same] at held ⊢
    exact safe.flagged other held

theorem asks (safe : before.HeapSafe) (asks : Asks callId before after) : after.HeapSafe := by
  obtain ⟨added, rfl, questions⟩ := asks
  refine ⟨safe.flagged, fun action member => ?_⟩
  rcases List.mem_append.mp member with old | new
  · exact safe.apart action old
  · intro onHeap
    have question := questions action new
    cases action with
    | initTimer | scheduleTimer => exact question
    | _ => exact onHeap

theorem cancelTimer (safe : daemon.HeapSafe) (name : TimerName) :
    (daemon.cancelTimer name).HeapSafe := by
  unfold Daemon.cancelTimer
  dsimp only
  split
  · exact (safe.record id).setTimer name nofun
  · exact safe

theorem scheduleTimer (safe : daemon.HeapSafe) (free : (daemon.timers name).inHeap = false)
    (answers : Answers) (msec : Nat) : (daemon.scheduleTimer answers name msec).HeapSafe := by
  have asked : (daemon.record (.scheduleTimer name msec (daemon.timers name).inHeap)).HeapSafe :=
    safe.record fun held => Bool.noConfusion (free.symm.trans held)
  unfold Daemon.scheduleTimer
  dsimp only
  split
  · exact asked.setTimer name fun _ => rfl
  · exact asked

/-- An entry that is out of the heap may be initialised and scheduled. -/
theorem arm (safe : daemon.HeapSafe) (free : (daemon.timers name).inHeap = false)
    (answers : Answers) (callId : CallId) (msec : Nat) :
    ((daemon.initTimer name callId).scheduleTimer answers name msec).HeapSafe := by
  have initialised : (daemon.initTimer name callId).HeapSafe := by
    refine (safe.record fun held => ?_).setTimer name (safe.flagged name)
    exact Bool.noConfusion (free.symm.trans held)
  refine initialised.scheduleTimer ?_ answers msec
  simp [initTimer, free]

theorem dequeueTimer (safe : daemon.HeapSafe) (name : TimerName) :
    (daemon.dequeueTimer name).HeapSafe :=
  safe.setTimer name nofun

theorem clearScheduled (safe : daemon.HeapSafe) (free : (daemon.timers name).inHeap = false) :
    (daemon.clearScheduled name).HeapSafe :=
  safe.setTimer name fun held => Bool.noConfusion (free.symm.trans held)

theorem giveUpOnVideo (safe : daemon.HeapSafe) (callId : CallId) (medIdx : Nat)
    (status : Status) (reason : Bytes) :
    (daemon.giveUpOnVideo callId medIdx status reason).HeapSafe := by
  unfold Daemon.giveUpOnVideo
  split
  · exact safe
  · have latched : { daemon with videoFailedCallId := callId }.HeapSafe := of_eq safe rfl rfl
    exact ((latched.cancelTimer .watchdog).record id).record id

/-! ### The callbacks of pjsua -/

/-- Every part of a callback keeps the heap safe: an entry is cancelled before it is armed. -/
theorem parts (answers : Answers) (callId : CallId) : Parts answers callId HeapSafe where
  asks safe asks := safe.asks asks
  pushes _ safe := safe.record id
  cancels name safe := safe.cancelTimer name
  arms name msec safe :=
    (safe.cancelTimer name).arm (cancelTimer_inHeap (safe.flagged name)) answers callId msec
  counts _ _ safe := of_eq safe rfl rfl
  forgets safe := of_eq safe rfl rfl

theorem onCallState (safe : daemon.HeapSafe) (answers : Answers) (callId : CallId) :
    (daemon.onCallState answers callId).HeapSafe :=
  (parts answers callId).onCallState safe

theorem onCallMediaState (safe : daemon.HeapSafe) (answers : Answers) (callId : CallId) :
    (daemon.onCallMediaState answers callId).HeapSafe :=
  (parts answers callId).onCallMediaState safe

theorem onIncomingCall (safe : daemon.HeapSafe) (answers : Answers) (callId : CallId) :
    (daemon.onIncomingCall answers callId).HeapSafe := by
  refine (parts answers callId).onIncomingCall ?_
  exact of_eq safe rfl rfl

theorem onCallMediaEvent (safe : daemon.HeapSafe) (callId : CallId) (medIdx : Nat)
    (event : Option MediaEvent) : (daemon.onCallMediaEvent callId medIdx event).HeapSafe := by
  unfold Daemon.onCallMediaEvent
  split
  · exact safe.giveUpOnVideo ..
  · exact safe

end HeapSafe

/-! ### The callbacks of the timers -/

namespace Lost

theorem not_heapSafe (lost : daemon.Lost name) : ¬daemon.HeapSafe := fun safe =>
  Bool.noConfusion (lost.2.symm.trans (safe.flagged name lost.1))

theorem of_eq (lost : before.Lost name) (timers : after.timers = before.timers) :
    after.Lost name := by
  rw [Lost, timers]
  exact lost

theorem clearScheduled (held : (daemon.timers name).inHeap = true) :
    (daemon.clearScheduled name).Lost name := by
  rw [Lost, Daemon.clearScheduled, setTimer_timers, Function.update_self]
  exact ⟨held, rfl⟩

/-- A lost entry is not cancelled. -/
theorem cancelTimer (lost : daemon.Lost name) : daemon.cancelTimer name = daemon := by
  rw [Daemon.cancelTimer, if_neg]
  exact fun scheduled => Bool.noConfusion (lost.2.symm.trans scheduled)

/-- Scheduling a lost entry is scheduling one that is in the heap. -/
theorem scheduleTimer (lost : daemon.Lost name) (answers : Answers) (msec : Nat) :
    ¬(daemon.scheduleTimer answers name msec).HeapSafe := by
  intro safe
  refine safe.apart (.scheduleTimer name msec true) ?_ rfl
  unfold Daemon.scheduleTimer
  dsimp only
  rw [lost.1]
  split
  · exact List.mem_append_right _ (List.mem_singleton_self _)
  · exact List.mem_append_right _ (List.mem_singleton_self _)

theorem giveUpOnVideo (lost : daemon.Lost .watchdog) (callId : CallId) (medIdx : Nat)
    (status : Status) (reason : Bytes) :
    (daemon.giveUpOnVideo callId medIdx status reason).Lost .watchdog := by
  unfold Daemon.giveUpOnVideo
  split
  · exact lost
  · have latched : { daemon with videoFailedCallId := callId }.Lost .watchdog := lost
    rw [cancelVideoWatchdog, latched.cancelTimer]
    exact latched

end Lost

/-- A timer callback that finds its entry out of the heap. -/
theorem HeapSafe.timerCb (safe : daemon.HeapSafe) (free : (daemon.timers name).inHeap = false)
    (lib : CallLib) (answers : Answers) : (Phone.timerCb lib answers name daemon).HeapSafe := by
  have cleared := safe.clearScheduled free
  have stays {asked : Daemon} (same : asked.timers = (daemon.clearScheduled name).timers) :
      (asked.timers name).inHeap = false := by
    rw [same, Daemon.clearScheduled, setTimer_timers, Function.update_self]
    exact free
  cases name with
  | ring =>
      obtain ⟨asked, asks, same | ⟨same, -⟩⟩ := ringTimerCb_cases answers daemon
      · rw [Phone.timerCb, same]
        exact cleared.asks asks
      · rw [Phone.timerCb, same]
        exact (cleared.asks asks).record id
  | watchdog =>
      obtain ⟨asked, asks, ⟨same, -⟩ | ⟨-, medIdx, seen, ticks, same | same⟩⟩ :=
        videoWatchdogCb_cases lib answers daemon
      · rw [Phone.timerCb, same]
        exact cleared.asks asks
      · rw [Phone.timerCb, same]
        refine HeapSafe.scheduleTimer ?_ ?_ _ _
        · exact (cleared.asks asks).of_eq rfl rfl
        · exact stays asks.timers_eq
      · rw [Phone.timerCb, same]
        refine HeapSafe.giveUpOnVideo ?_ _ _ _ _
        exact (cleared.asks asks).of_eq rfl rfl
  | report =>
      obtain ⟨asked, asks, same | ⟨audio, video, same⟩⟩ := mediaReportCb_cases lib answers daemon
      · rw [Phone.timerCb, same]
        exact cleared.asks asks
      · rw [Phone.timerCb, same]
        refine HeapSafe.scheduleTimer ?_ ?_ _ _
        · exact (cleared.asks asks).record id
        · exact stays asks.timers_eq

/-- A timer callback that finds its entry back in the heap: its first assignment takes the
flag down, and if it goes on to schedule the entry, that is in the heap. -/
theorem timerCb_unsafe (held : (daemon.timers name).inHeap = true) (lib : CallLib)
    (answers : Answers) : ¬(Phone.timerCb lib answers name daemon).HeapSafe := by
  have lost := Lost.clearScheduled held
  cases name with
  | ring =>
      obtain ⟨asked, asks, same | ⟨same, -⟩⟩ := ringTimerCb_cases answers daemon
      · rw [Phone.timerCb, same]
        exact (lost.of_eq asks.timers_eq).not_heapSafe
      · rw [Phone.timerCb, same]
        apply Lost.not_heapSafe
        exact lost.of_eq asks.timers_eq
  | watchdog =>
      obtain ⟨asked, asks, ⟨same, -⟩ | ⟨-, medIdx, seen, ticks, same | same⟩⟩ :=
        videoWatchdogCb_cases lib answers daemon
      · rw [Phone.timerCb, same]
        exact (lost.of_eq asks.timers_eq).not_heapSafe
      · rw [Phone.timerCb, same]
        apply Lost.scheduleTimer
        exact lost.of_eq asks.timers_eq
      · rw [Phone.timerCb, same]
        apply Lost.not_heapSafe
        apply Lost.giveUpOnVideo
        exact lost.of_eq asks.timers_eq
  | report =>
      obtain ⟨asked, asks, same | ⟨audio, video, same⟩⟩ := mediaReportCb_cases lib answers daemon
      · rw [Phone.timerCb, same]
        exact (lost.of_eq asks.timers_eq).not_heapSafe
      · rw [Phone.timerCb, same]
        apply Lost.scheduleTimer
        exact lost.of_eq asks.timers_eq

end Daemon

/-- When an expiry is one step, nothing comes between the heap and the callback. -/
theorem Phone.step_heapSafe {phone : Phone} (safe : phone.daemon.HeapSafe) (lib : CallLib)
    (input : CallInput) : (phone.step lib input).daemon.HeapSafe := by
  cases input with
  | dial uri video outcome =>
      obtain same | ⟨callId, same⟩ := step_dial_daemon lib phone uri video outcome
      · rw [same]
        exact safe
      · rw [same]
        refine Daemon.HeapSafe.record ?_ id
        exact safe.of_eq rfl rfl
  | answer callId code video status =>
      simp only [step, Daemon.answer]
      split
      · exact safe
      · exact safe.record id
  | hangup callId code status =>
      simp only [step, Daemon.hangup]
      split
      · exact safe
      · exact safe.record id
  | hangupAll status =>
      simp only [step, Daemon.hangupAll]
      split
      · exact safe
      · exact safe.record id
  | setRingTimeout | account | captureDevice => exact safe.of_eq rfl rfl
  | incomingCall callId answers => exact safe.onIncomingCall answers callId
  | callState callId state answers => exact safe.onCallState answers callId
  | callMediaState callId media answers => exact safe.onCallMediaState answers callId
  | callMediaEvent callId medIdx event => exact safe.onCallMediaEvent callId medIdx event
  | callRxOffer => exact safe
  | expires name answers =>
      refine (safe.dequeueTimer name).timerCb ?_ lib answers
      simp [Daemon.dequeueTimer]

namespace Threads

/-- The entry whose callback is about to run has not been put back into the heap. -/
def Undisturbed (threads : Threads) : ThreadInput → Prop
  | .fire _ =>
      ∀ name, threads.pending = some name → (threads.phone.daemon.timers name).inHeap = false
  | _ => True

theorem step_heapSafe_iff {threads : Threads} (safe : threads.phone.daemon.HeapSafe)
    (lib : CallLib) (input : ThreadInput) :
    (threads.step lib input).phone.daemon.HeapSafe ↔ threads.Undisturbed input := by
  cases input with
  | worker input => exact iff_of_true (Phone.step_heapSafe safe lib input) trivial
  | control input => exact iff_of_true (Phone.step_heapSafe safe lib input) trivial
  | dequeue name => exact iff_of_true (safe.dequeueTimer name) trivial
  | fire answers =>
      cases waiting : threads.pending with
      | none =>
          refine iff_of_true ?_ ?_
          · simpa only [step, waiting] using safe
          · intro name isPending
            exact absurd (waiting.symm.trans isPending) (Option.some_ne_none name).symm
      | some name =>
          simp only [step, Undisturbed, waiting, Option.some.injEq, forall_eq']
          constructor
          · intro kept
            by_contra held
            exact Daemon.timerCb_unsafe (Bool.not_eq_false _ ▸ held) lib answers kept
          · exact fun free => safe.timerCb free lib answers

/-- The flags never lose track of the heap, and no entry in the heap is initialised or
scheduled, in any state of a run, just when no timer callback runs after its entry has
been put back into the heap. Callbacks and commands run whole. -/
theorem heapSafe_iff (lib : CallLib) (inputs : List ThreadInput) :
    (∀ before after, inputs = before ++ after →
      (run lib start before).phone.daemon.HeapSafe) ↔
    Machine.Along (step lib) Undisturbed start inputs := by
  refine @Machine.invariant_iff_along _ _ (step lib) Undisturbed (fun _ _ => True)
    (fun threads => threads.phone.daemon.HeapSafe) ?_ start inputs Daemon.HeapSafe.start ?_
  · exact fun threads input safe _ => step_heapSafe_iff safe lib input
  · exact Machine.along_of_forall (fun _ _ => trivial) start inputs

/-- Call 0 is up, with a video stream and the two timers that watch it. -/
def established : List ThreadInput :=
  [.control (.account 0 true),
    .control (.dial (ascii "sip:bob@example.com") true (.created 0)),
    .worker (.callState 0 .confirmed (.sample 0 .confirmed [])),
    .worker (.callMediaState 0 [sampleVideo] (.sample 0 .confirmed [sampleVideo]))]

/-- The watchdog expires; before its callback runs, a command makes pjsua report the
call's media on the control thread, which arms the watchdog again. -/
def rearmedInTheGap : List ThreadInput :=
  established ++ [.dequeue .watchdog,
    .control (.callMediaState 0 [sampleVideo] (.sample 0 .confirmed [sampleVideo])),
    .fire (.sample 0 .confirmed [sampleVideo])]

theorem turn_established : Machine.Along (step sampleCallLib) (Turn sampleCallLib) start
    established := by
  have confirmed : (Answers.sample 0 .confirmed []).Tell (some ⟨.confirmed, none, 0⟩) :=
    Answers.sample_tell _ _ _ ⟨rfl, nofun⟩
  have watched : (Answers.sample 0 .confirmed [sampleVideo]).Tell
      (some ⟨.confirmed, some [sampleVideo], 0⟩) :=
    Answers.sample_tell _ _ _ ⟨rfl, fun _ same => Option.some.inj same⟩
  refine ⟨⟨trivial, trivial⟩, ⟨trivial, rfl, by decide⟩, ⟨rfl, trivial, ?_⟩,
    ⟨rfl, trivial, ?_⟩, trivial⟩
  · exact ⟨_, rfl, confirmed⟩
  · exact ⟨_, rfl, watched⟩

/-- The callback then schedules an entry that is in the heap. -/
theorem rearmedInTheGap_unsafe :
    Machine.Along (step sampleCallLib) (Turn sampleCallLib) start rearmedInTheGap ∧
      ¬(run sampleCallLib start rearmedInTheGap).phone.daemon.HeapSafe := by
  have watched : (Answers.sample 0 .confirmed [sampleVideo]).Tell
      (some ⟨.confirmed, some [sampleVideo], 0⟩) :=
    Answers.sample_tell _ _ _ ⟨rfl, fun _ same => Option.some.inj same⟩
  constructor
  · refine Machine.along_append.mpr ⟨turn_established, ⟨rfl, by decide⟩, ⟨trivial, ?_⟩, ?_, trivial⟩
    · exact ⟨_, rfl, watched⟩
    · exact ⟨.watchdog, rfl, watched⟩
  · have held : ((run sampleCallLib start (rearmedInTheGap.take 6)).phone.daemon.timers
        .watchdog).inHeap = true := by decide
    exact Daemon.timerCb_unsafe held sampleCallLib (.sample 0 .confirmed [sampleVideo])

end Threads
end Pjsocky
