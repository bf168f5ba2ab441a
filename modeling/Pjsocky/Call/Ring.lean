import Pjsocky.Call.Threads

/-!
# The ring timer

There is one ring timer for all calls, and a callback that has left the heap can no
longer be cancelled. What protects a call from another call's timeout is that the entry
carries an id, that `on_call_state` cancels the timer of a call that has moved on, and
that between an expiry and its callback only the control thread creates calls, which
stay in CALLING. `ring_rejects_only_its_call` puts this together for whole runs.
-/

namespace Pjsocky

open Support

/-- An action that a step has added to the log. -/
def Daemon.Adds (action : Action) (before after : Daemon) : Prop :=
  ∃ added, after.log = before.log ++ added ∧ action ∈ added

/-- `on_incoming_call` arms the ring timer for this call, with the timeout that is
configured at that moment. -/
def Daemon.ArmsRing (answers : Answers) (callId : CallId) (daemon : Daemon) : Prop :=
  0 < daemon.ringTimeoutSec ∧
    (daemon.onIncomingCall answers callId).ScheduledFor .ring callId ∧
    ∃ inHeap, daemon.Adds (.scheduleTimer .ring (daemon.ringTimeoutSec * 1000) inHeap)
      (daemon.onIncomingCall answers callId)

/-- The call of this id is reported disconnected, on either thread. -/
def ThreadInput.Ends (callId : CallId) : ThreadInput → Prop
  | .worker input | .control input => input.Ends callId
  | _ => False

namespace Threads

/-- Every change of state is reported in a callback that can read it, and a call dialled
since the worker last ran is in CALLING until it ends. -/
def Reported (threads : Threads) : ThreadInput → Prop
  | .worker (.callState _ _ answers) => ∃ info, answers.info 0 = .ok info
  | .control (.callState callId state answers) =>
      (∃ info, answers.info 0 = .ok info) ∧
        (callId ∈ threads.young → state = .calling ∨ state = .disconnected)
  | _ => True

/-- The call of this id came in, `on_incoming_call` armed the ring timer for it, and it has
not been disconnected since. -/
def ArmedFor (lib : CallLib) (history : List ThreadInput) (callId : CallId) : Prop :=
  ∃ first answers since,
    history = first ++ .worker (.incomingCall callId answers) :: since ∧
    (run lib start first).phone.daemon.ArmsRing answers callId ∧
    ∀ input ∈ since, ¬input.Ends callId

/-- An entry of the ring timer in the heap has its flag up, and is for a live call that it
was armed for. -/
structure Armed (lib : CallLib) (history : List ThreadInput) (phone : Phone) : Prop where
  flagged : (phone.daemon.timers .ring).inHeap = true →
    (phone.daemon.timers .ring).scheduled = true
  live : (phone.daemon.timers .ring).inHeap = true →
    phone.Live (phone.daemon.timers .ring).userData
  armed : (phone.daemon.timers .ring).inHeap = true →
    ArmedFor lib history (phone.daemon.timers .ring).userData

/-- An entry of the ring timer that waits for its callback is out of the heap, and its
call, if there is one of that id, is the one it was armed for or was dialled since. -/
structure Waiting (lib : CallLib) (history : List ThreadInput) (threads : Threads) : Prop where
  free : (threads.phone.daemon.timers .ring).inHeap = false
  call : ∀ call, threads.phone.calls (threads.phone.daemon.timers .ring).userData = some call →
    ArmedFor lib history (threads.phone.daemon.timers .ring).userData ∨
      (threads.phone.daemon.timers .ring).userData ∈ threads.young ∧ call.state = .calling

variable {lib : CallLib} {history : List ThreadInput} {threads : Threads} {callId : CallId}

theorem ArmedFor.extend {input : ThreadInput} (armed : ArmedFor lib history callId)
    (goesOn : ¬input.Ends callId) : ArmedFor lib (history ++ [input]) callId := by
  obtain ⟨first, answers, since, rfl, how, unended⟩ := armed
  refine ⟨first, answers, since ++ [input], by simp, how, fun next member => ?_⟩
  rcases List.mem_append.mp member with old | new
  · exact unended next old
  · rw [List.mem_singleton.mp new]
    exact goesOn

end Threads

namespace Daemon

variable {daemon : Daemon} {answers : Answers} {callId : CallId}

theorem log_prefix_cancelTimer (name : TimerName) (daemon : Daemon) :
    daemon.log <+: (daemon.cancelTimer name).log := by
  unfold cancelTimer
  dsimp only
  split
  · exact List.prefix_append _ _
  · exact List.prefix_rfl

theorem adds_scheduleTimer {before : Daemon} (grown : before.log <+: daemon.log)
    (answers : Answers) (name : TimerName) (msec : Nat) :
    ∃ inHeap, before.Adds (.scheduleTimer name msec inHeap)
      (daemon.scheduleTimer answers name msec) := by
  obtain ⟨added, same⟩ := grown
  refine ⟨(daemon.timers name).inHeap, added ++ [.scheduleTimer name msec _], ?_,
    List.mem_append_right _ (List.mem_singleton_self _)⟩
  rw [← List.append_assoc, same]
  unfold scheduleTimer
  dsimp only
  split
  · rfl
  · rfl

theorem adds_arm {before : Daemon} (grown : before.log <+: daemon.log) (answers : Answers)
    (name : TimerName) (callId : CallId) (msec : Nat) :
    ∃ inHeap, before.Adds (.scheduleTimer name msec inHeap)
      ((daemon.initTimer name callId).scheduleTimer answers name msec) :=
  adds_scheduleTimer (grown.trans (List.prefix_append _ _)) answers name msec

theorem Adds.record {before : Daemon} {action : Action} (adds : before.Adds action daemon)
    (other : Action) : before.Adds action (daemon.record other) := by
  obtain ⟨added, same, member⟩ := adds
  refine ⟨added ++ [other], ?_, List.mem_append_left _ member⟩
  rw [← List.append_assoc, ← same]
  rfl

theorem onIncomingCall_limited {info : CallInfo} (callId : CallId)
    (read : answers.info 0 = .ok info) (limited : 0 < daemon.ringTimeoutSec) :
    daemon.onIncomingCall answers callId =
      (((({ daemon with callId }.record (.getInfo callId)).cancelTimer .ring).initTimer .ring
        callId).scheduleTimer answers .ring (daemon.ringTimeoutSec * 1000)).record
          (.push (.incomingCall info)) := by
  simp only [onIncomingCall, read, startRinging, record_ringTimeoutSec, if_pos limited]
  rfl

/-- What `on_incoming_call` does to the ring timer: nothing, or it arms it for the new call,
or it fails to and the entry is out of the heap. -/
theorem onIncomingCall_ring (answers : Answers) (callId : CallId)
    (flagged : (daemon.timers .ring).inHeap = true → (daemon.timers .ring).scheduled = true) :
    (daemon.onIncomingCall answers callId).timers .ring = daemon.timers .ring ∨
      daemon.ArmsRing answers callId ∨
      ((daemon.onIncomingCall answers callId).timers .ring).inHeap = false := by
  cases reading : answers.info 0 with
  | error status =>
      refine .inl ?_
      simp only [onIncomingCall, reading, record_timers]
  | ok info =>
      by_cases limited : 0 < daemon.ringTimeoutSec
      · -- The entry is cancelled first, so it is out of the heap unless it is accepted again.
        cases accepted : answers.schedule .ring with
        | true =>
            refine .inr (.inl ⟨limited, ?_, ?_⟩)
            · rw [onIncomingCall_limited callId reading limited]
              exact armed_scheduledFor accepted _
            · rw [onIncomingCall_limited callId reading limited]
              have grown := (List.prefix_append _ _).trans (log_prefix_cancelTimer .ring
                ({ daemon with callId }.record (.getInfo callId)))
              obtain ⟨inHeap, adds⟩ := adds_arm grown answers .ring callId
                (daemon.ringTimeoutSec * 1000)
              exact ⟨inHeap, adds.record _⟩
        | false =>
            refine .inr (.inr ?_)
            rw [onIncomingCall_limited callId reading limited]
            have cancelled : ((({ daemon with callId }.record (.getInfo callId)).cancelTimer
                .ring).timers .ring).inHeap = false := cancelTimer_inHeap flagged
            simpa [scheduleTimer, accepted, initTimer] using cancelled
      · refine .inl ?_
        simp only [onIncomingCall, reading, startRinging, record_ringTimeoutSec, if_neg limited,
          record_timers]

/-- What `on_call_state` does to the ring timer once it has read the call's state: it
cancels it if it is this call's and the call no longer rings. -/
theorem onCallState_ring_cases {info : CallInfo} (callId : CallId)
    (read : answers.info 0 = .ok info) :
    (daemon.onCallState answers callId).timers .ring =
      if (daemon.timers .ring).scheduled ∧ callId = (daemon.timers .ring).userData ∧
          info.state ≠ .incoming ∧ info.state ≠ .early then
        { daemon.timers .ring with scheduled := false, inHeap := false }
      else daemon.timers .ring := by
  have quiet : ((daemon.record (.getInfo callId)).stopRinging callId info.state).timers .ring =
      if (daemon.timers .ring).scheduled ∧ callId = (daemon.timers .ring).userData ∧
          info.state ≠ .incoming ∧ info.state ≠ .early then
        { daemon.timers .ring with scheduled := false, inHeap := false }
      else daemon.timers .ring := by
    simp only [stopRinging, record_timers]
    split
    · rename_i moved
      simp [cancelRingTimer, cancelTimer, moved.1]
    · rfl
  rw [← quiet]
  unfold onCallState
  simp only [read, record_timers]
  split
  · exact (callEnded_keeps callId _).timers .ring (by decide)
  · rfl

end Daemon

namespace Phone

/-- The inputs that leave the ring timer alone and end no call. -/
def SparesRing : CallInput → Prop
  | .incomingCall .. | .callState .. | .expires .ring _ => False
  | _ => True

theorem SparesRing.not_ends {input : CallInput} (spares : SparesRing input) (callId : CallId) :
    ¬input.Ends callId := by
  intro ends
  cases input with
  | callState => exact spares
  | _ => exact ends

variable {lib : CallLib} {phone : Phone} {input : CallInput}

theorem step_ring (spares : SparesRing input) :
    (phone.step lib input).daemon.timers .ring = phone.daemon.timers .ring := by
  cases input with
  | incomingCall | callState => exact spares.elim
  | dial uri video outcome =>
      obtain same | ⟨callId, same⟩ := step_dial_daemon lib phone uri video outcome
      · rw [same]
      · rw [same]
        rfl
  | answer callId code video status =>
      simp only [step, Daemon.answer]
      split <;> rfl
  | hangup callId code status =>
      simp only [step, Daemon.hangup]
      split <;> rfl
  | hangupAll status =>
      simp only [step, Daemon.hangupAll]
      split <;> rfl
  | setRingTimeout | account | captureDevice | callRxOffer => rfl
  | callMediaState callId media answers =>
      exact (Daemon.onCallMediaState_keeps answers callId phone.daemon).timers .ring (by decide)
  | callMediaEvent callId medIdx event =>
      simp only [step, Daemon.onCallMediaEvent]
      split
      · exact Daemon.giveUpOnVideo_timers (by decide) ..
      · rfl
  | expires name answers =>
      have dequeued (other : name ≠ .ring) :
          (phone.daemon.dequeueTimer name).timers .ring = phone.daemon.timers .ring := by
        rw [Daemon.dequeueTimer, Daemon.setTimer_timers, Function.update_of_ne other.symm]
      cases name with
      | ring => exact spares.elim
      | watchdog =>
          rw [← dequeued (by decide)]
          exact Daemon.videoWatchdogCb_timers (by decide) lib answers _
      | report =>
          rw [← dequeued (by decide)]
          exact (Daemon.mediaReportCb_keeps lib answers _).timers .ring (by decide)

/-- A live call is ended by its own state change only. -/
theorem step_live {callId : CallId} (goesOn : ¬input.Ends callId) (live : phone.Live callId) :
    (phone.step lib input).Live callId := by
  have updated {calls : CallId → Option LiveCall} {target : CallId} {call : Option LiveCall}
      (same : ∀ other, other ≠ target → calls other = phone.calls other)
      (there : target = callId → call ≠ none) :
      Function.update calls target call callId ≠ none := by
    by_cases isTarget : callId = target
    · subst isTarget
      rw [Function.update_self]
      exact there rfl
    · rw [Function.update_of_ne isTarget, same callId isTarget]
      exact live
  cases input with
  | dial uri video outcome =>
      obtain ⟨-, same⟩ | ⟨-, -, ⟨created, -, same, -⟩ | ⟨-, -, -, same, -⟩⟩ :=
        @step_dial_cases lib phone uri video outcome
      · rw [same]
        exact live
      · rw [Live, same]
        exact updated (fun _ _ => rfl) fun _ => Option.some_ne_none _
      · rw [Live, same]
        exact live
  | incomingCall target answers =>
      exact updated (fun _ _ => rfl) fun _ => Option.some_ne_none _
  | callState target state answers =>
      refine updated (fun _ _ => rfl) fun isTarget => ?_
      rw [if_neg fun ended => goesOn ⟨isTarget, ended⟩, isTarget]
      exact fun gone => live (Option.map_eq_none_iff.mp gone)
  | callMediaState target media answers =>
      refine updated (fun _ _ => rfl) fun isTarget => ?_
      rw [isTarget]
      exact fun gone => live (Option.map_eq_none_iff.mp gone)
  | _ => exact live

/-- Without a call created or a change of state, a call has the state it had. -/
theorem step_former {callId : CallId} {call : LiveCall} (spares : SparesRing input)
    (notDial : ∀ uri video outcome, input ≠ .dial uri video outcome)
    (found : (phone.step lib input).calls callId = some call) :
    ∃ former, phone.calls callId = some former ∧ call.state = former.state := by
  cases input with
  | incomingCall | callState => exact spares.elim
  | dial uri video outcome => exact absurd rfl (notDial uri video outcome)
  | callMediaState target media answers =>
      by_cases isTarget : callId = target
      · subst isTarget
        simp only [step, report, Function.update_self, Option.map_eq_some_iff] at found
        obtain ⟨former, wasThere, rfl⟩ := found
        exact ⟨former, wasThere, rfl⟩
      · simp only [step, report, Function.update_of_ne isTarget] at found
        exact ⟨call, found, rfl⟩
  | _ => exact ⟨call, found, rfl⟩

end Phone

namespace Threads

variable {lib : CallLib} {history : List ThreadInput} {threads : Threads} {input : CallInput}

/-- A step that leaves the entry as it is and does not end its call. -/
theorem Armed.keep {phone after : Phone} {next : ThreadInput} (armed : Armed lib history phone)
    (same : after.daemon.timers .ring = phone.daemon.timers .ring)
    (goesOn : (phone.daemon.timers .ring).inHeap = true →
      ¬next.Ends (phone.daemon.timers .ring).userData)
    (lives : (phone.daemon.timers .ring).inHeap = true →
      phone.Live (phone.daemon.timers .ring).userData →
      after.Live (phone.daemon.timers .ring).userData) :
    Armed lib (history ++ [next]) after := by
  refine ⟨?_, ?_, ?_⟩ <;> rw [same]
  · exact armed.flagged
  · exact fun held => lives held (armed.live held)
  · exact fun held => (armed.armed held).extend (goesOn held)

theorem Armed.of_free {phone : Phone} (free : (phone.daemon.timers .ring).inHeap = false) :
    Armed lib history phone := by
  refine ⟨?_, ?_, ?_⟩ <;> rw [free] <;> exact nofun

/-- A callback that is not about the ring timer's call coming in or moving on. -/
theorem Armed.step_spares {next : ThreadInput} (armed : Armed lib history threads.phone)
    (spares : Phone.SparesRing input) (isInput : next = .worker input ∨ next = .control input) :
    Armed lib (history ++ [next]) (threads.phone.step lib input) := by
  have goesOn (callId : CallId) : ¬next.Ends callId := by
    rcases isInput with rfl | rfl <;> exact spares.not_ends callId
  refine armed.keep (Phone.step_ring spares) (fun _ => goesOn _) fun _ live => ?_
  exact Phone.step_live (spares.not_ends _) live

/-- A reported change of state: the entry is cancelled when its call no longer rings. -/
theorem Armed.step_callState {next : ThreadInput} {callId : CallId} {state : InvState}
    {answers : Answers} {info : CallInfo} (armed : Armed lib history threads.phone)
    (read : answers.info 0 = .ok info) (told : info.state = state)
    (isInput : next = .worker (.callState callId state answers) ∨
      next = .control (.callState callId state answers)) :
    Armed lib (history ++ [next])
      (threads.phone.step lib (.callState callId state answers)) := by
  have ring := @Daemon.onCallState_ring_cases threads.phone.daemon answers info callId read
  split at ring
  · refine Armed.of_free ?_
    rw [Phone.step, ring]
  · rename_i rings
    have goesOn (held : (threads.phone.daemon.timers .ring).inHeap = true) :
        ¬(CallInput.callState callId state answers).Ends
          (threads.phone.daemon.timers .ring).userData := by
      rintro ⟨same, ended⟩
      refine rings ⟨armed.flagged held, same, ?_, ?_⟩ <;> rw [told, ended] <;> decide
    refine armed.keep ring (fun held => ?_) fun held live => Phone.step_live (goesOn held) live
    rcases isInput with rfl | rfl <;> exact goesOn held

/-- A call comes in: the entry stays with its call, or is armed for the new one. -/
theorem Armed.step_incomingCall {callId : CallId} {answers : Answers}
    (armed : Armed lib history (run lib start history).phone) :
    Armed lib (history ++ [.worker (.incomingCall callId answers)])
      ((run lib start history).phone.step lib (.incomingCall callId answers)) := by
  have live (other : CallId) := @Phone.step_live lib (run lib start history).phone
    (.incomingCall callId answers) other id
  obtain same | arms | free := Daemon.onIncomingCall_ring answers callId armed.flagged
  · exact armed.keep same (fun _ => id) fun _ => live _
  · have scheduled : ((run lib start history).phone.step lib
        (.incomingCall callId answers)).daemon.timers .ring = ⟨callId, true, true⟩ := arms.2.1
    refine ⟨?_, ?_, ?_⟩ <;> rw [scheduled] <;> intro _
    · rfl
    · apply Phone.live_of_some
      exact Function.update_self ..
    · exact ⟨history, answers, [], rfl, arms, List.forall_mem_nil _⟩
  · exact Armed.of_free free

/-- Every call of the waiting entry's id that is there after a step of the control thread
was there before, or has just been dialled. -/
theorem Waiting.keep {after : Threads} {next : ThreadInput} (waiting : Waiting lib history threads)
    (free : (after.phone.daemon.timers .ring).inHeap = false)
    (same : (after.phone.daemon.timers .ring).userData =
      (threads.phone.daemon.timers .ring).userData)
    (older : threads.young ⊆ after.young)
    (calls : ∀ call, after.phone.calls (threads.phone.daemon.timers .ring).userData = some call →
      (∃ former, threads.phone.calls (threads.phone.daemon.timers .ring).userData = some former ∧
        ¬next.Ends (threads.phone.daemon.timers .ring).userData ∧
        ((threads.phone.daemon.timers .ring).userData ∈ threads.young →
          former.state = .calling → call.state = .calling)) ∨
      (threads.phone.daemon.timers .ring).userData ∈ after.young ∧ call.state = .calling) :
    Waiting lib (history ++ [next]) after := by
  refine ⟨free, ?_⟩
  rw [same]
  intro call found
  obtain ⟨former, wasThere, goesOn, stays⟩ | dialled := calls call found
  · rcases waiting.call former wasThere with armed | ⟨young, calling⟩
    · exact .inl (armed.extend goesOn)
    · exact .inr ⟨older young, stays young calling⟩
  · exact .inr dialled

theorem Waiting.step_callState {callId : CallId} {state : InvState} {answers : Answers}
    {info : CallInfo} (waiting : Waiting lib history threads) (read : answers.info 0 = .ok info)
    (young : callId ∈ threads.young → state = .calling ∨ state = .disconnected) :
    Waiting lib (history ++ [.control (.callState callId state answers)])
      (threads.step lib (.control (.callState callId state answers))) := by
  have ring := @Daemon.onCallState_ring_cases threads.phone.daemon answers info callId read
  refine waiting.keep ?_ ?_ (List.subset_append_left _ _) fun call found => .inl ?_
  · rw [step, Phone.step, ring]
    split
    · rfl
    · exact waiting.free
  · rw [step, Phone.step, ring]
    split <;> rfl
  · rw [step, Phone.step, Phone.moveTo] at found
    by_cases isTarget : (threads.phone.daemon.timers .ring).userData = callId
    · dsimp only at found
      rw [isTarget] at found ⊢
      rw [Function.update_self] at found
      split at found
      · cases found
      · rename_i goesOn
        obtain ⟨former, wasThere, rfl⟩ := Option.map_eq_some_iff.mp found
        refine ⟨former, wasThere, fun ends => goesOn ends.2, fun isYoung _ => ?_⟩
        exact (young isYoung).resolve_right goesOn
    · dsimp only at found
      rw [Function.update_of_ne isTarget] at found
      exact ⟨call, found, fun ends => isTarget ends.1.symm, fun _ calling => calling⟩

theorem Waiting.step_dial (waiting : Waiting lib history threads) (uri : Bytes) (video : Bool)
    (outcome : MakeCallOutcome) :
    Waiting lib (history ++ [.control (.dial uri video outcome)])
      (threads.step lib (.control (.dial uri video outcome))) := by
  have ring := @Phone.step_ring lib threads.phone (.dial uri video outcome) trivial
  refine waiting.keep ?_ ?_ (List.subset_append_left _ _) fun call found => ?_
  · rw [step, ring]
    exact waiting.free
  · rw [step, ring]
  · have former (same : (threads.phone.step lib (.dial uri video outcome)).calls =
        threads.phone.calls) := by
      rw [step, same] at found
      exact found
    obtain ⟨-, same⟩ | ⟨account, registered, ⟨created, rfl, same, -⟩ | ⟨-, -, -, same, -⟩⟩ :=
      @Phone.step_dial_cases lib threads.phone uri video outcome
    · exact .inl ⟨call, former (by rw [same]), id, fun _ calling => calling⟩
    · rw [step, same, Phone.create] at found
      by_cases isNew : (threads.phone.daemon.timers .ring).userData = created
      · rw [isNew, Function.update_self] at found
        refine .inr ⟨?_, ?_⟩
        · rw [isNew, step]
          apply List.mem_append_right
          rw [dialled, if_neg (by simp [account, registered])]
          exact List.mem_singleton_self _
        · cases found
          rfl
      · rw [Function.update_of_ne isNew] at found
        exact .inl ⟨call, found, id, fun _ calling => calling⟩
    · exact .inl ⟨call, former same, id, fun _ calling => calling⟩

theorem OnControl.spares (onControl : OnControl input)
    (other : ¬∃ callId state answers, input = .callState callId state answers) :
    Phone.SparesRing input := by
  cases input with
  | incomingCall | expires => exact onControl.elim
  | callState callId state answers => exact other ⟨callId, state, answers, rfl⟩
  | _ => trivial

theorem Waiting.step_control (waiting : Waiting lib history threads)
    (onControl : OnControl input) (reported : threads.Reported (.control input)) :
    Waiting lib (history ++ [.control input]) (threads.step lib (.control input)) := by
  by_cases isState : ∃ callId state answers, input = .callState callId state answers
  · obtain ⟨callId, state, answers, rfl⟩ := isState
    obtain ⟨⟨info, read⟩, young⟩ := reported
    exact waiting.step_callState read young
  · by_cases isDial : ∃ uri video outcome, input = .dial uri video outcome
    · obtain ⟨uri, video, outcome, rfl⟩ := isDial
      exact waiting.step_dial uri video outcome
    · have spares := onControl.spares isState
      have ring := @Phone.step_ring lib threads.phone input spares
      refine waiting.keep ?_ ?_ (List.subset_append_left _ _) fun call found => .inl ?_
      · rw [step, ring]
        exact waiting.free
      · rw [step, ring]
      · obtain ⟨former, wasThere, same⟩ := Phone.step_former spares
          (fun uri video outcome isInput => isDial ⟨uri, video, outcome, isInput⟩) found
        exact ⟨former, wasThere, spares.not_ends _, fun _ calling => same.trans calling⟩

/-- What a run keeps of the ring timer. -/
structure Ringing (lib : CallLib) (history : List ThreadInput) (threads : Threads) : Prop where
  armed : Armed lib history threads.phone
  waiting : threads.pending = some .ring → Waiting lib history threads

/-- What pjsua promises of a step. -/
def Allowed (lib : CallLib) (threads : Threads) (input : ThreadInput) : Prop :=
  threads.Turn lib input ∧ threads.Reported input

theorem Armed.step_worker (armed : Armed lib history (run lib start history).phone)
    (onWorker : OnWorker input) (possible : (run lib start history).phone.Possible lib input)
    (reported : (run lib start history).Reported (.worker input)) :
    Armed lib (history ++ [.worker input]) ((run lib start history).phone.step lib input) := by
  cases input with
  | incomingCall callId answers => exact armed.step_incomingCall
  | callState callId state answers =>
      obtain ⟨call, -, tells⟩ := possible
      obtain ⟨info, read⟩ := reported
      exact armed.step_callState read (tells.agrees read).1 (.inl rfl)
  | callMediaState | callMediaEvent | callRxOffer => exact armed.step_spares trivial (.inl rfl)
  | _ => exact onWorker.elim

theorem Armed.step_control (armed : Armed lib history threads.phone)
    (onControl : OnControl input) (possible : threads.phone.Possible lib input)
    (reported : threads.Reported (.control input)) :
    Armed lib (history ++ [.control input]) (threads.phone.step lib input) := by
  by_cases isState : ∃ callId state answers, input = .callState callId state answers
  · obtain ⟨callId, state, answers, rfl⟩ := isState
    obtain ⟨call, -, tells⟩ := possible
    obtain ⟨⟨info, read⟩, -⟩ := reported
    exact armed.step_callState read (tells.agrees read).1 (.inr rfl)
  · exact armed.step_spares (onControl.spares isState) (.inr rfl)

/-- An entry of the ring timer leaves the heap. -/
theorem Armed.dequeue (armed : Armed lib history threads.phone)
    (held : (threads.phone.daemon.timers .ring).inHeap = true) :
    Waiting lib (history ++ [.dequeue .ring]) (threads.step lib (.dequeue .ring)) := by
  have ring : ((threads.step lib (.dequeue .ring)).phone.daemon.timers .ring) =
      { threads.phone.daemon.timers .ring with inHeap := false } := by
    simp [step, Daemon.dequeueTimer]
  refine ⟨by rw [ring], ?_⟩
  rw [ring]
  exact fun call _ => .inl ((armed.armed held).extend id)

/-- The callback of a timer leaves the ring timer alone, or it is the ring timer's own and
leaves the entry out of the heap. -/
theorem Armed.fire {name : TimerName} (armed : Armed lib history threads.phone)
    (waiting : name = .ring → Waiting lib history threads) (answers : Answers) :
    Armed lib (history ++ [.fire answers])
      { threads.phone with daemon := Phone.timerCb lib answers name threads.phone.daemon } := by
  cases name with
  | ring =>
      refine Armed.of_free ?_
      have cleared : ((threads.phone.daemon.clearScheduled .ring).timers .ring).inHeap =
          false := by
        rw [Daemon.clearScheduled, Daemon.setTimer_timers, Function.update_self]
        exact (waiting rfl).free
      obtain ⟨asked, asks, same | ⟨same, -⟩⟩ :=
        Daemon.ringTimerCb_cases answers threads.phone.daemon
      · rw [Phone.timerCb, same, asks.timers_eq]
        exact cleared
      · rw [Phone.timerCb, same, Daemon.record_timers, asks.timers_eq]
        exact cleared
  | watchdog =>
      refine armed.keep ?_ (fun _ => id) fun _ live => live
      exact Daemon.videoWatchdogCb_timers (by decide) lib answers _
  | report =>
      refine armed.keep ?_ (fun _ => id) fun _ live => live
      exact (Daemon.mediaReportCb_keeps lib answers _).timers .ring (by decide)

theorem step_ringing (lib : CallLib) (history : List ThreadInput) (next : ThreadInput)
    (ringing : Ringing lib history (run lib start history))
    (allowed : (run lib start history).Allowed lib next) :
    Ringing lib (history ++ [next]) ((run lib start history).step lib next) := by
  obtain ⟨turn, reported⟩ := allowed
  obtain ⟨armed, waiting⟩ := ringing
  cases next with
  | worker input =>
      obtain ⟨idle, onWorker, possible⟩ := turn
      refine ⟨armed.step_worker onWorker possible reported, fun pending => ?_⟩
      exact absurd (idle.symm.trans pending) (Option.some_ne_none _).symm
  | control input =>
      obtain ⟨onControl, possible⟩ := turn
      refine ⟨armed.step_control onControl possible reported, fun pending => ?_⟩
      exact (waiting pending).step_control onControl reported
  | dequeue name =>
      obtain ⟨idle, held⟩ := turn
      by_cases isRing : name = .ring
      · subst isRing
        have dequeued := @Armed.dequeue lib history _ armed held
        exact ⟨Armed.of_free dequeued.free, fun _ => dequeued⟩
      · refine ⟨armed.keep ?_ (fun _ => id) fun _ live => live, fun pending => ?_⟩
        · exact Function.update_of_ne (Ne.symm isRing) ..
        · exact absurd (Option.some.inj pending) isRing
  | fire answers =>
      obtain ⟨name, pending, -⟩ := turn
      simp only [step, pending]
      refine ⟨armed.fire (fun isRing => waiting (pending.trans (by rw [isRing]))) answers, ?_⟩
      intro isPending
      cases isPending

theorem ringing_run {inputs : List ThreadInput}
    (allowed : Machine.Along (step lib) (Allowed lib) start inputs) :
    Ringing lib inputs (run lib start inputs) :=
  Machine.invariant_traced (step_ringing lib) ⟨Armed.of_free rfl, nofun⟩ allowed

/-- `ring_timer_cb` hangs up the call of its entry, with 480, when it reads that it still
rings. -/
theorem ringTimerCb_hangup {daemon : Daemon} {answers : Answers} {target : CallId} {code : Nat}
    (hangsUp : daemon.Adds (.hangup target code) (daemon.ringTimerCb answers)) :
    target = (daemon.timers .ring).userData ∧ code = temporarilyUnavailable ∧
      ∃ info, answers.info 0 = .ok info ∧ (info.state = .incoming ∨ info.state = .early) := by
  obtain ⟨added, logged, member⟩ := hangsUp
  obtain ⟨asked, ⟨questions, rfl, asks⟩, same | ⟨same, rings⟩⟩ :=
    Daemon.ringTimerCb_cases answers daemon
  · rw [same] at logged
    rw [← List.append_cancel_left logged] at member
    exact (asks _ member).elim
  · rw [same, Daemon.record_log, List.append_assoc] at logged
    rw [← List.append_cancel_left logged] at member
    rcases List.mem_append.mp member with question | hangup
    · exact (asks _ question).elim
    · cases List.mem_singleton.mp hangup
      exact ⟨rfl, rfl, rings⟩

/-- Whenever `ring_timer_cb` hangs a call up, in any interleaving of the two threads, it
does so with 480, and the call is the one that came in when `on_incoming_call` armed the
timer, with the timeout configured then; it has not been disconnected since and still
rings. -/
theorem ring_rejects_only_its_call {before : List ThreadInput} {answers : Answers}
    {target : CallId} {code : Nat}
    (allowed : Machine.Along (step lib) (Allowed lib) start (before ++ [.fire answers]))
    (pending : (run lib start before).pending = some .ring)
    (hangsUp : (run lib start before).phone.daemon.Adds (.hangup target code)
      ((run lib start before).step lib (.fire answers)).phone.daemon) :
    code = temporarilyUnavailable ∧ ArmedFor lib before target ∧
      ∃ call, (run lib start before).phone.calls target = some call ∧
        (call.state = .incoming ∨ call.state = .early) := by
  obtain ⟨earlier, ⟨turn, -⟩, -⟩ := Machine.along_append.mp allowed
  obtain ⟨name, isPending, tells⟩ := turn
  obtain rfl : TimerName.ring = name := Option.some.inj (pending.symm.trans isPending)
  simp only [step, pending] at hangsUp
  obtain ⟨rfl, rfl, info, read, rings⟩ := ringTimerCb_hangup hangsUp
  obtain ⟨call, found, agrees, -⟩ := tells 0 info read
  rw [agrees] at rings
  refine ⟨rfl, ?_, call, found, rings⟩
  -- A call dialled since the expiry would be in CALLING, not ringing.
  rcases ((ringing_run earlier).waiting pending).call call found with armed | ⟨-, calling⟩
  · exact armed
  · rw [calling] at rings
    rcases rings with isIncoming | isEarly
    · cases isIncoming
    · cases isEarly

/-- A call comes in with a ring timeout of 30 seconds and is not answered. -/
def unanswered : List ThreadInput :=
  [.control (.setRingTimeout 30),
    .worker (.incomingCall 0 (.sample 0 .incoming [])),
    .dequeue .ring]

/-- When the timer fires, it hangs the ringing call up. -/
theorem unanswered_rejected :
    (run sampleCallLib start unanswered).phone.daemon.Adds (.hangup 0 480)
      ((run sampleCallLib start unanswered).step sampleCallLib
        (.fire (.sample 0 .incoming []))).phone.daemon ∧
    ArmedFor sampleCallLib unanswered 0 ∧
    ∃ call, (run sampleCallLib start unanswered).phone.calls 0 = some call ∧
      (call.state = .incoming ∨ call.state = .early) := by
  have rejects : (run sampleCallLib start unanswered).phone.daemon.Adds (.hangup 0 480)
      ((run sampleCallLib start unanswered).step sampleCallLib
        (.fire (.sample 0 .incoming []))).phone.daemon :=
    ⟨[.getInfo 0, .hangup 0 480], rfl, List.mem_cons_of_mem _ (List.mem_singleton_self _)⟩
  refine ⟨rejects, (ring_rejects_only_its_call ?_ rfl rejects).2⟩
  have tells : (Answers.sample 0 .incoming []).Tell (some ⟨.incoming, none, 0⟩) :=
    Answers.sample_tell _ _ _ ⟨rfl, nofun⟩
  refine ⟨⟨⟨trivial, trivial⟩, trivial⟩, ⟨⟨rfl, trivial, rfl, by decide⟩, trivial⟩,
    ⟨⟨rfl, by decide⟩, trivial⟩, ⟨⟨.ring, rfl, tells⟩, trivial⟩, trivial⟩

end Threads
end Pjsocky
