import Pjsocky.Call.Threads
import Pjsocky.Call.Timers
import Pjsocky.Call.Video

/-!
# The latch of `give_up_on_video`

`g_video_failed_call_id` remembers one call whose video was given up, by its id. It is
overwritten when another call's video fails, and an event that comes after its call has
ended sets it for whichever call gets the id next. `VideoStep` says once what a step can
do to the latch, the removals and the watchdog; from it follow exactly when the video of
a call is given up once, and exactly when a new call starts with a clean record.
-/

namespace Pjsocky

open Support

/-- The video device of this call fails. -/
def CallInput.Fails (callId : CallId) : CallInput → Prop
  | .callMediaEvent target _ (some (.vidDevError _)) => target = callId
  | _ => False

/-- The media of this call are reported with video that is being sent, and pjsua accepts
the watchdog. -/
def CallInput.Sends (callId : CallId) : CallInput → Prop
  | .callMediaState target _ answers =>
      target = callId ∧ answers.schedule .watchdog = true ∧
        ∃ info, answers.info 0 = .ok info ∧ SendsVideo info.media
  | _ => False

namespace CallInput

variable {input : CallInput} {callId other : CallId}

theorem Fails.unique (fails : input.Fails callId) (again : input.Fails other) :
    callId = other := by
  unfold Fails at fails again
  split at fails
  · exact fails.symm.trans again
  · exact fails.elim

theorem Sends.unique (sends : input.Sends callId) (again : input.Sends other) :
    callId = other := by
  cases input with
  | callMediaState => exact sends.1.symm.trans again.1
  | _ => exact sends.elim

theorem Fails.not_sends (fails : input.Fails callId) : ¬input.Sends other := by
  cases input with
  | callMediaEvent => exact id
  | _ => exact fails.elim

theorem Sends.not_ends (sends : input.Sends callId) : ¬input.Ends other := by
  cases input with
  | callMediaState => exact id
  | _ => exact sends.elim

end CallInput

namespace Daemon

variable {daemon : Daemon} {answers : Answers} {callId other : CallId} {media : List CallMedia}

/-- `arm_video_watchdog` schedules the watchdog only for video that is sent and was not given
up. -/
theorem scheduledFor_armVideoWatchdog
    (armed : (daemon.armVideoWatchdog answers callId media).ScheduledFor .watchdog other) :
    SendsVideo media ∧ callId ≠ daemon.videoFailedCallId ∧ answers.schedule .watchdog = true := by
  have latch : daemon.cancelVideoWatchdog.videoFailedCallId = daemon.videoFailedCallId :=
    ((Keeps.refl [.watchdog] daemon).cancelTimer (List.mem_singleton_self _)).latch
  unfold armVideoWatchdog at armed
  dsimp only at armed
  split at armed
  · exact absurd (armed.scheduled.symm.trans (cancelTimer_scheduled .watchdog daemon)) (by decide)
  · rename_i arms
    obtain ⟨finds, unlatched⟩ := not_or.mp arms
    refine ⟨?_, latch ▸ unlatched, ?_⟩
    · rw [findSendingVideo_eq_none_iff, not_not] at finds
      exact finds
    · by_contra refused
      have unscheduled := cancelTimer_scheduled .watchdog daemon
      simp [scheduleTimer, refused, initTimer, ScheduledFor] at armed
      exact absurd (armed.2.1.symm.trans unscheduled) (by decide)

end Daemon

namespace Phone

/-- The removals of video and their warnings are as before. -/
structure SameRecord (phone after : Phone) : Prop where
  removals : ∀ callId, after.daemon.removals callId = phone.daemon.removals callId
  warnings : ∀ callId, after.daemon.warnings callId = phone.daemon.warnings callId

/-- The live calls are as before, with what had been removed when they were created. -/
def SameCalls (phone after : Phone) : Prop :=
  ∀ callId, (after.calls callId).map LiveCall.removals =
    (phone.calls callId).map LiveCall.removals

/-- No call has the watchdog that did not have it before. -/
def NoNewWatch (phone after : Phone) : Prop :=
  ∀ callId, after.daemon.ScheduledFor .watchdog callId →
    phone.daemon.ScheduledFor .watchdog callId

/-- What a step can do to the record of failed video. -/
inductive VideoStep (lib : CallLib) (phone : Phone) (input : CallInput) (after : Phone) : Prop
  /-- Nothing; a failure, or video that is sent, is of the call that the latch names. -/
  | keeps (latched : ∀ callId, input.Fails callId ∨ input.Sends callId →
        callId = phone.daemon.videoFailedCallId)
      (goesOn : ∀ callId, ¬input.Ends callId)
      (calls : phone.SameCalls after) (record : phone.SameRecord after)
      (latch : after.daemon.videoFailedCallId = phone.daemon.videoFailedCallId)
      (watch : phone.NoNewWatch after)
  /-- A call is created. -/
  | creates (callId : CallId) (state : InvState) (fresh : phone.Fresh lib callId)
      (calm : ∀ other, ¬input.Fails other ∧ ¬input.Sends other)
      (goesOn : ∀ other, ¬input.Ends other)
      (calls : after.calls = phone.create callId state) (record : phone.SameRecord after)
      (latch : after.daemon.videoFailedCallId = phone.daemon.videoFailedCallId)
      (watch : phone.NoNewWatch after)
  /-- A call ends, and the latch is cleared if it names the call and this can be read. -/
  | ends (callId : CallId) (answers : Answers)
      (isInput : input = .callState callId .disconnected answers) (live : phone.Live callId)
      (calls : after.calls = Function.update phone.calls callId none)
      (record : phone.SameRecord after)
      (latch : (∃ info, answers.info 0 = .ok info) ∧ callId = phone.daemon.videoFailedCallId ∧
          after.daemon.videoFailedCallId = invalidId ∨
        ((∃ info, answers.info 0 = .ok info) → callId ≠ phone.daemon.videoFailedCallId) ∧
          after.daemon.videoFailedCallId = phone.daemon.videoFailedCallId)
      (watch : phone.NoNewWatch after)
  /-- The watchdog is armed for a call that sends video. -/
  | arms (callId : CallId) (sends : input.Sends callId)
      (unlatched : callId ≠ phone.daemon.videoFailedCallId)
      (calls : phone.SameCalls after) (record : phone.SameRecord after)
      (latch : after.daemon.videoFailedCallId = phone.daemon.videoFailedCallId)
      (armed : after.daemon.ScheduledFor .watchdog callId)
  /-- Video is given up, because the device failed or the watchdog ran out. -/
  | givesUp (callId : CallId) (unlatched : callId ≠ phone.daemon.videoFailedCallId)
      (cause : input.Fails callId ∨ (∀ other, ¬input.Fails other ∧ ¬input.Sends other) ∧
        phone.Live callId ∧ phone.daemon.ScheduledFor .watchdog callId)
      (goesOn : ∀ other, ¬input.Ends other)
      (calls : phone.SameCalls after)
      (removals : ∀ other, after.daemon.removals other =
        phone.daemon.removals other + if callId = other then 1 else 0)
      (warnings : ∀ other, after.daemon.warnings other =
        phone.daemon.warnings other + if callId = other then 1 else 0)
      (latch : after.daemon.videoFailedCallId = callId)
      (watch : ∀ other, ¬after.daemon.ScheduledFor .watchdog other)

variable {lib : CallLib} {phone after : Phone} {input : CallInput} {callId : CallId}

theorem SameCalls.refl (phone : Phone) : phone.SameCalls phone := fun _ => rfl

theorem SameCalls.found {call : LiveCall} (same : phone.SameCalls after)
    (found : after.calls callId = some call) :
    ∃ former, phone.calls callId = some former ∧ former.removals = call.removals := by
  have unchanged := same callId
  rw [found, Option.map_some, eq_comm, Option.map_eq_some_iff] at unchanged
  exact unchanged

theorem SameCalls.live (same : phone.SameCalls after) :
    after.Live callId ↔ phone.Live callId := by
  rw [Live, Live, ne_eq, ← Option.map_eq_none_iff, same callId, Option.map_eq_none_iff]

theorem SameCalls.gaveUp (same : phone.SameCalls after) (record : phone.SameRecord after) :
    after.GaveUp callId ↔ phone.GaveUp callId :=
  gaveUp_congr (same callId) (record.removals callId)

/-! ## What each input does -/

theorem videoStep_quiet (quiet : Quiet input) :
    VideoStep lib phone input (phone.step lib input) := by
  obtain ⟨calls, keeps⟩ := @step_quiet lib phone input quiet
  refine .keeps ?_ ?_ ?_ ⟨keeps.removals, keeps.warnings⟩ keeps.latch ?_
  · intro callId tries
    cases input with
    | callMediaEvent | callMediaState => exact quiet.elim
    | _ => exact tries.elim False.elim False.elim
  · intro callId ends
    cases input with
    | callState => exact quiet
    | _ => exact ends
  · intro callId
    rw [calls]
  · exact fun callId => (keeps.scheduledFor (by decide)).mp

theorem videoStep_dial (uri : Bytes) (video : Bool) (outcome : MakeCallOutcome)
    (possible : phone.Possible lib (.dial uri video outcome)) :
    VideoStep lib phone (.dial uri video outcome)
      (phone.step lib (.dial uri video outcome)) := by
  have calm : ∀ other, ¬(CallInput.dial uri video outcome).Fails other ∧
      ¬(CallInput.dial uri video outcome).Sends other := fun _ => ⟨id, id⟩
  rcases phone.step_dial_cases uri video outcome with
    ⟨-, same⟩ | ⟨-, -, ⟨callId, rfl, calls, keeps⟩ | ⟨status, written, rfl, calls, keeps⟩⟩
  · rw [same]
    exact .keeps (fun _ tries => tries.elim False.elim False.elim) (fun _ => id) (.refl _)
      ⟨fun _ => rfl, fun _ => rfl⟩ rfl fun _ => id
  · exact .creates callId .calling possible calm (fun _ => id) calls
      ⟨keeps.removals, keeps.warnings⟩ keeps.latch
      fun other => (keeps.scheduledFor (by decide)).mp
  · exact .keeps (fun _ tries => tries.elim False.elim False.elim) (fun _ => id)
      (fun other => by rw [calls]) ⟨keeps.removals, keeps.warnings⟩ keeps.latch
      fun other => (keeps.scheduledFor (by decide)).mp

theorem videoStep_incomingCall (answers : Answers) (fresh : phone.Fresh lib callId) :
    VideoStep lib phone (.incomingCall callId answers)
      (phone.step lib (.incomingCall callId answers)) := by
  have keeps := Daemon.onIncomingCall_keeps answers callId phone.daemon
  exact .creates callId .incoming fresh (fun _ => ⟨id, id⟩) (fun _ => id) rfl
    ⟨keeps.removals, keeps.warnings⟩ keeps.latch fun other => (keeps.scheduledFor (by decide)).mp

/-- A change of state that does not end the call. -/
theorem videoStep_moved {state : InvState} {answers : Answers} {call : LiveCall}
    (tells : answers.Tell (some { call with state })) (goesOn : state ≠ .disconnected) :
    VideoStep lib phone (.callState callId state answers)
      (phone.step lib (.callState callId state answers)) := by
  have keeps : phone.daemon.Keeps [.ring] (phone.daemon.onCallState answers callId) :=
    Daemon.onCallState_keeps callId fun info read => by
      rw [(tells.agrees read).1]
      exact goesOn
  refine .keeps (fun _ tries => tries.elim False.elim False.elim) (fun _ ends => goesOn ends.2) ?_
    ⟨keeps.removals, keeps.warnings⟩ keeps.latch fun other => (keeps.scheduledFor (by decide)).mp
  intro other
  by_cases same : other = callId
  · subst same
    simp [step, moveTo, goesOn, Function.comp_def]
  · simp [step, moveTo, same]

/-- The end of a call, as far as its info can be read. -/
theorem videoStep_ended {answers : Answers} {call : LiveCall}
    (found : phone.calls callId = some call)
    (tells : answers.Tell (some { call with state := .disconnected })) :
    VideoStep lib phone (.callState callId .disconnected answers)
      (phone.step lib (.callState callId .disconnected answers)) := by
  cases reading : answers.info 0 with
  | error status =>
      have keeps : phone.daemon.Keeps [.ring] (phone.daemon.onCallState answers callId) :=
        Daemon.onCallState_keeps callId fun info read => by
          rw [reading] at read
          cases read
      refine .ends callId answers rfl (live_of_some found) rfl ⟨keeps.removals, keeps.warnings⟩
        (.inr ⟨?_, keeps.latch⟩) fun other => (keeps.scheduledFor (by decide)).mp
      rintro ⟨info, read⟩
      rw [reading] at read
      cases read
  | ok info =>
      have ended := (tells.agrees reading).1
      have stopped : phone.daemon.Keeps [.ring]
          ((phone.daemon.record (.getInfo callId)).stopRinging callId .disconnected) :=
        ((Daemon.Keeps.refl _ _).record fun _ => ⟨rfl, rfl⟩).trans
          (Daemon.stopRinging_keeps callId .disconnected _)
      have forgotten := Daemon.callEnded_keeps callId
        ((phone.daemon.record (.getInfo callId)).stopRinging callId .disconnected)
      have same := @Daemon.onCallState_ended phone.daemon answers info callId reading ended
      refine .ends callId answers rfl (live_of_some found) rfl ⟨?_, ?_⟩ ?_ ?_
      · intro other
        rw [step, same, Daemon.removals_record, forgotten.removals]
        exact stopped.removals other
      · intro other
        rw [step, same, Daemon.warnings_record, forgotten.warnings]
        exact stopped.warnings other
      · have latch :
            (phone.step lib (.callState callId .disconnected answers)).daemon.videoFailedCallId =
            if callId = phone.daemon.videoFailedCallId then invalidId
            else phone.daemon.videoFailedCallId := by
          rw [step, same, Daemon.record_videoFailedCallId, forgotten.latch,
            Daemon.forget_videoFailedCallId, stopped.latch]
        by_cases isLatched : callId = phone.daemon.videoFailedCallId
        · exact .inl ⟨⟨info, reading⟩, isLatched, latch.trans (if_pos isLatched)⟩
        · exact .inr ⟨fun _ => isLatched, latch.trans (if_neg isLatched)⟩
      · intro other armed
        rw [step, same] at armed
        exact absurd (armed.scheduled.symm.trans (Daemon.callEnded_unscheduled .watchdog
          (List.mem_cons_self ..))) (by decide)

theorem report_sameCalls (media : List CallMedia) (daemon : Daemon) :
    phone.SameCalls ⟨daemon, phone.report callId media⟩ :=
  fun other => report_removals media other

/-- A report of a call's media. -/
theorem videoStep_reported {media : List CallMedia} {answers : Answers} :
    VideoStep lib phone (.callMediaState callId media answers)
      (phone.step lib (.callMediaState callId media answers)) := by
  have keeps := Daemon.onCallMediaState_keeps answers callId phone.daemon
  cases reading : answers.info 0 with
  | error status =>
      refine .keeps ?_ (fun _ => id) (report_sameCalls media _) ⟨keeps.removals, keeps.warnings⟩
        keeps.latch fun other armed => ?_
      · rintro other (fails | ⟨-, -, info, read, -⟩)
        · exact fails.elim
        · rw [reading] at read
          cases read
      · rw [step, Daemon.onCallMediaState_unread callId phone.daemon reading] at armed
        exact armed
  | ok info =>
      by_cases armsNow : SendsVideo info.media ∧ answers.schedule .watchdog = true ∧
          callId ≠ phone.daemon.videoFailedCallId
      · obtain ⟨sends, accepted, unlatched⟩ := armsNow
        refine .arms callId ⟨rfl, accepted, info, reading, sends⟩ unlatched
          (report_sameCalls media _) ⟨keeps.removals, keeps.warnings⟩ keeps.latch ?_
        exact Daemon.onCallMediaState_scheduledFor reading sends unlatched accepted
      · refine .keeps ?_ (fun _ => id) (report_sameCalls media _) ⟨keeps.removals, keeps.warnings⟩
          keeps.latch fun other armed => ?_
        · rintro other (fails | ⟨rfl, accepted, again, read, sends⟩)
          · exact fails.elim
          · rw [reading] at read
            cases read
            by_contra unlatched
            exact armsNow ⟨sends, accepted, unlatched⟩
        · obtain ⟨connected, asked, watchdog⟩ :=
            Daemon.onCallMediaState_watchdog callId phone.daemon reading
          have latch := ((Daemon.Keeps.refl [] phone.daemon).asks asked).latch
          have scheduled : (connected.armVideoWatchdog answers callId info.media).ScheduledFor
              .watchdog other := watchdog.symm.trans armed
          obtain ⟨sends, unlatched, accepted⟩ := Daemon.scheduledFor_armVideoWatchdog scheduled
          exact absurd ⟨sends, accepted, latch ▸ unlatched⟩ armsNow

/-- `give_up_on_video` for a call that the latch does not name. -/
theorem videoStep_givesUp {daemon : Daemon} (medIdx : Nat) (status : Status) (reason : Bytes)
    (keeps : phone.daemon.Keeps [.watchdog] daemon)
    (unlatched : callId ≠ phone.daemon.videoFailedCallId)
    (cause : input.Fails callId ∨ (∀ other, ¬input.Fails other ∧ ¬input.Sends other) ∧
      phone.Live callId ∧ phone.daemon.ScheduledFor .watchdog callId)
    (goesOn : ∀ other, ¬input.Ends other) :
    VideoStep lib phone input
      ⟨daemon.giveUpOnVideo callId medIdx status reason, phone.calls⟩ := by
  have isUnlatched : callId ≠ daemon.videoFailedCallId := keeps.latch ▸ unlatched
  refine .givesUp callId unlatched cause goesOn (.refl _) ?_ ?_
    (Daemon.giveUpOnVideo_latch ..) ?_
  · intro other
    dsimp only
    rw [Daemon.giveUpOnVideo_removals, keeps.removals]
    simp only [isUnlatched, ne_eq, not_false_eq_true, and_true]
  · intro other
    dsimp only
    rw [Daemon.giveUpOnVideo_warnings, keeps.warnings]
    simp only [isUnlatched, ne_eq, not_false_eq_true, and_true]
  · intro other armed
    obtain ⟨cancelled, -, unscheduled, removed⟩ :=
      Daemon.giveUpOnVideo_keeps medIdx status reason isUnlatched
    rw [removed] at armed
    exact absurd (armed.scheduled.symm.trans unscheduled) (by decide)

/-- A device error, or another event. -/
theorem videoStep_event (medIdx : Nat) (event : Option MediaEvent) :
    VideoStep lib phone (.callMediaEvent callId medIdx event)
      (phone.step lib (.callMediaEvent callId medIdx event)) := by
  match event with
  | none | some .other =>
      exact .keeps (fun _ tries => tries.elim False.elim False.elim) (fun _ => id) (.refl _)
        ⟨fun _ => rfl, fun _ => rfl⟩ rfl fun _ => id
  | some (.vidDevError status) =>
      by_cases latched : callId = phone.daemon.videoFailedCallId
      · have same : phone.step lib (.callMediaEvent callId medIdx (some (.vidDevError status))) =
            phone := by
          rw [step, Daemon.onCallMediaEvent, Daemon.giveUpOnVideo, if_pos latched]
        rw [same]
        refine .keeps ?_ (fun _ => id) (.refl _) ⟨fun _ => rfl, fun _ => rfl⟩ rfl fun _ => id
        rintro other (rfl | sends)
        · exact latched
        · exact sends.elim
      · exact videoStep_givesUp medIdx status _ (.refl _ _) latched (.inl rfl) fun _ => id

/-- The watchdog expires. -/
theorem videoStep_ticked {answers : Answers} (safe : phone.daemon.HeapSafe)
    (possible : phone.Possible lib (.expires .watchdog answers)) :
    VideoStep lib phone (.expires .watchdog answers)
      (phone.step lib (.expires .watchdog answers)) := by
  obtain ⟨held, tells⟩ := possible
  have scheduled := safe.scheduledFor held
  have calm : ∀ other, ¬(CallInput.expires .watchdog answers).Fails other ∧
      ¬(CallInput.expires .watchdog answers).Sends other := fun _ => ⟨id, id⟩
  have member : TimerName.watchdog ∈ [TimerName.watchdog] := List.mem_singleton_self _
  have cleared : Daemon.Keeps [.watchdog] phone.daemon
      ((phone.daemon.dequeueTimer .watchdog).clearScheduled .watchdog) :=
    ((Daemon.Keeps.refl _ _).dequeueTimer .watchdog member).setTimer member _
  have timer : ((phone.daemon.dequeueTimer .watchdog).clearScheduled .watchdog).timers .watchdog =
      ⟨(phone.daemon.timers .watchdog).userData, false, false⟩ := by
    simp [Daemon.clearScheduled, Daemon.dequeueTimer]
  have unscheduled {after : Daemon} {other : CallId} (same : after.timers =
      ((phone.daemon.dequeueTimer .watchdog).clearScheduled .watchdog).timers) :
      ¬after.ScheduledFor .watchdog other := by
    intro armed
    rw [Daemon.ScheduledFor, same, timer] at armed
    cases armed
  have userData : ((phone.daemon.dequeueTimer .watchdog).timers .watchdog).userData =
      (phone.daemon.timers .watchdog).userData := by simp [Daemon.dequeueTimer]
  have kept {after : Daemon} (keeps : phone.daemon.Keeps [.watchdog] after)
      (watch : ∀ callId, after.ScheduledFor .watchdog callId →
        phone.daemon.ScheduledFor .watchdog callId) :
      VideoStep lib phone (.expires .watchdog answers) ⟨after, phone.calls⟩ :=
    .keeps (fun _ tries => tries.elim False.elim False.elim) (fun _ => id) (.refl _)
      ⟨keeps.removals, keeps.warnings⟩ keeps.latch watch
  obtain ⟨asked, asks, ⟨same, -⟩ | ⟨⟨info, read⟩, medIdx, seen, ticks, same | same⟩⟩ :=
    Daemon.videoWatchdogCb_cases lib answers (phone.daemon.dequeueTimer .watchdog)
  · rw [step, timerCb, same]
    exact kept (cleared.asks asks) fun other armed => absurd armed (unscheduled asks.timers_eq)
  · rw [step, timerCb, same]
    have counted := (cleared.asks asks).counted seen ticks
    refine kept (counted.scheduleTimer member _ _) fun other armed => ?_
    have isUserData := armed.userData
    rw [Daemon.scheduleTimer_userData, asks.timers_eq, timer] at isUserData
    exact isUserData ▸ scheduled
  · rw [step, timerCb, same, userData]
    by_cases latched : (phone.daemon.timers .watchdog).userData = phone.daemon.videoFailedCallId
    · have latch := (cleared.asks asks).latch
      rw [Daemon.giveUpOnVideo, if_pos (latched.trans latch.symm)]
      exact kept ((cleared.asks asks).counted seen ticks) fun other armed =>
        absurd armed (unscheduled asks.timers_eq)
    · obtain ⟨call, found, -⟩ := tells 0 info read
      exact videoStep_givesUp medIdx _ _ ((cleared.asks asks).counted seen ticks) latched
        (.inr ⟨calm, live_of_some found, scheduled⟩) fun _ => id

/-- Every step that pjsua can make is one of these. -/
theorem step_video (safe : phone.daemon.HeapSafe) (possible : phone.Possible lib input) :
    VideoStep lib phone input (phone.step lib input) := by
  cases input with
  | answer | hangup | hangupAll | setRingTimeout | account | captureDevice | callRxOffer =>
      exact videoStep_quiet trivial
  | dial uri video outcome => exact videoStep_dial uri video outcome possible
  | incomingCall callId answers => exact videoStep_incomingCall answers possible
  | callState callId state answers =>
      obtain ⟨call, found, tells⟩ := possible
      by_cases ended : state = .disconnected
      · subst ended
        exact videoStep_ended found tells
      · exact videoStep_moved tells ended
  | callMediaState callId media answers => exact videoStep_reported
  | callMediaEvent callId medIdx event => exact videoStep_event medIdx event
  | expires name answers =>
      cases name with
      | ring | report => exact videoStep_quiet trivial
      | watchdog => exact videoStep_ticked safe possible

/-! ## Giving up once -/

/-- Since a live call was created its video was given up at most once, with one warning
each time, and a call that gave up does not have the watchdog. -/
structure GivenUpOnce (phone : Phone) : Prop where
  once : ∀ callId call, phone.calls callId = some call →
    phone.daemon.removals callId ≤ call.removals + 1
  warned : ∀ callId, phone.daemon.warnings callId = phone.daemon.removals callId
  unwatched : ∀ callId, phone.GaveUp callId → ¬phone.daemon.ScheduledFor .watchdog callId

/-- The latch still names a call that gave up when its device fails again, or when its video
is reported as being sent. -/
def Steady (phone : Phone) (input : CallInput) : Prop :=
  ∀ callId, phone.GaveUp callId → input.Fails callId ∨ input.Sends callId →
    callId = phone.daemon.videoFailedCallId

theorem steady_of_calm (calm : ∀ other, ¬input.Fails other ∧ ¬input.Sends other) :
    phone.Steady input :=
  fun callId _ tries => tries.elim (fun fails => absurd fails (calm callId).1)
    fun sends => absurd sends (calm callId).2

theorem GivenUpOnce.of_same (given : phone.GivenUpOnce) (calls : phone.SameCalls after)
    (record : phone.SameRecord after)
    (unwatched : ∀ callId, phone.GaveUp callId → ¬after.daemon.ScheduledFor .watchdog callId) :
    after.GivenUpOnce where
  once callId call found := by
    obtain ⟨former, wasThere, same⟩ := calls.found found
    rw [record.removals, ← same]
    exact given.once callId former wasThere
  warned callId := by
    rw [record.removals, record.warnings]
    exact given.warned callId
  unwatched callId gaveUp := unwatched callId ((calls.gaveUp record).mp gaveUp)

/-- A new call has nothing removed yet, and the others are as they were. -/
theorem GivenUpOnce.create {state : InvState} (given : phone.GivenUpOnce)
    (calls : after.calls = phone.create callId state) (record : phone.SameRecord after)
    (watch : phone.NoNewWatch after) : after.GivenUpOnce := by
  have found : ∀ other call, after.calls other = some call →
      call.removals = phone.daemon.removals other ∨ phone.calls other = some call := by
    intro other call isCall
    rw [calls, Phone.create] at isCall
    by_cases isNew : other = callId
    · subst isNew
      rw [Function.update_self] at isCall
      cases isCall
      exact .inl rfl
    · rw [Function.update_of_ne isNew] at isCall
      exact .inr isCall
  refine ⟨fun other call isCall => ?_, fun other => ?_, ?_⟩
  · rw [record.removals]
    rcases found other call isCall with new | old
    · omega
    · exact given.once other call old
  · rw [record.removals, record.warnings]
    exact given.warned other
  · rintro other ⟨call, isCall, more⟩ armed
    rw [record.removals] at more
    rcases found other call isCall with new | old
    · omega
    · exact given.unwatched other ⟨call, old, more⟩ (watch other armed)

theorem GivenUpOnce.ended (given : phone.GivenUpOnce)
    (calls : after.calls = Function.update phone.calls callId none)
    (record : phone.SameRecord after) (watch : phone.NoNewWatch after) : after.GivenUpOnce := by
  have found : ∀ other call, after.calls other = some call → phone.calls other = some call := by
    intro other call isCall
    rw [calls] at isCall
    by_cases isEnded : other = callId
    · subst isEnded
      rw [Function.update_self] at isCall
      cases isCall
    · rwa [Function.update_of_ne isEnded] at isCall
  refine ⟨fun other call isCall => ?_, fun other => ?_, ?_⟩
  · rw [record.removals]
    exact given.once other call (found other call isCall)
  · rw [record.removals, record.warnings]
    exact given.warned other
  · rintro other ⟨call, isCall, more⟩ armed
    rw [record.removals] at more
    exact given.unwatched other ⟨call, found other call isCall, more⟩ (watch other armed)

theorem VideoStep.givenUpOnce_iff (takes : VideoStep lib phone input after)
    (given : phone.GivenUpOnce) : after.GivenUpOnce ↔ phone.Steady input := by
  cases takes with
  | keeps latched goesOn calls record latch watch =>
      refine iff_of_true (given.of_same calls record fun callId gaveUp armed => ?_)
        fun callId _ tries => latched callId tries
      exact given.unwatched callId gaveUp (watch callId armed)
  | creates callId state fresh calm goesOn calls record latch watch =>
      exact iff_of_true (given.create calls record watch) (steady_of_calm calm)
  | ends callId answers isInput live calls record latch watch =>
      subst isInput
      exact iff_of_true (given.ended calls record watch) (steady_of_calm fun _ => ⟨id, id⟩)
  | arms callId sends unlatched calls record latch armed =>
      constructor
      · intro once other gaveUp tries
        rcases tries with fails | again
        · exact absurd sends fails.not_sends
        · obtain rfl := sends.unique again
          exact absurd armed (once.unwatched callId ((calls.gaveUp record).mpr gaveUp))
      · intro steady
        refine given.of_same calls record fun other gaveUp armedOther => ?_
        obtain rfl : callId = other := armed.userData.symm.trans armedOther.userData
        exact unlatched (steady callId gaveUp (.inr sends))
  | givesUp callId unlatched cause goesOn calls removals warnings latch watch =>
      have gaveUpNot : phone.Steady input → ¬phone.GaveUp callId := by
        intro steady gaveUp
        rcases cause with fails | ⟨-, -, armed⟩
        · exact unlatched (steady callId gaveUp (.inl fails))
        · exact given.unwatched callId gaveUp armed
      constructor
      · rintro once other ⟨call, found, more⟩ (fails | sends)
        · rcases cause with failed | ⟨calm, -⟩
          · obtain rfl := failed.unique fails
            have unchanged := calls callId
            rw [found, Option.map_some, Option.map_eq_some_iff] at unchanged
            obtain ⟨later, isLater, same⟩ := unchanged
            have atMostOne := once.once callId later isLater
            rw [removals, if_pos rfl, same] at atMostOne
            omega
          · exact absurd fails (calm other).1
        · rcases cause with failed | ⟨calm, -⟩
          · exact absurd sends failed.not_sends
          · exact absurd sends (calm other).2
      · intro steady
        refine ⟨fun other call found => ?_, fun other => ?_, fun other _ => watch other⟩
        · obtain ⟨former, wasThere, same⟩ := calls.found found
          have before := given.once other former wasThere
          rw [removals]
          split
          · rename_i isOther
            subst isOther
            have notMore : ¬former.removals < phone.daemon.removals callId := fun more =>
              gaveUpNot steady ⟨former, wasThere, more⟩
            omega
          · omega
        · rw [removals, warnings, given.warned]

theorem start_givenUpOnce : Phone.start.GivenUpOnce where
  once _ _ found := nomatch found
  warned _ := rfl
  unwatched _ gaveUp := absurd gaveUp.live (not_not.mpr rfl)

/-- In every state of a run the video of each live call was given up at most once, and its
watchdog was not scheduled again, exactly when the latch still named a call that gave up
each time its device failed again or its video was reported as being sent. -/
theorem given_up_once_iff (lib : CallLib) (inputs : List CallInput)
    (possible : Machine.Along (step lib) (fun phone input => phone.Possible lib input) start
      inputs) :
    (∀ before after, inputs = before ++ after → (run lib start before).GivenUpOnce) ↔
      Machine.Along (step lib) Steady start inputs := by
  have exactly := @Machine.invariant_iff_along _ _ (step lib) Steady
    (fun phone input => phone.Possible lib input)
    (fun phone => phone.daemon.HeapSafe ∧ phone.GivenUpOnce)
    (fun phone input holds possible => by
      rw [← (step_video holds.1 possible).givenUpOnce_iff holds.2]
      exact and_iff_right (step_heapSafe holds.1 lib input))
    start inputs ⟨Daemon.HeapSafe.start, start_givenUpOnce⟩ possible
  rw [← exactly]
  refine forall_congr' fun before => forall_congr' fun after => imp_congr_right fun _ => ?_
  refine (and_iff_right ?_).symm
  exact @Machine.invariant_always _ _ (step lib) (fun phone => phone.daemon.HeapSafe)
    (fun phone input safe => step_heapSafe safe lib input) start Daemon.HeapSafe.start before

/-- Two calls, one after the other on the same camera. -/
def twoCalls : List CallInput :=
  [.account 0 true, .dial (ascii "sip:bob@example.com") true (.created 0),
    .incomingCall 1 (.sample 1 .incoming []),
    .callMediaEvent 0 1 (some (.vidDevError (.library 7)))]

/-- While one call fails, its errors are counted once. -/
theorem twoCalls_once : (run sampleCallLib start (twoCalls ++ [.callMediaEvent 0 1
    (some (.vidDevError (.library 7)))])).GivenUpOnce := by
  refine (given_up_once_iff sampleCallLib _ ?_).mpr ?_ _ [] (List.append_nil _).symm
  · exact ⟨trivial, ⟨rfl, by decide⟩, ⟨rfl, by decide⟩, trivial, trivial, trivial⟩
  · refine ⟨steady_of_calm fun _ => ⟨id, id⟩, steady_of_calm fun _ => ⟨id, id⟩,
      steady_of_calm fun _ => ⟨id, id⟩, ?_, ?_, trivial⟩
    · rintro callId ⟨call, found, more⟩ (rfl | sends)
      · cases found
        exact absurd more (by decide)
      · exact sends.elim
    · rintro callId - (rfl | sends)
      · rfl
      · exact sends.elim

/-- When the errors of two calls alternate, each overwrites the other's latch and the first
call's video is removed again. -/
theorem alternatingErrors_remove_twice :
    Machine.Along (step sampleCallLib) (fun phone input => phone.Possible sampleCallLib input)
      start (twoCalls ++ [.callMediaEvent 1 1 (some (.vidDevError (.library 7))),
        .callMediaEvent 0 1 (some (.vidDevError (.library 7)))]) ∧
    ¬(run sampleCallLib start (twoCalls ++ [.callMediaEvent 1 1 (some (.vidDevError (.library 7))),
        .callMediaEvent 0 1 (some (.vidDevError (.library 7)))])).GivenUpOnce := by
  constructor
  · exact ⟨trivial, ⟨rfl, by decide⟩, ⟨rfl, by decide⟩, trivial, trivial, trivial, trivial⟩
  · intro given
    have atMostOne := given.once 0 ⟨.calling, none, 0⟩ rfl
    exact absurd atMostOne (by decide)

/-! ## A clean record for every new call -/

/-- What a new call may count on: the latch names no id that is free, the first failure of
a live call is acted upon, and its video gets the watchdog when it is sent. -/
structure CleanStart (lib : CallLib) (phone : Phone) : Prop where
  unlatched : ∀ callId, phone.Fresh lib callId → phone.daemon.videoFailedCallId ≠ callId
  heeded : ∀ callId medIdx status, phone.Live callId → ¬phone.GaveUp callId →
    (phone.step lib (.callMediaEvent callId medIdx (some (.vidDevError status)))).daemon.removals
      callId = phone.daemon.removals callId + 1
  watched : ∀ callId media answers, phone.Live callId → ¬phone.GaveUp callId →
    (CallInput.callMediaState callId media answers).Sends callId →
    (phone.step lib (.callMediaState callId media answers)).daemon.ScheduledFor .watchdog callId

/-- Device errors come while their call is live, and the end of the call that the latch
names can be read. -/
def Punctual (lib : CallLib) (phone : Phone) (input : CallInput) : Prop :=
  (∀ callId, input.Fails callId → lib.isValidCallId callId = true → phone.Live callId) ∧
  ∀ callId answers, input = .callState callId .disconnected answers →
    callId = phone.daemon.videoFailedCallId → ∃ info, answers.info 0 = .ok info

/-- The latch names no call, or a live one that gave up. -/
def Latched (lib : CallLib) (phone : Phone) : Prop :=
  lib.isValidCallId phone.daemon.videoFailedCallId = true →
    phone.GaveUp phone.daemon.videoFailedCallId

/-- What every run keeps of its live calls. -/
structure Sound (lib : CallLib) (phone : Phone) : Prop where
  safe : phone.daemon.HeapSafe
  valid : ∀ callId, phone.Live callId → lib.isValidCallId callId = true
  counted : ∀ callId call, phone.calls callId = some call →
    call.removals ≤ phone.daemon.removals callId

theorem cleanStart_iff (sound : phone.Sound lib) : phone.CleanStart lib ↔ phone.Latched lib := by
  have heeds := Daemon.giveUpOnVideo_removals
  constructor
  · intro clean valid
    by_contra kept
    by_cases live : phone.Live phone.daemon.videoFailedCallId
    · have removed := clean.heeded _ 0 .success live kept
      rw [step, Daemon.onCallMediaEvent, heeds, if_neg fun both => both.2 rfl] at removed
      omega
    · exact clean.unlatched _ ⟨valid, live⟩ rfl
  · intro latched
    have unlatched {callId : CallId} (live : phone.Live callId) (kept : ¬phone.GaveUp callId) :
        callId ≠ phone.daemon.videoFailedCallId := by
      rintro rfl
      exact kept (latched (sound.valid _ live))
    refine ⟨?_, ?_, ?_⟩
    · rintro callId ⟨valid, free⟩ rfl
      exact free (latched valid).live
    · intro callId medIdx status live kept
      rw [step, Daemon.onCallMediaEvent, heeds, if_pos ⟨rfl, unlatched live kept⟩]
    · rintro callId media answers live kept ⟨-, accepted, info, read, sends⟩
      exact Daemon.onCallMediaState_scheduledFor read sends (unlatched live kept) accepted

theorem Sound.of_same (sound : phone.Sound lib) (safe : after.daemon.HeapSafe)
    (calls : phone.SameCalls after)
    (more : ∀ callId, phone.daemon.removals callId ≤ after.daemon.removals callId) :
    after.Sound lib where
  safe := safe
  valid callId live := sound.valid callId (calls.live.mp live)
  counted callId call found := by
    obtain ⟨former, wasThere, same⟩ := calls.found found
    rw [← same]
    exact (sound.counted callId former wasThere).trans (more callId)

theorem VideoStep.sound (takes : VideoStep lib phone input after) (sound : phone.Sound lib)
    (safe : after.daemon.HeapSafe) : after.Sound lib := by
  cases takes with
  | keeps latched goesOn calls record latch watch =>
      exact sound.of_same safe calls fun callId => (record.removals callId).ge
  | arms callId sends unlatched calls record latch armed =>
      exact sound.of_same safe calls fun other => (record.removals other).ge
  | givesUp callId unlatched cause goesOn calls removals warnings latch watch =>
      refine sound.of_same safe calls fun other => ?_
      rw [removals]
      omega
  | creates callId state fresh calm goesOn calls record latch watch =>
      refine ⟨safe, fun other live => ?_, fun other call found => ?_⟩
      · by_cases isNew : other = callId
        · rw [isNew]
          exact fresh.1
        · rw [Live, calls, Phone.create, Function.update_of_ne isNew] at live
          exact sound.valid other live
      · rw [record.removals]
        rw [calls, Phone.create] at found
        by_cases isNew : other = callId
        · subst isNew
          rw [Function.update_self] at found
          cases found
          exact le_rfl
        · rw [Function.update_of_ne isNew] at found
          exact sound.counted other call found
  | ends callId answers isInput live calls record latch watch =>
      refine ⟨safe, fun other isLive => ?_, fun other call found => ?_⟩
      · by_cases isEnded : other = callId
        · rw [isEnded]
          exact sound.valid callId live
        · rw [Live, calls, Function.update_of_ne isEnded] at isLive
          exact sound.valid other isLive
      · rw [record.removals]
        rw [calls] at found
        by_cases isEnded : other = callId
        · subst isEnded
          rw [Function.update_self] at found
          cases found
        · rw [Function.update_of_ne isEnded] at found
          exact sound.counted other call found

theorem punctual_of_goesOn (goesOn : ∀ other, ¬input.Ends other)
    (live : ∀ other, input.Fails other → lib.isValidCallId other = true → phone.Live other) :
    phone.Punctual lib input := by
  refine ⟨live, fun other answers isInput _ => ?_⟩
  subst isInput
  exact absurd ⟨rfl, rfl⟩ (goesOn other)

theorem Latched.of_same (latched : phone.Latched lib) (calls : phone.SameCalls after)
    (record : phone.SameRecord after)
    (latch : after.daemon.videoFailedCallId = phone.daemon.videoFailedCallId) :
    after.Latched lib := by
  rw [Latched, latch, calls.gaveUp record]
  exact latched

theorem latched_ended_iff {answers : Answers} (sound : phone.Sound lib)
    (latched : phone.Latched lib) (live : phone.Live callId)
    (calls : after.calls = Function.update phone.calls callId none)
    (record : phone.SameRecord after)
    (latch : (∃ info, answers.info 0 = .ok info) ∧ callId = phone.daemon.videoFailedCallId ∧
        after.daemon.videoFailedCallId = invalidId ∨
      ((∃ info, answers.info 0 = .ok info) → callId ≠ phone.daemon.videoFailedCallId) ∧
        after.daemon.videoFailedCallId = phone.daemon.videoFailedCallId) :
    after.Latched lib ↔ phone.Punctual lib (.callState callId .disconnected answers) := by
  have punctual_iff : phone.Punctual lib (.callState callId .disconnected answers) ↔
      (callId = phone.daemon.videoFailedCallId → ∃ info, answers.info 0 = .ok info) := by
    constructor
    · exact fun punctual => punctual.2 callId answers rfl
    · refine fun readable => ⟨nofun, fun other others isInput => ?_⟩
      cases isInput
      exact readable
  rw [punctual_iff]
  rcases latch with ⟨read, isLatched, cleared⟩ | ⟨unread, same⟩
  · refine iff_of_true (fun valid => ?_) fun _ => read
    rw [cleared] at valid
    exact absurd valid (by simp [CallLib.isValidCallId, invalidId])
  · by_cases isLatched : callId = phone.daemon.videoFailedCallId
    · refine iff_of_false (fun latchedAfter => ?_) fun readable =>
        unread (readable isLatched) isLatched
      -- The latch names the call that has just ended.
      rw [Latched, same, ← isLatched] at latchedAfter
      have isLive := (latchedAfter (sound.valid callId live)).live
      rw [Live, calls, Function.update_self] at isLive
      exact isLive rfl
    · refine iff_of_true (fun valid => ?_) fun named => absurd named isLatched
      rw [same] at valid ⊢
      refine (gaveUp_congr ?_ (record.removals _)).mpr (latched valid)
      rw [calls, Function.update_of_ne (Ne.symm isLatched)]

theorem VideoStep.latched_iff (takes : VideoStep lib phone input after) (sound : phone.Sound lib)
    (latched : phone.Latched lib) : after.Latched lib ↔ phone.Punctual lib input := by
  cases takes with
  | keeps isLatched goesOn calls record latch watch =>
      refine iff_of_true (latched.of_same calls record latch)
        (punctual_of_goesOn goesOn fun callId fails valid => ?_)
      have named := isLatched callId (.inl fails)
      rw [named] at valid ⊢
      exact (latched valid).live
  | creates callId state fresh calm goesOn calls record latch watch =>
      refine iff_of_true (fun valid => ?_)
        (punctual_of_goesOn goesOn fun other fails => absurd fails (calm other).1)
      rw [latch] at valid ⊢
      have gaveUp := latched valid
      refine (gaveUp_congr ?_ (record.removals _)).mpr gaveUp
      have old : phone.daemon.videoFailedCallId ≠ callId := fun same =>
        fresh.2 (same ▸ gaveUp.live)
      rw [calls, Phone.create, Function.update_of_ne old]
  | ends callId answers isInput live calls record latch watch =>
      subst isInput
      exact latched_ended_iff sound latched live calls record latch
  | arms callId sends unlatched calls record latch armed =>
      exact iff_of_true (latched.of_same calls record latch)
        (punctual_of_goesOn (fun _ => sends.not_ends) fun _ fails =>
          absurd sends fails.not_sends)
  | givesUp callId unlatched cause goesOn calls removals warnings latch watch =>
      have failing : ∀ other, input.Fails other → other = callId := by
        intro other fails
        rcases cause with failed | ⟨calm, -⟩
        · exact fails.unique failed
        · exact absurd fails (calm other).1
      by_cases live : phone.Live callId
      · refine iff_of_true (fun _ => ?_) (punctual_of_goesOn goesOn fun other fails _ => ?_)
        · rw [latch]
          obtain ⟨call, found⟩ := Option.ne_none_iff_exists'.mp (calls.live.mpr live)
          obtain ⟨former, wasThere, same⟩ := calls.found found
          have counted := sound.counted callId former wasThere
          refine ⟨call, found, ?_⟩
          rw [removals, if_pos rfl, ← same]
          omega
        · rw [failing other fails]
          exact live
      · have failed : input.Fails callId := cause.resolve_right fun ticked => live ticked.2.1
        constructor
        · intro latchedAfter
          rw [Latched, latch] at latchedAfter
          refine punctual_of_goesOn goesOn fun other fails valid => ?_
          rw [failing other fails] at valid ⊢
          exact calls.live.mp (latchedAfter valid).live
        · intro punctual valid
          rw [latch] at valid
          exact absurd (punctual.1 callId failed valid) live

theorem start_sound (lib : CallLib) : Phone.start.Sound lib where
  safe := Daemon.HeapSafe.start
  valid _ live := absurd rfl live
  counted _ _ found := nomatch found

/-- In every state of a run the latch names no id that a new call could get, the first
failure of each call is acted upon and its video gets the watchdog, exactly when every
device error came while its call was live and the end of each call the latch named could
be read. -/
theorem clean_start_iff (lib : CallLib) (inputs : List CallInput)
    (possible : Machine.Along (step lib) (fun phone input => phone.Possible lib input) start
      inputs) :
    (∀ before after, inputs = before ++ after → (run lib start before).CleanStart lib) ↔
      Machine.Along (step lib) (Punctual lib) start inputs := by
  have steps : ∀ (phone : Phone) input, phone.Sound lib → phone.Possible lib input →
      (phone.step lib input).Sound lib := fun phone input sound possible =>
    (step_video sound.safe possible).sound sound (step_heapSafe sound.safe lib input)
  have exactly := @Machine.invariant_iff_along _ _ (step lib) (Punctual lib)
    (fun phone input => phone.Possible lib input)
    (fun phone => phone.Sound lib ∧ phone.Latched lib)
    (fun phone input holds possible => by
      rw [← (step_video holds.1.safe possible).latched_iff holds.1 holds.2]
      exact and_iff_right (steps phone input holds.1 possible))
    start inputs ⟨start_sound lib, nofun⟩ possible
  rw [← exactly]
  refine forall_congr' fun before => forall_congr' fun after => imp_congr_right fun same => ?_
  have sound : (run lib start before).Sound lib := by
    rw [same] at possible
    exact Machine.invariant_run steps (start_sound lib) (Machine.along_append.mp possible).1
  rw [cleanStart_iff sound, and_iff_right sound]

/-- Call 0 is dialled, its camera fails, and it is hung up. -/
def failedCall : List CallInput :=
  [.account 0 true, .dial (ascii "sip:bob@example.com") true (.created 0),
    .callMediaEvent 0 1 (some (.vidDevError (.library 7))),
    .callState 0 .disconnected (.sample 0 .disconnected [])]

/-- The next call of that id starts with a clean record. -/
theorem failedCall_cleanStart : (run sampleCallLib start failedCall).CleanStart sampleCallLib := by
  refine (clean_start_iff sampleCallLib failedCall ?_).mpr ?_ failedCall [] rfl
  · refine ⟨trivial, ⟨rfl, by decide⟩, trivial, ?_, trivial⟩
    exact ⟨_, rfl, Answers.sample_tell _ _ _ ⟨rfl, nofun⟩⟩
  · refine ⟨punctual_of_goesOn (fun _ => id) nofun, punctual_of_goesOn (fun _ => id) nofun,
      punctual_of_goesOn (fun _ => id) ?_, ⟨nofun, ?_⟩, trivial⟩
    · rintro callId rfl -
      decide
    · rintro callId answers isInput -
      cases isInput
      exact ⟨_, rfl⟩

/-- A device error that is delivered after the call has ended sets the latch for the next
call of the same id. -/
theorem lateError_latches :
    Machine.Along (step sampleCallLib) (fun phone input => phone.Possible sampleCallLib input)
      start (failedCall ++ [.callMediaEvent 0 1 (some (.vidDevError (.library 7))),
        .dial (ascii "sip:bob@example.com") true (.created 0)]) ∧
    ¬(run sampleCallLib start (failedCall ++ [.callMediaEvent 0 1
      (some (.vidDevError (.library 7)))])).CleanStart sampleCallLib := by
  constructor
  · refine ⟨trivial, ⟨rfl, by decide⟩, trivial, ?_, trivial, ⟨rfl, by decide⟩, trivial⟩
    exact ⟨_, rfl, Answers.sample_tell _ _ _ ⟨rfl, nofun⟩⟩
  · intro clean
    exact clean.unlatched 0 ⟨rfl, by decide⟩ rfl

end Phone
end Pjsocky
