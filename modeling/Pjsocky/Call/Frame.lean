import Pjsocky.Call.Phone

/-!
# What the functions of `call.c` change

`Keeps` is the frame of a function: the tracked call, the latch of `give_up_on_video`,
the removals of video with their warnings and every timer but the named ones are as
before. Most functions of `call.c` keep all but one timer; the others have an equation
for what they change.
-/

namespace Pjsocky

/-- A question to pjsua about one call, or a request that changes nothing in the daemon. -/
def Action.Asks (callId : CallId) : Action → Prop
  | .getInfo target | .getStreamStat target _ | .getStreamInfo target _ => target = callId
  | .setVidStrm target (.changeCapDev _) => target = callId
  | .confConnect .. => True
  | _ => False

/-- Only the log has grown, by questions about one call. -/
def Daemon.Asks (callId : CallId) (before after : Daemon) : Prop :=
  ∃ added, after = { before with log := before.log ++ added } ∧
    ∀ action ∈ added, action.Asks callId

/-- Neither a removal of video nor the warning of one. -/
def Action.Spares (action : Action) : Prop :=
  ∀ callId, action.removes callId = false ∧ action.warns callId = false

/-- Nothing has changed but these timers, the stall counters and the log. -/
structure Daemon.Keeps (touched : List TimerName) (before after : Daemon) : Prop where
  tracked : after.callId = before.callId
  latch : after.videoFailedCallId = before.videoFailedCallId
  removals : ∀ callId, after.removals callId = before.removals callId
  warnings : ∀ callId, after.warnings callId = before.warnings callId
  timers : ∀ name, name ∉ touched → after.timers name = before.timers name

namespace Daemon

variable {daemon before after : Daemon} {answers : Answers} {lib : CallLib}
variable {touched : List TimerName} {name : TimerName} {callId : CallId}

namespace Asks

theorem refl (callId : CallId) (daemon : Daemon) : Asks callId daemon daemon :=
  ⟨[], by rw [List.append_nil], List.forall_mem_nil _⟩

theorem record {action : Action} (asks : Asks callId before after)
    (question : action.Asks callId) : Asks callId before (after.record action) := by
  obtain ⟨added, rfl, questions⟩ := asks
  refine ⟨added ++ [action], by rw [Daemon.record, List.append_assoc], ?_⟩
  intro other member
  rcases List.mem_append.mp member with old | new
  · exact questions other old
  · rw [List.mem_singleton.mp new]
    exact question

/-- A loop whose every pass only asks, only asks. -/
theorem foldl {Item : Type} {pass : Daemon → Item → Daemon} {items : List Item}
    (asks : Asks callId before after)
    (each : ∀ next item, Asks callId before next → Asks callId before (pass next item)) :
    Asks callId before (items.foldl pass after) := by
  induction items generalizing after with
  | nil => exact asks
  | cons item rest ih => exact ih (each after item asks)

theorem timers_eq (asks : Asks callId before after) : after.timers = before.timers := by
  obtain ⟨added, rfl, -⟩ := asks
  rfl

theorem getInfo (asks : Asks callId before after) (lib : CallLib) (answers : Answers)
    (reading : Nat) : Asks callId before (after.getInfo lib answers reading callId).2 := by
  unfold Daemon.getInfo
  split
  · exact asks
  · exact asks.record rfl

theorem getRtpCounters (asks : Asks callId before after) (lib : CallLib) (answers : Answers)
    (reading : Nat) (type : MediaType) :
    Asks callId before (after.getRtpCounters lib answers reading callId type).2 := by
  have asked := asks.getInfo lib answers reading
  unfold Daemon.getRtpCounters
  dsimp only
  split
  · exact asked
  · split
    · exact asked
    · exact asked.record rfl

theorem applyVideoCaptureDevice (asks : Asks callId before after) (media : List CallMedia) :
    Asks callId before (after.applyVideoCaptureDevice callId media) := by
  unfold Daemon.applyVideoCaptureDevice
  split
  · exact asks
  · split
    · exact asks
    · exact asks.record rfl

theorem connectCallAudioToSoundDev (asks : Asks callId before after) (media : List CallMedia) :
    Asks callId before (after.connectCallAudioToSoundDev media) := by
  have connects : ∀ source sink, (Action.confConnect source sink).Asks callId :=
    fun _ _ => trivial
  refine asks.foldl fun next stream asks => ?_
  split
  · exact asks
  · exact (asks.record (connects _ _)).record (connects _ _)

theorem logNegotiatedMedia (asks : Asks callId before after) (media : List CallMedia) :
    Asks callId before (after.logNegotiatedMedia callId media) := by
  refine asks.foldl fun next stream asks => ?_
  split
  · exact asks
  · exact asks.record rfl

end Asks

@[simp] theorem removals_record (action : Action) :
    (daemon.record action).removals callId =
      daemon.removals callId + if action.removes callId then 1 else 0 := by
  simp [removals, record]

@[simp] theorem warnings_record (action : Action) :
    (daemon.record action).warnings callId =
      daemon.warnings callId + if action.warns callId then 1 else 0 := by
  simp [warnings, record]

namespace Keeps

theorem refl (touched : List TimerName) (daemon : Daemon) : Keeps touched daemon daemon :=
  ⟨rfl, rfl, fun _ => rfl, fun _ => rfl, fun _ _ => rfl⟩

theorem trans {last : Daemon} (first : Keeps touched before after)
    (second : Keeps touched after last) : Keeps touched before last where
  tracked := second.tracked.trans first.tracked
  latch := second.latch.trans first.latch
  removals callId := (second.removals callId).trans (first.removals callId)
  warnings callId := (second.warnings callId).trans (first.warnings callId)
  timers name untouched := (second.timers name untouched).trans (first.timers name untouched)

theorem mono {more : List TimerName} (keeps : Keeps touched before after)
    (subset : touched ⊆ more) : Keeps more before after where
  tracked := keeps.tracked
  latch := keeps.latch
  removals := keeps.removals
  warnings := keeps.warnings
  timers name untouched := keeps.timers name fun member => untouched (subset member)

theorem record {action : Action} (keeps : Keeps touched before after)
    (spares : action.Spares) : Keeps touched before (after.record action) where
  tracked := keeps.tracked
  latch := keeps.latch
  removals callId := by
    rw [removals_record, (spares callId).1, keeps.removals]
    rfl
  warnings callId := by
    rw [warnings_record, (spares callId).2, keeps.warnings]
    rfl
  timers := keeps.timers

theorem setTimer (keeps : Keeps touched before after) (member : name ∈ touched) (timer : Timer) :
    Keeps touched before (after.setTimer name timer) where
  tracked := keeps.tracked
  latch := keeps.latch
  removals := keeps.removals
  warnings := keeps.warnings
  timers other untouched := by
    have different : other ≠ name := fun same => untouched (same ▸ member)
    rw [setTimer_timers, Function.update_of_ne different, keeps.timers other untouched]

theorem dequeueTimer (keeps : Keeps touched before after) (name : TimerName)
    (member : name ∈ touched) :
    Keeps touched before (after.dequeueTimer name) :=
  keeps.setTimer member _

theorem asks {last : Daemon} (keeps : Keeps touched before after)
    (asks : Asks callId after last) : Keeps touched before last := by
  obtain ⟨added, rfl, questions⟩ := asks
  have spares : ∀ action ∈ added, action.Spares := by
    intro action member other
    have question := questions action member
    cases action with
    | setVidStrm target op =>
        cases op with
        | remove medIdx => exact question.elim
        | changeCapDev capDev => exact ⟨rfl, rfl⟩
    | warn => exact question.elim
    | _ => exact ⟨rfl, rfl⟩
  refine ⟨keeps.tracked, keeps.latch, fun other => ?_, fun other => ?_, keeps.timers⟩
  · have none : added.countP (Action.removes other) = 0 :=
      List.countP_eq_zero.mpr fun action member => by simp [(spares action member other).1]
    rw [← keeps.removals other, Daemon.removals, List.countP_append, none]
    rfl
  · have none : added.countP (Action.warns other) = 0 :=
      List.countP_eq_zero.mpr fun action member => by simp [(spares action member other).2]
    rw [← keeps.warnings other, Daemon.warnings, List.countP_append, none]
    rfl

/-- The stall counters are not kept. -/
theorem counted (keeps : Keeps touched before after) (seen ticks : Nat) :
    Keeps touched before { after with videoTxPacketsSeen := seen, videoStallTicks := ticks } :=
  ⟨keeps.tracked, keeps.latch, keeps.removals, keeps.warnings, keeps.timers⟩

/-! Each operation of `call.c`, after others that keep. -/

theorem cancelTimer (keeps : Keeps touched before after) (member : name ∈ touched) :
    Keeps touched before (after.cancelTimer name) := by
  by_cases scheduled : (after.timers name).scheduled
  · rw [Daemon.cancelTimer, if_pos scheduled]
    exact (keeps.record fun _ => ⟨rfl, rfl⟩).setTimer member _
  · rw [Daemon.cancelTimer, if_neg scheduled]
    exact keeps

theorem initTimer (keeps : Keeps touched before after) (member : name ∈ touched)
    (callId : CallId) : Keeps touched before (after.initTimer name callId) :=
  (keeps.record fun _ => ⟨rfl, rfl⟩).setTimer member _

theorem scheduleTimer (keeps : Keeps touched before after) (member : name ∈ touched)
    (answers : Answers) (msec : Nat) :
    Keeps touched before (after.scheduleTimer answers name msec) := by
  have asked : Keeps touched before
      (after.record (.scheduleTimer name msec (after.timers name).inHeap)) :=
    keeps.record fun _ => ⟨rfl, rfl⟩
  unfold Daemon.scheduleTimer
  dsimp only
  split
  · exact asked.setTimer member _
  · exact asked

end Keeps

/-! ## Timers -/

/-- After a cancellation the flag is down. -/
theorem cancelTimer_scheduled (name : TimerName) (daemon : Daemon) :
    ((daemon.cancelTimer name).timers name).scheduled = false := by
  by_cases scheduled : (daemon.timers name).scheduled
  · rw [cancelTimer, if_pos scheduled, setTimer_timers, Function.update_self]
  · rw [cancelTimer, if_neg scheduled]
    exact Bool.not_eq_true _ ▸ scheduled

theorem scheduleTimer_userData (msec : Nat) :
    ((daemon.scheduleTimer answers name msec).timers name).userData =
      (daemon.timers name).userData := by
  unfold scheduleTimer
  dsimp only
  split <;> simp

/-- An entry that has been initialised carries the call's id, whether or not it could be
scheduled. -/
theorem armed_userData (msec : Nat) :
    (((daemon.initTimer name callId).scheduleTimer answers name msec).timers name).userData =
      callId := by
  rw [scheduleTimer_userData]
  simp [initTimer]

theorem armed_scheduledFor (accepted : answers.schedule name = true) (msec : Nat) :
    ((daemon.initTimer name callId).scheduleTimer answers name msec).ScheduledFor name callId := by
  simp [scheduleTimer, initTimer, accepted, ScheduledFor]

theorem ScheduledFor.scheduled (armed : daemon.ScheduledFor name callId) :
    (daemon.timers name).scheduled = true := by
  rw [armed]

theorem ScheduledFor.userData (armed : daemon.ScheduledFor name callId) :
    (daemon.timers name).userData = callId := by
  rw [armed]

theorem Keeps.scheduledFor (keeps : Keeps touched before after) (untouched : name ∉ touched) :
    after.ScheduledFor name callId ↔ before.ScheduledFor name callId := by
  rw [ScheduledFor, keeps.timers name untouched, ScheduledFor]

/-! ## The callbacks -/

/-- What `ring_timer_cb` does: it asks about its call, and rejects it if it still rings. -/
theorem ringTimerCb_cases (answers : Answers) (daemon : Daemon) :
    ∃ asked, Asks (daemon.timers .ring).userData (daemon.clearScheduled .ring) asked ∧
      (daemon.ringTimerCb answers = asked ∨
        daemon.ringTimerCb answers = asked.record
          (.hangup (daemon.timers .ring).userData temporarilyUnavailable) ∧
        ∃ info, answers.info 0 = .ok info ∧ (info.state = .incoming ∨ info.state = .early)) := by
  have asked : Asks (daemon.timers .ring).userData (daemon.clearScheduled .ring)
      ((daemon.clearScheduled .ring).record (.getInfo (daemon.timers .ring).userData)) :=
    (Asks.refl _ _).record rfl
  refine ⟨_, asked, ?_⟩
  unfold ringTimerCb
  dsimp only
  split
  · exact .inl rfl
  · rename_i info read
    split
    · exact .inl rfl
    · rename_i rings
      refine .inr ⟨rfl, info, read, ?_⟩
      by_contra moved
      exact rings (not_or.mp moved)

theorem ringTimerCb_keeps (answers : Answers) (daemon : Daemon) :
    Keeps [.ring] daemon (daemon.ringTimerCb answers) := by
  have cleared : Keeps [.ring] daemon (daemon.clearScheduled .ring) :=
    (Keeps.refl _ _).setTimer (List.mem_singleton_self _) _
  obtain ⟨asked, asks, silent | ⟨rejected, -⟩⟩ := ringTimerCb_cases answers daemon
  · rw [silent]
    exact cleared.asks asks
  · rw [rejected]
    exact (cleared.asks asks).record fun _ => ⟨rfl, rfl⟩

/-- What `media_report_cb` does: it asks about its call, and reports on a confirmed one and
is scheduled again. -/
theorem mediaReportCb_cases (lib : CallLib) (answers : Answers) (daemon : Daemon) :
    ∃ asked, Asks (daemon.timers .report).userData (daemon.clearScheduled .report) asked ∧
      (daemon.mediaReportCb lib answers = asked ∨
        ∃ audio video, daemon.mediaReportCb lib answers =
          (asked.record (.mediaReport (daemon.timers .report).userData audio video)).scheduleTimer
            answers .report mediaReportMsec) := by
  have asked : Asks (daemon.timers .report).userData (daemon.clearScheduled .report)
      ((daemon.clearScheduled .report).record (.getInfo (daemon.timers .report).userData)) :=
    (Asks.refl _ _).record rfl
  unfold mediaReportCb
  dsimp only
  split
  · exact ⟨_, asked, .inl rfl⟩
  · split
    · exact ⟨_, asked, .inl rfl⟩
    · exact ⟨_, (asked.getRtpCounters lib answers 1 .audio).getRtpCounters lib answers 2 .video,
        .inr ⟨_, _, rfl⟩⟩

theorem mediaReportCb_keeps (lib : CallLib) (answers : Answers) (daemon : Daemon) :
    Keeps [.report] daemon (daemon.mediaReportCb lib answers) := by
  have member : TimerName.report ∈ [TimerName.report] := List.mem_singleton_self _
  have cleared : Keeps [.report] daemon (daemon.clearScheduled .report) :=
    (Keeps.refl _ _).setTimer member _
  obtain ⟨asked, asks, silent | ⟨audio, video, reported⟩⟩ := mediaReportCb_cases lib answers daemon
  · rw [silent]
    exact cleared.asks asks
  · rw [reported]
    exact ((cleared.asks asks).record fun _ => ⟨rfl, rfl⟩).scheduleTimer member _ _

theorem armMediaReport_keeps (keeps : Keeps touched before daemon) (member : .report ∈ touched)
    (answers : Answers) (callId : CallId) :
    Keeps touched before (daemon.armMediaReport answers callId) :=
  ((keeps.cancelTimer member).initTimer member callId).scheduleTimer member _ _

theorem armVideoWatchdog_keeps (keeps : Keeps touched before daemon)
    (member : .watchdog ∈ touched) (answers : Answers) (callId : CallId)
    (media : List CallMedia) :
    Keeps touched before (daemon.armVideoWatchdog answers callId media) := by
  have cancelled := keeps.cancelTimer member
  unfold armVideoWatchdog
  dsimp only
  split
  · exact cancelled
  · exact ((cancelled.counted 0 0).initTimer member callId).scheduleTimer member _ _

/-- What `on_call_media_state` does to the timers once it has read the call's info. -/
theorem onCallMediaState_read {info : CallInfo} (callId : CallId) (daemon : Daemon)
    (read : answers.info 0 = .ok info) :
    ∃ connected logged, Asks callId daemon connected ∧
      Asks callId ((connected.armVideoWatchdog answers callId info.media).armMediaReport answers
        callId) logged ∧
      daemon.onCallMediaState answers callId = logged.record (.push (.callMediaState info)) := by
  have asked : Asks callId daemon (daemon.record (.getInfo callId)) := (Asks.refl _ _).record rfl
  simp only [onCallMediaState, read]
  exact ⟨_, _, (asked.applyVideoCaptureDevice info.media).connectCallAudioToSoundDev info.media,
    (Asks.refl _ _).logNegotiatedMedia info.media, rfl⟩

theorem onCallMediaState_unread {status : Failure} (callId : CallId) (daemon : Daemon)
    (unread : answers.info 0 = .error status) :
    daemon.onCallMediaState answers callId = daemon.record (.getInfo callId) := by
  simp only [onCallMediaState, unread]

theorem onCallMediaState_keeps (answers : Answers) (callId : CallId) (daemon : Daemon) :
    Keeps [.watchdog, .report] daemon (daemon.onCallMediaState answers callId) := by
  cases reading : answers.info 0 with
  | error status =>
      rw [onCallMediaState_unread callId daemon reading]
      exact (Keeps.refl _ _).record fun _ => ⟨rfl, rfl⟩
  | ok info =>
      obtain ⟨connected, logged, asked, reported, after⟩ :=
        onCallMediaState_read callId daemon reading
      have watched := armVideoWatchdog_keeps ((Keeps.refl [.watchdog, .report] _).asks asked)
        (by decide) answers callId info.media
      have armed := armMediaReport_keeps watched (by decide) answers callId
      rw [after]
      exact (armed.asks reported).record fun _ => ⟨rfl, rfl⟩

/-- Whoever it is about, the media report is then armed for that call, or not at all. -/
theorem onCallMediaState_report {info : CallInfo} (callId : CallId) (daemon : Daemon)
    (read : answers.info 0 = .ok info) :
    ((daemon.onCallMediaState answers callId).timers .report).userData = callId := by
  obtain ⟨connected, logged, -, reported, after⟩ := onCallMediaState_read callId daemon read
  rw [after, record_timers, reported.timers_eq]
  exact armed_userData _

/-- The watchdog is where `arm_video_watchdog` leaves it. -/
theorem onCallMediaState_watchdog {info : CallInfo} (callId : CallId) (daemon : Daemon)
    (read : answers.info 0 = .ok info) :
    ∃ connected, Asks callId daemon connected ∧
      (daemon.onCallMediaState answers callId).timers .watchdog =
        (connected.armVideoWatchdog answers callId info.media).timers .watchdog := by
  obtain ⟨connected, logged, asked, reported, after⟩ := onCallMediaState_read callId daemon read
  have kept : Keeps [.report] (connected.armVideoWatchdog answers callId info.media)
      ((connected.armVideoWatchdog answers callId info.media).armMediaReport answers callId) :=
    armMediaReport_keeps (Keeps.refl _ _) (List.mem_singleton_self _) answers callId
  refine ⟨connected, asked, ?_⟩
  rw [after, record_timers, reported.timers_eq]
  exact kept.timers .watchdog (by decide)

theorem stopRinging_keeps (callId : CallId) (state : InvState) (daemon : Daemon) :
    Keeps [.ring] daemon (daemon.stopRinging callId state) := by
  unfold stopRinging
  dsimp only
  split
  · exact (Keeps.refl _ _).cancelTimer (by decide)
  · exact Keeps.refl _ _

theorem startRinging_keeps (answers : Answers) (callId : CallId) (daemon : Daemon) :
    Keeps [.ring] daemon (daemon.startRinging answers callId) := by
  have member : TimerName.ring ∈ [TimerName.ring] := by decide
  unfold startRinging
  split
  · exact (((Keeps.refl _ _).cancelTimer member).initTimer member callId).scheduleTimer member _ _
  · exact Keeps.refl _ _

/-- What `on_call_state` clears when a call has ended. -/
@[simps]
def forget (callId : CallId) (daemon : Daemon) : Daemon :=
  { daemon with
    callId := if callId = daemon.callId then invalidId else daemon.callId
    videoFailedCallId :=
      if callId = daemon.videoFailedCallId then invalidId else daemon.videoFailedCallId }

theorem callEnded_eq (callId : CallId) (daemon : Daemon) :
    daemon.callEnded callId = (daemon.forget callId).cancelVideoWatchdog.cancelMediaReport := by
  unfold callEnded forget
  by_cases isTracked : callId = daemon.callId
  · by_cases isLatched : callId = daemon.videoFailedCallId
    · simp only [if_pos isTracked, if_pos isLatched]
    · simp only [if_pos isTracked, if_neg isLatched]
  · by_cases isLatched : callId = daemon.videoFailedCallId
    · simp only [if_neg isTracked, if_pos isLatched]
    · simp only [if_neg isTracked, if_neg isLatched]

theorem callEnded_keeps (callId : CallId) (daemon : Daemon) :
    Keeps [.watchdog, .report] (daemon.forget callId) (daemon.callEnded callId) := by
  rw [callEnded_eq]
  exact ((Keeps.refl _ _).cancelTimer (by decide)).cancelTimer (by decide)

/-- `on_call_state` for a call that goes on, or whose info could not be read, touches no
timer but the ring timer. -/
theorem onCallState_keeps (callId : CallId)
    (goesOn : ∀ info, answers.info 0 = .ok info → info.state ≠ .disconnected) :
    Keeps [.ring] daemon (daemon.onCallState answers callId) := by
  have asked : Keeps [.ring] daemon (daemon.record (.getInfo callId)) :=
    (Keeps.refl _ _).record fun _ => ⟨rfl, rfl⟩
  unfold onCallState
  dsimp only
  split
  · exact asked
  · rename_i info read
    rw [if_neg (goesOn info read)]
    exact (asked.trans (stopRinging_keeps callId info.state _)).record fun _ => ⟨rfl, rfl⟩

/-- `on_call_state` for a call that has ended. -/
theorem onCallState_ended {info : CallInfo} (callId : CallId) (read : answers.info 0 = .ok info)
    (ended : info.state = .disconnected) :
    daemon.onCallState answers callId =
      (((daemon.record (.getInfo callId)).stopRinging callId .disconnected).callEnded
        callId).record (.push (.callState info)) := by
  unfold onCallState
  simp only [read, ended, if_true]

/-- A call that has ended is no longer tracked. -/
theorem onCallState_ended_tracked {info : CallInfo} (callId : CallId)
    (read : answers.info 0 = .ok info) (ended : info.state = .disconnected) :
    (daemon.onCallState answers callId).callId =
      if callId = daemon.callId then invalidId else daemon.callId := by
  rw [onCallState_ended callId read ended, record_callId, (callEnded_keeps callId _).tracked,
    forget_callId, (stopRinging_keeps callId _ _).tracked, record_callId]

/-- `on_incoming_call` tracks the new call and touches no timer but the ring timer. -/
theorem onIncomingCall_keeps (answers : Answers) (callId : CallId) (daemon : Daemon) :
    Keeps [.ring] { daemon with callId } (daemon.onIncomingCall answers callId) := by
  have asked : Keeps [.ring] { daemon with callId }
      ({ daemon with callId }.record (.getInfo callId)) :=
    (Keeps.refl _ _).record fun _ => ⟨rfl, rfl⟩
  unfold onIncomingCall
  dsimp only
  split
  · exact asked
  · exact (asked.trans (startRinging_keeps answers callId _)).record fun _ => ⟨rfl, rfl⟩

/-! ## Giving up on video -/

/-- After `give_up_on_video` the latch names the call, whether it was set before or not. -/
theorem giveUpOnVideo_latch (callId : CallId) (medIdx : Nat) (status : Status) (reason : Bytes)
    (daemon : Daemon) :
    (daemon.giveUpOnVideo callId medIdx status reason).videoFailedCallId = callId := by
  unfold giveUpOnVideo
  split
  · exact Eq.symm ‹_›
  · exact ((Keeps.refl [.watchdog] { daemon with videoFailedCallId := callId }).cancelTimer
      (by decide)).latch

theorem giveUpOnVideo_tracked (callId : CallId) (medIdx : Nat) (status : Status) (reason : Bytes)
    (daemon : Daemon) :
    (daemon.giveUpOnVideo callId medIdx status reason).callId = daemon.callId := by
  unfold giveUpOnVideo
  split
  · rfl
  · exact ((Keeps.refl [.watchdog] { daemon with videoFailedCallId := callId }).cancelTimer
      (by decide)).tracked

/-- `give_up_on_video` sets the latch and cancels the watchdog, warns, and removes the
video. -/
theorem giveUpOnVideo_keeps (medIdx : Nat) (status : Status) (reason : Bytes)
    (unlatched : callId ≠ daemon.videoFailedCallId) :
    ∃ cancelled, Keeps [.watchdog] { daemon with videoFailedCallId := callId } cancelled ∧
      (cancelled.timers .watchdog).scheduled = false ∧
      daemon.giveUpOnVideo callId medIdx status reason =
        (cancelled.record (.warn callId status reason)).record
          (.setVidStrm callId (.remove medIdx)) := by
  rw [giveUpOnVideo, if_neg unlatched]
  refine ⟨_, (Keeps.refl _ _).cancelTimer ?_, ?_, rfl⟩
  · decide
  · exact cancelTimer_scheduled .watchdog _

theorem giveUpOnVideo_timers (other : name ≠ .watchdog) (callId : CallId) (medIdx : Nat)
    (status : Status) (reason : Bytes) (daemon : Daemon) :
    (daemon.giveUpOnVideo callId medIdx status reason).timers name = daemon.timers name := by
  by_cases latched : callId = daemon.videoFailedCallId
  · rw [giveUpOnVideo, if_pos latched]
  · obtain ⟨cancelled, keeps, -, removed⟩ := giveUpOnVideo_keeps medIdx status reason latched
    rw [removed, record_timers, record_timers]
    exact keeps.timers name fun member => other (List.mem_singleton.mp member)

/-- `give_up_on_video` removes the video of its call, once. -/
theorem giveUpOnVideo_removals (callId : CallId) (medIdx : Nat) (status : Status) (reason : Bytes)
    (daemon : Daemon) (other : CallId) :
    (daemon.giveUpOnVideo callId medIdx status reason).removals other =
      daemon.removals other +
        if callId = other ∧ callId ≠ daemon.videoFailedCallId then 1 else 0 := by
  by_cases latched : callId = daemon.videoFailedCallId
  · rw [giveUpOnVideo, if_pos latched, if_neg fun both => both.2 latched, Nat.add_zero]
  · obtain ⟨cancelled, keeps, -, removed⟩ := giveUpOnVideo_keeps medIdx status reason latched
    rw [removed, removals_record, removals_record, keeps.removals]
    simp [Action.removes, latched, removals]

/-- And warns as often. -/
theorem giveUpOnVideo_warnings (callId : CallId) (medIdx : Nat) (status : Status) (reason : Bytes)
    (daemon : Daemon) (other : CallId) :
    (daemon.giveUpOnVideo callId medIdx status reason).warnings other =
      daemon.warnings other +
        if callId = other ∧ callId ≠ daemon.videoFailedCallId then 1 else 0 := by
  by_cases latched : callId = daemon.videoFailedCallId
  · rw [giveUpOnVideo, if_pos latched, if_neg fun both => both.2 latched, Nat.add_zero]
  · obtain ⟨cancelled, keeps, -, removed⟩ := giveUpOnVideo_keeps medIdx status reason latched
    rw [removed, warnings_record, warnings_record, keeps.warnings]
    simp [Action.warns, latched, warnings]

theorem onCallMediaEvent_tracked (callId : CallId) (medIdx : Nat) (event : Option MediaEvent)
    (daemon : Daemon) : (daemon.onCallMediaEvent callId medIdx event).callId = daemon.callId := by
  unfold onCallMediaEvent
  split
  · exact giveUpOnVideo_tracked ..
  · rfl

/-- What the verdict on a stream can be: the timer is scheduled again or the video given
up, after a change of the stall counters only. -/
def Verdict (answers : Answers) (callId : CallId) (medIdx : Nat) (before after : Daemon) : Prop :=
  ∃ seen ticks,
    let counted := { before with videoTxPacketsSeen := seen, videoStallTicks := ticks }
    after = counted.scheduleTimer answers .watchdog videoWatchdogMsec ∨
      after = counted.giveUpOnVideo callId medIdx .success
        (ascii "the video capture device stopped producing frames")

theorem silentWindow_verdict (answers : Answers) (callId : CallId) (medIdx : Nat)
    (daemon : Daemon) :
    Verdict answers callId medIdx daemon (daemon.silentWindow answers callId medIdx) := by
  refine ⟨daemon.videoTxPacketsSeen, daemon.videoStallTicks + 1, ?_⟩
  by_cases enough : (if daemon.videoTxPacketsSeen ≠ 0 then 1 else 2) ≤ daemon.videoStallTicks + 1
  · exact .inr (if_pos enough)
  · exact .inl (if_neg enough)

theorem judgeVideo_verdict (answers : Answers) (callId : CallId) (medIdx : Nat)
    (counters : Except Failure RtpCounters) (daemon : Daemon) :
    Verdict answers callId medIdx daemon (daemon.judgeVideo answers callId medIdx counters) := by
  cases counters with
  | error status => exact silentWindow_verdict answers callId medIdx daemon
  | ok counters =>
      by_cases sent : daemon.videoTxPacketsSeen < counters.tx
      · exact ⟨counters.tx, 0, .inl (if_pos sent)⟩
      · rw [judgeVideo, if_neg sent]
        exact silentWindow_verdict answers callId medIdx daemon

/-- What `video_watchdog_cb` does: it asks about its call and leaves the timer alone,
because there is no confirmed call with sending video to be read, or it judges the
stream. -/
theorem videoWatchdogCb_cases (lib : CallLib) (answers : Answers) (daemon : Daemon) :
    ∃ asked, Asks (daemon.timers .watchdog).userData (daemon.clearScheduled .watchdog) asked ∧
      ((daemon.videoWatchdogCb lib answers = asked ∧
        ∀ info, answers.info 0 = .ok info → info.state = .confirmed →
          findSendingVideo info.media = none) ∨
      (∃ info, answers.info 0 = .ok info) ∧
        ∃ medIdx, Verdict answers (daemon.timers .watchdog).userData medIdx asked
          (daemon.videoWatchdogCb lib answers)) := by
  have asked : Asks (daemon.timers .watchdog).userData (daemon.clearScheduled .watchdog)
      ((daemon.clearScheduled .watchdog).record (.getInfo (daemon.timers .watchdog).userData)) :=
    (Asks.refl _ _).record rfl
  unfold videoWatchdogCb
  dsimp only
  split
  · rename_i unread
    exact ⟨_, asked, .inl ⟨rfl, fun info read => absurd (unread.symm.trans read) (by simp)⟩⟩
  · rename_i info read
    split
    · rename_i unconfirmed
      refine ⟨_, asked, .inl ⟨rfl, fun again reread confirmed => ?_⟩⟩
      rw [← Except.ok.inj (read.symm.trans reread)] at confirmed
      exact absurd confirmed unconfirmed
    · split
      · rename_i nothing
        refine ⟨_, asked, .inl ⟨rfl, fun again reread _ => ?_⟩⟩
        rw [← Except.ok.inj (read.symm.trans reread), nothing]
      · rename_i medIdx found
        exact ⟨_, asked.getRtpCounters lib answers 1 .video, .inr ⟨⟨info, read⟩, medIdx,
          judgeVideo_verdict answers (daemon.timers .watchdog).userData medIdx _ _⟩⟩

/-- A verdict keeps the tracked call. -/
theorem Verdict.tracked {medIdx : Nat} (verdict : Verdict answers callId medIdx before after) :
    after.callId = before.callId := by
  obtain ⟨seen, ticks, rescheduled | gaveUp⟩ := verdict
  · rw [rescheduled]
    exact ((Keeps.refl [.watchdog] _).scheduleTimer (List.mem_singleton_self _) _ _).tracked
  · rw [gaveUp]
    exact giveUpOnVideo_tracked ..

/-- `video_watchdog_cb` touches no timer but its own. -/
theorem videoWatchdogCb_timers (other : name ≠ .watchdog) (lib : CallLib) (answers : Answers)
    (daemon : Daemon) : (daemon.videoWatchdogCb lib answers).timers name = daemon.timers name := by
  have cleared : (daemon.clearScheduled .watchdog).timers name = daemon.timers name := by
    rw [clearScheduled, setTimer_timers, Function.update_of_ne other]
  obtain ⟨asked, asks, ⟨same, -⟩ | ⟨-, medIdx, seen, ticks, same | same⟩⟩ :=
    videoWatchdogCb_cases lib answers daemon
  · rw [same, asks.timers_eq, cleared]
  · have kept := ((Keeps.refl [.watchdog] asked).counted seen ticks).scheduleTimer
      (List.mem_singleton_self _) answers videoWatchdogMsec
    rw [same, kept.timers name fun member => other (List.mem_singleton.mp member),
      asks.timers_eq, cleared]
  · rw [same, giveUpOnVideo_timers other, asks.timers_eq, cleared]

theorem videoWatchdogCb_tracked (lib : CallLib) (answers : Answers) (daemon : Daemon) :
    (daemon.videoWatchdogCb lib answers).callId = daemon.callId := by
  obtain ⟨asked, asks, ⟨unwatched, -⟩ | ⟨-, medIdx, verdict⟩⟩ :=
    videoWatchdogCb_cases lib answers daemon
  · rw [unwatched]
    exact ((Keeps.refl [] _).asks asks).tracked
  · rw [verdict.tracked]
    exact ((Keeps.refl [] _).asks asks).tracked

/-! ## Dialling -/

section Dial

variable {uri : Bytes} {video : Bool} {status : Failure} {written : Option CallId}

theorem dial_refused (refused : daemon.accId = invalidId ∨ daemon.registered = false)
    (outcome : MakeCallOutcome) :
    daemon.dial lib uri video outcome = (.error ⟨.einvalidop, by decide⟩, daemon) := by
  rw [dial, if_pos]
  simpa using refused

theorem dial_created (account : daemon.accId ≠ invalidId) (registered : daemon.registered = true) :
    daemon.dial lib uri video (.created callId) =
      (.ok callId, { daemon with callId }.record
        (.makeCall daemon.accId uri (setting lib video))) := by
  rw [dial, if_neg (by simp [account, registered])]
  rfl

theorem dial_failed (account : daemon.accId ≠ invalidId) (registered : daemon.registered = true) :
    daemon.dial lib uri video (.failed status written) =
      (.error status, { daemon with callId := invalidId }.record
        (.makeCall daemon.accId uri (setting lib video))) := by
  rw [dial, if_neg (by simp [account, registered])]
  rfl

end Dial
end Daemon

/-! ## Steps -/

namespace Phone

variable {lib : CallLib} {phone : Phone}

/-- The inputs that leave the calls alone, and of the daemon's state all but two timers and
the settings. -/
def Quiet : CallInput → Prop
  | .dial .. | .incomingCall .. | .callState .. | .callMediaState .. | .callMediaEvent .. => False
  | .expires .watchdog _ => False
  | _ => True

theorem step_quiet {input : CallInput} (quiet : Quiet input) :
    (phone.step lib input).calls = phone.calls ∧
      phone.daemon.Keeps [.ring, .report] (phone.step lib input).daemon := by
  have refl := Daemon.Keeps.refl [.ring, .report] phone.daemon
  cases input with
  | dial | incomingCall | callState | callMediaState | callMediaEvent => exact quiet.elim
  | answer callId code video status =>
      refine ⟨rfl, ?_⟩
      simp only [step, Daemon.answer]
      split
      · exact refl
      · exact refl.record fun _ => ⟨rfl, rfl⟩
  | hangup callId code status =>
      refine ⟨rfl, ?_⟩
      simp only [step, Daemon.hangup]
      split
      · exact refl
      · exact refl.record fun _ => ⟨rfl, rfl⟩
  | hangupAll status =>
      refine ⟨rfl, ?_⟩
      simp only [step, Daemon.hangupAll]
      split
      · exact refl
      · exact refl.record fun _ => ⟨rfl, rfl⟩
  | setRingTimeout | account | captureDevice =>
      exact ⟨rfl, rfl, rfl, fun _ => rfl, fun _ => rfl, fun _ _ => rfl⟩
  | callRxOffer => exact ⟨rfl, refl⟩
  | expires name answers =>
      cases name with
      | watchdog => exact quiet.elim
      | ring =>
          refine ⟨rfl, (refl.dequeueTimer .ring (by decide)).trans ?_⟩
          exact (Daemon.ringTimerCb_keeps answers _).mono (by decide)
      | report =>
          refine ⟨rfl, (refl.dequeueTimer .report (by decide)).trans ?_⟩
          exact (Daemon.mediaReportCb_keeps lib answers _).mono (by decide)

/-- Whether pjsua creates a call or fails, `call.dial` sets the tracked call and nothing
else. -/
theorem step_dial_daemon (lib : CallLib) (phone : Phone) (uri : Bytes) (video : Bool)
    (outcome : MakeCallOutcome) :
    (phone.step lib (.dial uri video outcome)).daemon = phone.daemon ∨
      ∃ callId, (phone.step lib (.dial uri video outcome)).daemon =
        { phone.daemon with callId }.record
          (.makeCall phone.daemon.accId uri (Daemon.setting lib video)) := by
  by_cases refused : phone.daemon.accId = invalidId ∨ phone.daemon.registered = false
  · exact .inl (by rw [step, Daemon.dial_refused refused])
  · obtain ⟨account, registered⟩ : phone.daemon.accId ≠ invalidId ∧
        phone.daemon.registered = true := by simpa using refused
    cases outcome with
    | created callId => exact .inr ⟨callId, by rw [step, Daemon.dial_created account registered]⟩
    | failed status written =>
        exact .inr ⟨invalidId, by rw [step, Daemon.dial_failed account registered]⟩

/-- What `call.dial` does: nothing without a registered account, or it tracks the call that
pjsua created, or pjsua failed and it tracks none. -/
theorem step_dial_cases (uri : Bytes) (video : Bool) (outcome : MakeCallOutcome) :
    ((phone.daemon.accId = invalidId ∨ phone.daemon.registered = false) ∧
      phone.step lib (.dial uri video outcome) = phone) ∨
    phone.daemon.accId ≠ invalidId ∧ phone.daemon.registered = true ∧
      ((∃ callId, outcome = .created callId ∧
        (phone.step lib (.dial uri video outcome)).calls = phone.create callId .calling ∧
        Daemon.Keeps [] { phone.daemon with callId }
          (phone.step lib (.dial uri video outcome)).daemon) ∨
      (∃ status written, outcome = .failed status written ∧
        (phone.step lib (.dial uri video outcome)).calls = phone.calls ∧
        Daemon.Keeps [] { phone.daemon with callId := invalidId }
          (phone.step lib (.dial uri video outcome)).daemon)) := by
  by_cases refused : phone.daemon.accId = invalidId ∨ phone.daemon.registered = false
  · refine .inl ⟨refused, ?_⟩
    rw [step, Daemon.dial_refused refused]
  · obtain ⟨account, registered⟩ : phone.daemon.accId ≠ invalidId ∧
        phone.daemon.registered = true := by simpa using refused
    refine .inr ⟨account, registered, ?_⟩
    cases outcome with
    | created callId =>
        rw [step, Daemon.dial_created account registered]
        exact .inl ⟨callId, rfl, rfl, (Daemon.Keeps.refl [] _).record fun _ => ⟨rfl, rfl⟩⟩
    | failed status written =>
        rw [step, Daemon.dial_failed account registered]
        exact .inr ⟨status, written, rfl, rfl, (Daemon.Keeps.refl [] _).record fun _ => ⟨rfl, rfl⟩⟩

end Phone
end Pjsocky
