import Pjsocky.Call.Parts

/-!
# What the functions of `call.c` ask of pjsua

`Speaks` is the other half of a function's frame: what it may add to the log, with the
account left as it is. A callback about a call only ever names that call, and makes no
request of its own except the hangup of `ring_timer_cb`.
-/

namespace Pjsocky

/-- An action that names no call but this one and asks pjsua neither to answer, to hang up
nor for anything about accounts. -/
def Action.About (callId : CallId) : Action → Prop
  | .getInfo target | .getStreamStat target _ | .getStreamInfo target _
  | .setVidStrm target _ => target = callId
  | .confConnect .. | .cancelTimer _ | .initTimer .. | .scheduleTimer .. | .warn ..
  | .mediaReport .. | .push _ => True
  | _ => False

/-- The log has grown by allowed actions, and the account is as before. -/
structure Daemon.Speaks (allowed : Action → Prop) (before after : Daemon) : Prop where
  log : ∃ added, after.log = before.log ++ added ∧ ∀ action ∈ added, allowed action
  accId : after.accId = before.accId
  registered : after.registered = before.registered

namespace Daemon

variable {daemon before after : Daemon} {answers : Answers} {lib : CallLib}
variable {allowed : Action → Prop} {name : TimerName} {callId : CallId}

namespace Speaks

theorem refl (allowed : Action → Prop) (daemon : Daemon) : Speaks allowed daemon daemon :=
  ⟨⟨[], (List.append_nil _).symm, List.forall_mem_nil _⟩, rfl, rfl⟩

theorem trans {last : Daemon} (first : Speaks allowed before after)
    (second : Speaks allowed after last) : Speaks allowed before last := by
  obtain ⟨added, grown, allAdded⟩ := first.log
  obtain ⟨more, grownMore, allMore⟩ := second.log
  refine ⟨⟨added ++ more, ?_, fun action member => ?_⟩, second.accId.trans first.accId,
    second.registered.trans first.registered⟩
  · rw [grownMore, grown, List.append_assoc]
  · rcases List.mem_append.mp member with old | new
    · exact allAdded action old
    · exact allMore action new

theorem mono {wider : Action → Prop} (speaks : Speaks allowed before after)
    (implies : ∀ action, allowed action → wider action) : Speaks wider before after := by
  obtain ⟨added, grown, allAdded⟩ := speaks.log
  exact ⟨⟨added, grown, fun action member => implies action (allAdded action member)⟩,
    speaks.accId, speaks.registered⟩

/-- The globals that neither the log nor the account depends on. -/
theorem set {last : Daemon} (speaks : Speaks allowed before after) (log : last.log = after.log)
    (accId : last.accId = after.accId) (registered : last.registered = after.registered) :
    Speaks allowed before last :=
  ⟨log ▸ speaks.log, accId.trans speaks.accId, registered.trans speaks.registered⟩

theorem record (speaks : Speaks allowed before after) (action : Action)
    (isAllowed : allowed action) : Speaks allowed before (after.record action) := by
  refine speaks.trans ⟨⟨[action], rfl, fun other member => ?_⟩, rfl, rfl⟩
  rw [List.mem_singleton.mp member]
  exact isAllowed

theorem setTimer (speaks : Speaks allowed before after) (name : TimerName) (timer : Timer) :
    Speaks allowed before (after.setTimer name timer) :=
  speaks.set rfl rfl rfl

theorem asks {last : Daemon} (speaks : Speaks (Action.About callId) before after)
    (asks : Asks callId after last) : Speaks (Action.About callId) before last := by
  obtain ⟨added, rfl, questions⟩ := asks
  refine speaks.trans ⟨⟨added, rfl, fun action member => ?_⟩, rfl, rfl⟩
  have question := questions action member
  cases action with
  | setVidStrm target op =>
      cases op with
      | remove => exact question.elim
      | changeCapDev => exact question
  | getInfo | getStreamStat | getStreamInfo => exact question
  | confConnect => trivial
  | _ => exact question.elim

theorem cancelTimer (speaks : Speaks (Action.About callId) before after) (name : TimerName) :
    Speaks (Action.About callId) before (after.cancelTimer name) := by
  unfold Daemon.cancelTimer
  dsimp only
  split
  · exact (speaks.record (.cancelTimer name) trivial).setTimer name _
  · exact speaks

theorem initTimer (speaks : Speaks (Action.About callId) before after) (name : TimerName)
    (target : CallId) : Speaks (Action.About callId) before (after.initTimer name target) :=
  (speaks.record (.initTimer name target _) trivial).setTimer name _

theorem scheduleTimer (speaks : Speaks (Action.About callId) before after) (answers : Answers)
    (name : TimerName) (msec : Nat) :
    Speaks (Action.About callId) before (after.scheduleTimer answers name msec) := by
  have asked : Speaks (Action.About callId) before
      (after.record (.scheduleTimer name msec (after.timers name).inHeap)) :=
    speaks.record _ trivial
  unfold Daemon.scheduleTimer
  dsimp only
  split
  · exact asked.setTimer name _
  · exact asked

theorem giveUpOnVideo (speaks : Speaks (Action.About callId) before after) (medIdx : Nat)
    (status : Status) (reason : Bytes) :
    Speaks (Action.About callId) before (after.giveUpOnVideo callId medIdx status reason) := by
  unfold Daemon.giveUpOnVideo
  split
  · exact speaks
  · have latched : Speaks (Action.About callId) before
        { after with videoFailedCallId := callId } := speaks.set rfl rfl rfl
    exact ((latched.cancelTimer .watchdog).record (.warn callId status reason) trivial).record
      (.setVidStrm callId (.remove medIdx)) rfl

end Speaks

/-! ## The callbacks of pjsua -/

/-- Every part of a callback speaks about its call only. -/
theorem Speaks.parts (answers : Answers) (callId : CallId) (daemon : Daemon) :
    Parts answers callId (Speaks (Action.About callId) daemon) where
  asks speaks asks := speaks.asks asks
  pushes _ speaks := speaks.record _ trivial
  cancels name speaks := speaks.cancelTimer name
  arms name msec speaks :=
    ((speaks.cancelTimer name).initTimer name callId).scheduleTimer answers name msec
  counts _ _ speaks := speaks.set rfl rfl rfl
  forgets speaks := speaks.set rfl rfl rfl

theorem onCallState_speaks (answers : Answers) (callId : CallId) (daemon : Daemon) :
    Speaks (Action.About callId) daemon (daemon.onCallState answers callId) :=
  (Speaks.parts answers callId daemon).onCallState (Speaks.refl _ _)

theorem onCallMediaState_speaks (answers : Answers) (callId : CallId) (daemon : Daemon) :
    Speaks (Action.About callId) daemon (daemon.onCallMediaState answers callId) :=
  (Speaks.parts answers callId daemon).onCallMediaState (Speaks.refl _ _)

theorem onCallMediaEvent_speaks (callId : CallId) (medIdx : Nat) (event : Option MediaEvent)
    (daemon : Daemon) :
    Speaks (Action.About callId) daemon (daemon.onCallMediaEvent callId medIdx event) := by
  unfold onCallMediaEvent
  split
  · exact (Speaks.refl _ _).giveUpOnVideo ..
  · exact Speaks.refl _ _

theorem onIncomingCall_speaks (answers : Answers) (callId : CallId) (daemon : Daemon) :
    Speaks (Action.About callId) daemon (daemon.onIncomingCall answers callId) := by
  refine (Speaks.parts answers callId daemon).onIncomingCall ?_
  exact (Speaks.refl _ daemon).set rfl rfl rfl

/-! ## The callbacks of the timers -/

/-- The watchdog and the media report only speak about the call of their entry. -/
theorem videoWatchdogCb_speaks (lib : CallLib) (answers : Answers) (daemon : Daemon) :
    Speaks (Action.About (daemon.timers .watchdog).userData) daemon
      (daemon.videoWatchdogCb lib answers) := by
  have cleared : Speaks (Action.About (daemon.timers .watchdog).userData) daemon
      (daemon.clearScheduled .watchdog) := (Speaks.refl _ _).setTimer _ _
  obtain ⟨asked, asks, ⟨same, -⟩ | ⟨-, medIdx, seen, ticks, same | same⟩⟩ :=
    videoWatchdogCb_cases lib answers daemon
  · rw [same]
    exact cleared.asks asks
  · rw [same]
    refine Speaks.scheduleTimer ?_ _ _ _
    exact (cleared.asks asks).set rfl rfl rfl
  · rw [same]
    refine Speaks.giveUpOnVideo ?_ _ _ _
    exact (cleared.asks asks).set rfl rfl rfl

theorem mediaReportCb_speaks (lib : CallLib) (answers : Answers) (daemon : Daemon) :
    Speaks (Action.About (daemon.timers .report).userData) daemon
      (daemon.mediaReportCb lib answers) := by
  have cleared : Speaks (Action.About (daemon.timers .report).userData) daemon
      (daemon.clearScheduled .report) := (Speaks.refl _ _).setTimer _ _
  obtain ⟨asked, asks, same | ⟨audio, video, same⟩⟩ := mediaReportCb_cases lib answers daemon
  · rw [same]
    exact cleared.asks asks
  · rw [same]
    exact ((cleared.asks asks).record (.mediaReport _ audio video) trivial).scheduleTimer _ _ _

/-- The ring timer may also hang its call up, with 480. -/
theorem ringTimerCb_speaks (answers : Answers) (daemon : Daemon) :
    Speaks (fun action => action.About (daemon.timers .ring).userData ∨
        action = .hangup (daemon.timers .ring).userData temporarilyUnavailable) daemon
      (daemon.ringTimerCb answers) := by
  have cleared : Speaks (Action.About (daemon.timers .ring).userData) daemon
      (daemon.clearScheduled .ring) := (Speaks.refl _ _).setTimer _ _
  obtain ⟨asked, asks, same | ⟨same, -⟩⟩ := ringTimerCb_cases answers daemon
  · rw [same]
    exact (cleared.asks asks).mono fun _ => .inl
  · rw [same]
    exact ((cleared.asks asks).mono fun _ => .inl).record _ (.inr rfl)

end Daemon
end Pjsocky
