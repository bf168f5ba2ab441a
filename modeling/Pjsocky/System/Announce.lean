import Pjsocky.Command.Status
import Pjsocky.System.Serving

/-!
# What is announced

The events of a callback are settled by what pjsua says in it: the state that the daemon is in
does not enter. What is written to a client between its answers are therefore the events that
pjsua's callbacks announce.
-/

namespace Pjsocky

open Support

/-- The log has grown, and these are the events among what was added. -/
def Daemon.Pushes (events : List Event) (before after : Daemon) : Prop :=
  ∃ added, after.log = before.log ++ added ∧ added.filterMap Action.pushed = events

namespace Daemon

variable {daemon before after : Daemon} {events : List Event} {answers : Answers}
variable {name : TimerName} {callId : CallId}

namespace Pushes

theorem refl (daemon : Daemon) : Pushes [] daemon daemon := ⟨[], (List.append_nil _).symm, rfl⟩

/-- What else there is in the state. -/
theorem set {last : Daemon} (pushes : Pushes events before after) (log : last.log = after.log) :
    Pushes events before last := by
  rw [Pushes, log]
  exact pushes

theorem trans {last : Daemon} {more : List Event} (first : Pushes events before after)
    (second : Pushes more after last) : Pushes (events ++ more) before last := by
  obtain ⟨added, grown, rfl⟩ := first
  obtain ⟨further, grownMore, rfl⟩ := second
  refine ⟨added ++ further, ?_, List.filterMap_append⟩
  rw [grownMore, grown, List.append_assoc]

theorem push (pushes : Pushes events before after) (event : Event) :
    Pushes (events ++ [event]) before (after.record (.push event)) :=
  pushes.trans ⟨[.push event], rfl, rfl⟩

/-- More is done, and nothing is announced. -/
theorem quiet {last : Daemon} (pushes : Pushes events before after)
    (none : Pushes [] after last) : Pushes events before last :=
  List.append_nil events ▸ pushes.trans none

theorem record (pushes : Pushes events before after) {action : Action}
    (silent : action.pushed = none) : Pushes events before (after.record action) := by
  refine pushes.quiet ⟨[action], rfl, ?_⟩
  rw [List.filterMap_cons, silent]
  rfl

theorem asks {last : Daemon} (pushes : Pushes events before after)
    (asks : Asks callId after last) : Pushes events before last := by
  obtain ⟨added, rfl, questions⟩ := asks
  refine pushes.quiet ⟨added, rfl, List.filterMap_eq_nil_iff.mpr fun action member => ?_⟩
  have question := questions action member
  cases action with
  | push event => exact question.elim
  | _ => rfl

theorem cancelTimer (pushes : Pushes events before after) (name : TimerName) :
    Pushes events before (after.cancelTimer name) := by
  unfold Daemon.cancelTimer
  dsimp only
  split
  · exact (pushes.record rfl : Pushes events before (after.record (.cancelTimer name))).set rfl
  · exact pushes

theorem initTimer (pushes : Pushes events before after) (name : TimerName) (callId : CallId) :
    Pushes events before (after.initTimer name callId) :=
  (pushes.record rfl : Pushes events before
    (after.record (.initTimer name callId (after.timers name).inHeap))).set rfl

theorem scheduleTimer (pushes : Pushes events before after) (answers : Answers)
    (name : TimerName) (msec : Nat) :
    Pushes events before (after.scheduleTimer answers name msec) := by
  have asked : Pushes events before
      (after.record (.scheduleTimer name msec (after.timers name).inHeap)) := pushes.record rfl
  unfold Daemon.scheduleTimer
  dsimp only
  split
  · exact asked.set rfl
  · exact asked

/-- An entry is cancelled and armed again. -/
theorem rearm (pushes : Pushes events before after) (answers : Answers) (name : TimerName)
    (callId : CallId) (msec : Nat) : Pushes events before
      (((after.cancelTimer name).initTimer name callId).scheduleTimer answers name msec) :=
  ((pushes.cancelTimer name).initTimer name callId).scheduleTimer answers name msec

theorem giveUpOnVideo (pushes : Pushes events before after) (callId : CallId) (medIdx : Nat)
    (status : Status) (reason : Bytes) :
    Pushes events before (after.giveUpOnVideo callId medIdx status reason) := by
  unfold Daemon.giveUpOnVideo
  split
  · exact pushes
  · have latched : Pushes events before { after with videoFailedCallId := callId } :=
      pushes.set rfl
    exact ((latched.cancelTimer .watchdog).record rfl).record rfl

theorem armVideoWatchdog (pushes : Pushes events before after) (answers : Answers)
    (callId : CallId) (media : List CallMedia) :
    Pushes events before (after.armVideoWatchdog answers callId media) := by
  have cancelled := pushes.cancelTimer .watchdog
  unfold Daemon.armVideoWatchdog
  dsimp only
  split
  · exact cancelled
  · have counted : Pushes events before { after.cancelVideoWatchdog with
        videoTxPacketsSeen := 0
        videoStallTicks := 0 } := cancelled.set rfl
    exact (counted.initTimer .watchdog callId).scheduleTimer answers _ _

theorem stopRinging (pushes : Pushes events before after) (callId : CallId) (state : InvState) :
    Pushes events before (after.stopRinging callId state) := by
  unfold Daemon.stopRinging
  dsimp only
  split
  · exact pushes.cancelTimer .ring
  · exact pushes

theorem startRinging (pushes : Pushes events before after) (answers : Answers)
    (callId : CallId) : Pushes events before (after.startRinging answers callId) := by
  unfold Daemon.startRinging
  split
  · exact pushes.rearm answers .ring callId _
  · exact pushes

theorem callEnded (pushes : Pushes events before after) (callId : CallId) :
    Pushes events before (after.callEnded callId) := by
  have forgotten : Pushes events before (after.forget callId) := pushes.set rfl
  rw [callEnded_eq]
  exact (forgotten.cancelTimer .watchdog).cancelTimer .report

end Pushes
end Daemon

/-! ## The events of each step -/

/-- What is announced of a call whose info could be read. -/
def announced (event : CallInfo → Event) : Except Failure CallInfo → List Event
  | .ok info => [event info]
  | .error _ => []

/-- What a step of the SIP side announces. -/
def SipInput.announces : SipInput → List Event
  | .regState2 _ renew (.ok info) => [.regState info (renew && info.status / 100 = 2)]
  | .incomingCall _ answers => announced .incomingCall (answers.info 0)
  | .callState _ answers => announced .callState (answers.info 0)
  | .callMediaState _ answers => announced .callMediaState (answers.info 0)
  | .pager2 source target mimeType body => [.incomingMessage source target mimeType body]
  | .pagerStatus2 target body status reason => [.messageStatus target body status reason]
  | .typing2 source target isTyping => [.typing source target isTyping]
  | _ => []

namespace Daemon

variable {daemon : Daemon}

theorem onRegState2_pushes (accId : AccId) (renew : Bool) (info : Except Failure AccInfo)
    (daemon : Daemon) : Pushes (SipInput.regState2 accId renew info).announces daemon
      (daemon.onRegState2 accId renew info) := by
  have asked : Pushes [] daemon (daemon.record (.accGetInfo accId)) := (Pushes.refl _).record rfl
  cases info with
  | error status => exact asked
  | ok info =>
      have noted : Pushes [] daemon { daemon.record (.accGetInfo accId) with
          registered := renew && info.status / 100 = 2 } := asked.set rfl
      exact noted.push _

theorem onIncomingCall_pushes (answers : Answers) (callId : CallId) (daemon : Daemon) :
    Pushes (announced .incomingCall (answers.info 0)) daemon
      (daemon.onIncomingCall answers callId) := by
  have tracked : Pushes [] daemon { daemon with callId } := (Pushes.refl daemon).set rfl
  have asked : Pushes [] daemon ({ daemon with callId }.record (.getInfo callId)) :=
    tracked.record rfl
  unfold onIncomingCall
  dsimp only
  cases answers.info 0 with
  | error status => exact asked
  | ok info => exact (asked.startRinging answers callId).push _

theorem onCallState_pushes (answers : Answers) (callId : CallId) (daemon : Daemon) :
    Pushes (announced .callState (answers.info 0)) daemon (daemon.onCallState answers callId) := by
  have asked : Pushes [] daemon (daemon.record (.getInfo callId)) := (Pushes.refl _).record rfl
  unfold onCallState
  dsimp only
  cases answers.info 0 with
  | error status => exact asked
  | ok info =>
      have quiet := asked.stopRinging callId info.state
      dsimp only
      split
      · exact (quiet.callEnded callId).push (.callState info)
      · exact quiet.push (.callState info)

theorem onCallMediaState_pushes (answers : Answers) (callId : CallId) (daemon : Daemon) :
    Pushes (announced .callMediaState (answers.info 0)) daemon
      (daemon.onCallMediaState answers callId) := by
  cases reading : answers.info 0 with
  | error status =>
      rw [onCallMediaState_unread callId daemon reading]
      exact (Pushes.refl _).record rfl
  | ok info =>
      obtain ⟨connected, logged, asks, logs, done⟩ := onCallMediaState_read callId daemon reading
      have watched := ((Pushes.refl daemon).asks asks).armVideoWatchdog answers callId info.media
      rw [done]
      exact ((watched.rearm answers .report callId _).asks logs).push _

theorem ringTimerCb_pushes (answers : Answers) (daemon : Daemon) :
    Pushes [] daemon (daemon.ringTimerCb answers) := by
  have cleared : Pushes [] daemon (daemon.clearScheduled .ring) := (Pushes.refl _).set rfl
  obtain ⟨asked, asks, same | ⟨same, -⟩⟩ := ringTimerCb_cases answers daemon
  · rw [same]
    exact cleared.asks asks
  · rw [same]
    exact (cleared.asks asks).record rfl

theorem videoWatchdogCb_pushes (lib : CallLib) (answers : Answers) (daemon : Daemon) :
    Pushes [] daemon (daemon.videoWatchdogCb lib answers) := by
  have cleared : Pushes [] daemon (daemon.clearScheduled .watchdog) := (Pushes.refl _).set rfl
  obtain ⟨asked, asks, ⟨same, -⟩ | ⟨-, medIdx, seen, ticks, same | same⟩⟩ :=
    videoWatchdogCb_cases lib answers daemon
  · rw [same]
    exact cleared.asks asks
  · have counted : Pushes [] daemon { asked with
        videoTxPacketsSeen := seen
        videoStallTicks := ticks } := (cleared.asks asks).set rfl
    rw [same]
    exact counted.scheduleTimer ..
  · have counted : Pushes [] daemon { asked with
        videoTxPacketsSeen := seen
        videoStallTicks := ticks } := (cleared.asks asks).set rfl
    rw [same]
    exact counted.giveUpOnVideo ..

theorem mediaReportCb_pushes (lib : CallLib) (answers : Answers) (daemon : Daemon) :
    Pushes [] daemon (daemon.mediaReportCb lib answers) := by
  have cleared : Pushes [] daemon (daemon.clearScheduled .report) := (Pushes.refl _).set rfl
  obtain ⟨asked, asks, same | ⟨audio, video, same⟩⟩ := mediaReportCb_cases lib answers daemon
  · rw [same]
    exact cleared.asks asks
  · rw [same]
    exact ((cleared.asks asks).record rfl).scheduleTimer ..

end Daemon

/-- Whatever state the daemon is in, a step announces what its input says. -/
theorem Sip.events_eq (build : Build) (sip : Sip) (input : SipInput) :
    sip.events build input = input.announces := by
  have settled (pushes : Daemon.Pushes input.announces sip.daemon (sip.step build input).daemon) :
      sip.events build input = input.announces := by
    obtain ⟨added, grown, same⟩ := pushes
    rw [Sip.events, Sip.requests_eq grown, same]
  cases input with
  | line text outcomes => exact Service.events_line build sip text outcomes
  | regState2 accId renew info => exact settled (Daemon.onRegState2_pushes accId renew info _)
  | incomingCall callId answers => exact settled (Daemon.onIncomingCall_pushes answers callId _)
  | callState callId answers => exact settled (Daemon.onCallState_pushes answers callId _)
  | callMediaState callId answers => exact settled (Daemon.onCallMediaState_pushes answers callId _)
  | callMediaEvent callId medIdx event =>
      refine settled ?_
      dsimp only [Sip.step, Sip.set, Daemon.onCallMediaEvent]
      split
      · exact (Daemon.Pushes.refl _).giveUpOnVideo ..
      · exact Daemon.Pushes.refl _
  | callRxOffer => exact settled (Daemon.Pushes.refl _)
  | pager2 => exact settled ((Daemon.Pushes.refl _).push _)
  | pagerStatus2 => exact settled ((Daemon.Pushes.refl _).push _)
  | typing2 => exact settled ((Daemon.Pushes.refl _).push _)
  | dequeue name => exact settled ((Daemon.Pushes.refl sip.daemon).set rfl)
  | fire answers =>
      refine settled ?_
      obtain ⟨daemon, pending⟩ := sip
      cases pending with
      | none => exact Daemon.Pushes.refl _
      | some name =>
          cases name with
          | ring => exact Daemon.ringTimerCb_pushes answers daemon
          | watchdog => exact Daemon.videoWatchdogCb_pushes build.calls answers daemon
          | report => exact Daemon.mediaReportCb_pushes build.calls answers daemon

/-! ## Runs -/

/-- The log of a run grows by what its steps announce. -/
theorem Sip.run_announces (build : Build) (sip : Sip) (inputs : List SipInput) :
    Daemon.Pushes (inputs.flatMap SipInput.announces) sip.daemon
      (sip.run build inputs).daemon := by
  induction inputs generalizing sip with
  | nil => exact Daemon.Pushes.refl _
  | cons input rest ih =>
      obtain ⟨added, grown, -⟩ := sip.step_log build input
      have same := sip.events_eq build input
      rw [Sip.events, Sip.requests_eq grown] at same
      have first : Daemon.Pushes input.announces sip.daemon (sip.step build input).daemon :=
        ⟨added, grown, same⟩
      exact first.trans (ih (sip.step build input))

/-- A line announces nothing, so it does not matter whether it reaches a handler. -/
theorem flatMap_announces_reaches (build : Build) (inputs : List SipInput) :
    (inputs.filter (SipInput.reaches build)).flatMap SipInput.announces =
      inputs.flatMap SipInput.announces := by
  induction inputs with
  | nil => rfl
  | cons input rest ih =>
      rw [List.filter_cons]
      split
      · rw [List.flatMap_cons, List.flatMap_cons, ih]
      · rename_i idle
        have silent : input.announces = [] := by
          cases input with
          | line => rfl
          | _ => exact (idle rfl).elim
        rw [List.flatMap_cons, silent, ih]
        rfl

/-- The course of the service only grows. -/
theorem Service.course_grows (setup : Setup) (base : Service) (inputs : List ServiceInput) :
    base.course <+: (run setup base inputs).course := by
  refine @Machine.invariant_always _ _ (step setup)
    (fun service => base.course <+: service.course) (fun service input grown => ?_) base
    List.prefix_rfl inputs
  cases input with
  | happens input _ => exact grown.trans (List.prefix_append _ _)
  | joins | leaves =>
      dsimp only [step]
      split
      · exact grown
      · exact grown
  | asks line outcomes =>
      dsimp only [step]
      split
      · exact grown.trans (List.prefix_append _ _)
      · exact grown
  | _ => exact grown

/-- Between two moments at which the same client is served, the writes of callbacks are to that
client and are, one for each and in their order, those of the events that the callbacks in between
announce, whatever state the daemon is in. -/
theorem System.callbacks_announced (setup : Setup) (early late : List SystemInput) (sock : Nat)
    (before : (run setup start early).system.world.connected = some sock)
    (after : (run setup start (early ++ late)).system.world.connected = some sock) :
    let first := (run setup start early).system
    let last := (run setup start (early ++ late)).system
    ∃ steps added, script setup (early ++ late) = script setup early ++ steps ∧
      last.world.trace = first.world.trace ++ added ∧
      List.Forall₂ (Obs.Conveys setup.build.lib sock) (steps.flatMap SipInput.announces)
        (added.filter Obs.isCallback) := by
  obtain ⟨acts, more, pushed, added, serves, still, log, trace, -, written⟩ :=
    pushes_delivered before after
  obtain ⟨later, grown⟩ := Service.course_grows setup (Service.run setup .start acts) more
  have first := (Service.sound_run setup acts).sip
  have last : (Service.run setup (Service.run setup .start acts) more).sip =
      Sip.run setup.build (Service.run setup .start acts).sip later := by
    have whole := (Service.sound_run setup (acts ++ more)).sip
    have joined : Service.run setup .start (acts ++ more) =
        Service.run setup (Service.run setup .start acts) more := Machine.run_append _ _ _ _
    rw [joined, ← grown, Sip.run, Machine.run_append, ← Sip.run, ← first] at whole
    exact whole
  obtain ⟨announcing, longer, announces⟩ := Sip.run_announces setup.build
    (Service.run setup .start acts).sip later
  rw [← last, log] at longer
  obtain rfl := List.append_cancel_left longer
  refine ⟨later.filter (SipInput.reaches setup.build), added, ?_, trace, ?_⟩
  · rw [script, script, ← still.inStep.course, ← serves.inStep.course, ← grown,
      List.filter_append]
  · rw [flatMap_announces_reaches, ← announces]
    exact written

/-- The events of two calls that come in while the client is served: the first is written whole. -/
theorem System.callbacks_announced_clientTires :
    let first := (run ⟨timeoutBuild, 5000⟩ start (clientTires.take 2)).system
    let last := (run ⟨timeoutBuild, 5000⟩ start clientTires).system
    (∃ steps added, script ⟨timeoutBuild, 5000⟩ clientTires =
        script ⟨timeoutBuild, 5000⟩ (clientTires.take 2) ++ steps ∧
      last.world.trace = first.world.trace ++ added ∧
      List.Forall₂ (Obs.Conveys timeoutBuild.lib 0) (steps.flatMap SipInput.announces)
        (added.filter Obs.isCallback)) ∧
    (writesTo 0 last.world.trace).map (fun write => decide (write.2.status = .success)) =
      [true, true, true, false] :=
  ⟨callbacks_announced ⟨timeoutBuild, 5000⟩ (clientTires.take 2) (clientTires.drop 2) 0 rfl rfl,
    by decide +kernel⟩

end Pjsocky
