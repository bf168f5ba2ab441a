import Pjsocky.Call.Frame

/-!
# The parts of a callback

The callbacks about one call are put together from a few parts. A property that every part
keeps is kept by the callbacks, whatever they read: this is the one case analysis of
`on_call_state`, `on_call_media_state` and `on_incoming_call` for the properties that do not
depend on what was read.
-/

namespace Pjsocky.Daemon

/-- A property of the daemon that every part of the callbacks about a call keeps. -/
structure Parts (answers : Answers) (callId : CallId) (kept : Daemon → Prop) : Prop where
  asks : ∀ {before after}, kept before → Asks callId before after → kept after
  pushes : ∀ {daemon} event, kept daemon → kept (daemon.record (.push event))
  cancels : ∀ {daemon} name, kept daemon → kept (daemon.cancelTimer name)
  /-- An entry is cancelled and armed again, for this call. -/
  arms : ∀ {daemon} name msec, kept daemon →
    kept (((daemon.cancelTimer name).initTimer name callId).scheduleTimer answers name msec)
  counts : ∀ {daemon} seen ticks, kept daemon →
    kept { daemon with videoTxPacketsSeen := seen, videoStallTicks := ticks }
  forgets : ∀ {daemon}, kept daemon → kept (daemon.forget callId)

variable {daemon : Daemon} {answers : Answers} {callId : CallId} {kept : Daemon → Prop}

/-- The stall counters may be reset before the timer is cancelled. -/
theorem cancelTimer_counted (name : TimerName) (seen ticks : Nat) :
    { daemon with videoTxPacketsSeen := seen, videoStallTicks := ticks }.cancelTimer name =
      { daemon.cancelTimer name with videoTxPacketsSeen := seen, videoStallTicks := ticks } := by
  unfold cancelTimer
  dsimp only
  split
  · rfl
  · rfl

namespace Parts

theorem onCallState (parts : Parts answers callId kept) (holds : kept daemon) :
    kept (daemon.onCallState answers callId) := by
  have asked : kept (daemon.record (.getInfo callId)) :=
    parts.asks holds ((Asks.refl callId daemon).record rfl)
  have quiet (state : InvState) :
      kept ((daemon.record (.getInfo callId)).stopRinging callId state) := by
    unfold stopRinging
    dsimp only
    split
    · exact parts.cancels .ring asked
    · exact asked
  unfold Daemon.onCallState
  dsimp only
  split
  · exact asked
  · rename_i info read
    apply parts.pushes
    split
    · rw [callEnded_eq]
      exact parts.cancels .report (parts.cancels .watchdog (parts.forgets (quiet info.state)))
    · exact quiet info.state

theorem armVideoWatchdog (parts : Parts answers callId kept) (holds : kept daemon)
    (media : List CallMedia) : kept (daemon.armVideoWatchdog answers callId media) := by
  unfold Daemon.armVideoWatchdog
  dsimp only
  split
  · exact parts.cancels .watchdog holds
  · have armed := parts.arms .watchdog videoWatchdogMsec (parts.counts 0 0 holds)
    rw [cancelTimer_counted] at armed
    exact armed

theorem onCallMediaState (parts : Parts answers callId kept) (holds : kept daemon) :
    kept (daemon.onCallMediaState answers callId) := by
  cases reading : answers.info 0 with
  | error status =>
      rw [onCallMediaState_unread callId daemon reading]
      exact parts.asks holds ((Asks.refl callId daemon).record rfl)
  | ok info =>
      obtain ⟨connected, logged, asks, logs, done⟩ := onCallMediaState_read callId daemon reading
      have watched := parts.armVideoWatchdog (parts.asks holds asks) info.media
      have reported := parts.arms .report mediaReportMsec watched
      rw [done]
      exact parts.pushes _ (parts.asks reported logs)

/-- The new call is tracked before anything else. -/
theorem onIncomingCall (parts : Parts answers callId kept) (tracked : kept { daemon with callId }) :
    kept (daemon.onIncomingCall answers callId) := by
  have asked : kept ({ daemon with callId }.record (.getInfo callId)) :=
    parts.asks tracked ((Asks.refl callId _).record rfl)
  unfold Daemon.onIncomingCall
  dsimp only
  split
  · exact asked
  · apply parts.pushes
    unfold startRinging
    split
    · exact parts.arms .ring _ asked
    · exact asked

end Parts
end Pjsocky.Daemon
