import Pjsocky.Call.Frame

/-!
# Timers of other calls

The three timers are shared by all calls. A callback about one call finds them carrying
whichever call they were last armed for; only the ring timer is compared with the
callback's own call before it is cancelled. `timers_kept_iff` says exactly when a
callback leaves another call's timers alone.
-/

namespace Pjsocky

open Support

namespace Daemon

variable {daemon : Daemon} {answers : Answers} {callId other : CallId}

/-- Every timer that is scheduled for this call before is so after. -/
def KeepsTimersOf (callId : CallId) (before after : Daemon) : Prop :=
  ∀ name, before.ScheduledFor name callId → after.ScheduledFor name callId

/-- When a function keeps the timers it does not touch and takes the others from a call,
it keeps them all just when it touched none of the call's. -/
theorem keepsTimersOf_iff {touched : List TimerName} {after : Daemon}
    (kept : ∀ name, name ∉ touched → daemon.ScheduledFor name callId →
      after.ScheduledFor name callId)
    (lost : ∀ name, name ∈ touched → ¬after.ScheduledFor name callId) :
    KeepsTimersOf callId daemon after ↔
      ∀ name, name ∈ touched → ¬daemon.ScheduledFor name callId := by
  constructor
  · exact fun keeps name member armed => lost name member (keeps name armed)
  · intro none name armed
    by_cases member : name ∈ touched
    · exact absurd armed (none name member)
    · exact kept name member armed

/-- The ring timer of another call is not cancelled. -/
theorem stopRinging_other (distinct : callId ≠ other) (state : InvState)
    (armed : daemon.ScheduledFor .ring callId) : daemon.stopRinging other state = daemon := by
  unfold stopRinging
  dsimp only
  rw [if_neg]
  rintro ⟨-, same, -⟩
  exact distinct (armed.userData.symm.trans same.symm)

/-- The end of any call cancels the watchdog and the media report. -/
theorem callEnded_unscheduled (name : TimerName) (member : name ∈ [TimerName.watchdog, .report]) :
    ((daemon.callEnded other).timers name).scheduled = false := by
  rw [callEnded_eq]
  rcases List.mem_pair.mp member with rfl | rfl
  · have kept : Keeps [.report] (daemon.forget other).cancelVideoWatchdog
        (daemon.forget other).cancelVideoWatchdog.cancelMediaReport :=
      (Keeps.refl _ _).cancelTimer (List.mem_singleton_self _)
    rw [kept.timers .watchdog (by decide)]
    exact cancelTimer_scheduled .watchdog _
  · exact cancelTimer_scheduled .report _

/-- Whoever the watchdog is armed for, it is no longer scheduled for another call. -/
theorem armVideoWatchdog_other (distinct : callId ≠ other) (media : List CallMedia) :
    ¬(daemon.armVideoWatchdog answers other media).ScheduledFor .watchdog callId := by
  intro armed
  unfold armVideoWatchdog at armed
  dsimp only at armed
  split at armed
  · exact Bool.noConfusion (armed.scheduled.symm.trans (cancelTimer_scheduled .watchdog daemon))
  · exact distinct (armed.userData.symm.trans (armed_userData videoWatchdogMsec))

/-- `on_call_state` never takes the ring timer from another call. -/
theorem onCallState_ring (distinct : callId ≠ other)
    (armed : daemon.ScheduledFor .ring callId) :
    (daemon.onCallState answers other).ScheduledFor .ring callId := by
  have asked : (daemon.record (.getInfo other)).ScheduledFor .ring callId := armed
  unfold onCallState
  dsimp only
  split
  · exact asked
  · rw [stopRinging_other distinct _ asked]
    split
    · exact ((callEnded_keeps other _).scheduledFor (by decide)).mpr asked
    · exact asked

/-- `on_call_state` keeps the timers of another call unless it reads that its own call has
ended while the watchdog or the media report is scheduled for the other. -/
theorem onCallState_keepsTimersOf_iff (distinct : callId ≠ other) (daemon : Daemon) :
    KeepsTimersOf callId daemon (daemon.onCallState answers other) ↔
      ∀ info, answers.info 0 = .ok info → info.state = .disconnected →
        ¬daemon.ScheduledFor .watchdog callId ∧ ¬daemon.ScheduledFor .report callId := by
  by_cases goesOn : ∀ info, answers.info 0 = .ok info → info.state ≠ .disconnected
  · refine iff_of_true (fun name armed => ?_) fun info read ended => absurd ended (goesOn info read)
    by_cases isRing : name = .ring
    · subst isRing
      exact onCallState_ring distinct armed
    · refine ((onCallState_keeps other goesOn).scheduledFor ?_).mpr armed
      exact fun member => isRing (List.mem_singleton.mp member)
  · push Not at goesOn
    obtain ⟨info, read, ended⟩ := goesOn
    rw [@keepsTimersOf_iff _ _ [.watchdog, .report]]
    · simp [read, ended]
    · intro name untouched armed
      cases name with
      | ring => exact onCallState_ring distinct armed
      | watchdog | report => exact absurd (by decide) untouched
    · intro name member armed
      rw [onCallState_ended other read ended] at armed
      exact Bool.noConfusion (armed.scheduled.symm.trans (callEnded_unscheduled name member))

/-- `on_call_media_state` takes the watchdog and the media report from any other call once
it has read its own call's info. -/
theorem onCallMediaState_keepsTimersOf_iff (distinct : callId ≠ other) (daemon : Daemon) :
    KeepsTimersOf callId daemon (daemon.onCallMediaState answers other) ↔
      ∀ info, answers.info 0 = .ok info →
        ¬daemon.ScheduledFor .watchdog callId ∧ ¬daemon.ScheduledFor .report callId := by
  cases reading : answers.info 0 with
  | error status =>
      refine iff_of_true (fun name armed => ?_) nofun
      rw [onCallMediaState_unread other daemon reading]
      exact armed
  | ok info =>
      obtain ⟨connected, -, watchdog⟩ := onCallMediaState_watchdog other daemon reading
      rw [@keepsTimersOf_iff _ _ [.watchdog, .report]]
      · simp
      · intro name untouched
        exact ((onCallMediaState_keeps answers other daemon).scheduledFor untouched).mpr
      · intro name member scheduled
        rcases List.mem_pair.mp member with rfl | rfl
        · exact armVideoWatchdog_other distinct info.media (watchdog.symm.trans scheduled)
        · have reported := onCallMediaState_report other daemon reading
          exact distinct (scheduled.userData.symm.trans reported)

/-- `on_incoming_call` takes the ring timer from any other call once it has read its own
call's info, if there is a ring timeout. -/
theorem onIncomingCall_keepsTimersOf_iff (distinct : callId ≠ other) (daemon : Daemon) :
    KeepsTimersOf callId daemon (daemon.onIncomingCall answers other) ↔
      ∀ info, answers.info 0 = .ok info → 0 < daemon.ringTimeoutSec →
        ¬daemon.ScheduledFor .ring callId := by
  cases reading : answers.info 0 with
  | error status =>
      refine iff_of_true (fun name armed => ?_) nofun
      simp only [onIncomingCall, reading]
      exact armed
  | ok info =>
      by_cases limited : 0 < daemon.ringTimeoutSec
      · rw [@keepsTimersOf_iff _ _ [.ring]]
        · simp [limited]
        · intro name untouched armed
          exact ((onIncomingCall_keeps answers other daemon).scheduledFor untouched).mpr armed
        · intro name member armed
          obtain rfl := List.mem_singleton.mp member
          simp only [onIncomingCall, reading, startRinging, record_ringTimeoutSec,
            if_pos limited] at armed
          exact distinct (armed.userData.symm.trans (armed_userData _))
      · refine iff_of_true (fun name armed => ?_) fun _ _ isLimited => absurd isLimited limited
        simp only [onIncomingCall, reading, startRinging, record_ringTimeoutSec, if_neg limited]
        exact armed

/-- Exactly when the callbacks about one call leave the timers of another call alone, in any
state and whatever pjsua answers. -/
theorem timers_kept_iff (daemon : Daemon) (answers : Answers) (distinct : callId ≠ other) :
    (KeepsTimersOf callId daemon (daemon.onCallState answers other) ↔
      ∀ info, answers.info 0 = .ok info → info.state = .disconnected →
        ¬daemon.ScheduledFor .watchdog callId ∧ ¬daemon.ScheduledFor .report callId) ∧
    (KeepsTimersOf callId daemon (daemon.onCallMediaState answers other) ↔
      ∀ info, answers.info 0 = .ok info →
        ¬daemon.ScheduledFor .watchdog callId ∧ ¬daemon.ScheduledFor .report callId) ∧
    (KeepsTimersOf callId daemon (daemon.onIncomingCall answers other) ↔
      ∀ info, answers.info 0 = .ok info → 0 < daemon.ringTimeoutSec →
        ¬daemon.ScheduledFor .ring callId) :=
  ⟨onCallState_keepsTimersOf_iff distinct daemon,
    onCallMediaState_keepsTimersOf_iff distinct daemon,
    onIncomingCall_keepsTimersOf_iff distinct daemon⟩

end Daemon

namespace Phone

/-- Call 0 is up and sends video; call 1 comes in. -/
def callWaiting : List CallInput :=
  [.account 0 true, .dial (ascii "sip:bob@example.com") true (.created 0),
    .callState 0 .confirmed (.sample 0 .confirmed []),
    .callMediaState 0 [sampleVideo] (.sample 0 .confirmed [sampleVideo]),
    .incomingCall 1 (.sample 1 .incoming [])]

/-- As long as call 1 rings, its changes of state leave the timers of call 0 alone. -/
theorem callWaiting_keeps_timers :
    Daemon.KeepsTimersOf 0 (run sampleCallLib start callWaiting).daemon
      ((run sampleCallLib start callWaiting).daemon.onCallState (.sample 1 .early []) 1) := by
  refine (Daemon.timers_kept_iff _ (.sample 1 .early []) (by decide)).1.mpr ?_
  rintro info read ended
  cases read
  cases ended

/-- When call 1 is rejected, call 0 loses its watchdog. -/
theorem callWaiting_rejected_stops_watchdog :
    Machine.Along (step sampleCallLib) (fun phone input => phone.Possible sampleCallLib input)
      start (callWaiting ++ [.callState 1 .disconnected (.sample 1 .disconnected [])]) ∧
    (run sampleCallLib start callWaiting).Live 0 ∧
    (run sampleCallLib start callWaiting).Live 1 ∧
    (run sampleCallLib start callWaiting).daemon.ScheduledFor .watchdog 0 ∧
    ¬Daemon.KeepsTimersOf 0 (run sampleCallLib start callWaiting).daemon
      ((run sampleCallLib start callWaiting).daemon.onCallState
        (.sample 1 .disconnected []) 1) := by
  have armed : (run sampleCallLib start callWaiting).daemon.ScheduledFor .watchdog 0 := by decide
  refine ⟨?_, by decide, by decide, armed, fun keeps => ?_⟩
  · refine ⟨trivial, ⟨rfl, by decide⟩, ?_, ?_, ⟨rfl, by decide⟩, ?_, trivial⟩
    · exact ⟨_, rfl, Answers.sample_tell _ _ _ ⟨rfl, nofun⟩⟩
    · exact ⟨_, rfl, Answers.sample_tell _ _ _ ⟨rfl, fun _ same => Option.some.inj same⟩⟩
    · exact ⟨_, rfl, Answers.sample_tell _ _ _ ⟨rfl, nofun⟩⟩
  · exact absurd (keeps .watchdog armed) (by decide)

end Phone
end Pjsocky
