import Pjsocky.Command.Sip

/-!
# Who sets the ring timeout

`g_ring_timeout_sec` is read when a call comes in and written by one command only. Neither the
callbacks nor the timers nor the other commands set it.
-/

namespace Pjsocky

open Support

namespace Daemon

variable {daemon after : Daemon}

theorem cancelTimer_ringTimeoutSec (name : TimerName) (daemon : Daemon) :
    (daemon.cancelTimer name).ringTimeoutSec = daemon.ringTimeoutSec := by
  unfold cancelTimer
  dsimp only
  split <;> rfl

theorem scheduleTimer_ringTimeoutSec (answers : Answers) (name : TimerName) (msec : Nat)
    (daemon : Daemon) :
    (daemon.scheduleTimer answers name msec).ringTimeoutSec = daemon.ringTimeoutSec := by
  unfold scheduleTimer
  dsimp only
  split <;> rfl

theorem giveUpOnVideo_ringTimeoutSec (callId : CallId) (medIdx : Nat) (status : Status)
    (reason : Bytes) (daemon : Daemon) :
    (daemon.giveUpOnVideo callId medIdx status reason).ringTimeoutSec =
      daemon.ringTimeoutSec := by
  unfold giveUpOnVideo
  split
  · rfl
  · exact cancelTimer_ringTimeoutSec .watchdog { daemon with videoFailedCallId := callId }

theorem Asks.ringTimeoutSec {callId : CallId} (asks : Asks callId daemon after) :
    after.ringTimeoutSec = daemon.ringTimeoutSec := by
  obtain ⟨added, rfl, -⟩ := asks
  rfl

theorem Logs.ringTimeoutSec {calls : CallLib} (logs : Logs calls daemon after) :
    after.ringTimeoutSec = daemon.ringTimeoutSec := by
  obtain ⟨added, rfl, -⟩ := logs
  rfl

/-- No part of a callback sets the ring timeout. -/
theorem ringTimeoutSec_parts (answers : Answers) (callId : CallId) (seconds : Nat) :
    Parts answers callId fun daemon => daemon.ringTimeoutSec = seconds where
  asks kept asks := asks.ringTimeoutSec.trans kept
  pushes _ kept := kept
  cancels name kept := (cancelTimer_ringTimeoutSec name _).trans kept
  arms name msec kept := (scheduleTimer_ringTimeoutSec answers name msec _).trans
    ((cancelTimer_ringTimeoutSec name _).trans kept)
  counts _ _ kept := kept
  forgets kept := kept

/-- Nor does the callback of a timer. -/
theorem timerCb_ringTimeoutSec (lib : CallLib) (answers : Answers) (name : TimerName)
    (daemon : Daemon) :
    (Phone.timerCb lib answers name daemon).ringTimeoutSec = daemon.ringTimeoutSec := by
  cases name with
  | ring =>
      obtain ⟨asked, asks, same | ⟨same, -⟩⟩ := ringTimerCb_cases answers daemon
      · exact (congrArg Daemon.ringTimeoutSec same).trans asks.ringTimeoutSec
      · exact (congrArg Daemon.ringTimeoutSec same).trans asks.ringTimeoutSec
  | watchdog =>
      obtain ⟨asked, asks, ⟨same, -⟩ | ⟨-, medIdx, seen, ticks, same | same⟩⟩ :=
        videoWatchdogCb_cases lib answers daemon
      · exact (congrArg Daemon.ringTimeoutSec same).trans asks.ringTimeoutSec
      · refine (congrArg Daemon.ringTimeoutSec same).trans ?_
        exact (scheduleTimer_ringTimeoutSec ..).trans asks.ringTimeoutSec
      · refine (congrArg Daemon.ringTimeoutSec same).trans ?_
        exact (giveUpOnVideo_ringTimeoutSec ..).trans asks.ringTimeoutSec
  | report =>
      obtain ⟨asked, asks, same | ⟨audio, video, same⟩⟩ := mediaReportCb_cases lib answers daemon
      · exact (congrArg Daemon.ringTimeoutSec same).trans asks.ringTimeoutSec
      · refine (congrArg Daemon.ringTimeoutSec same).trans ?_
        exact (scheduleTimer_ringTimeoutSec ..).trans asks.ringTimeoutSec

/-- Nor does any other command. -/
theorem command_ringTimeoutSec {build : Build} {outcomes : Outcomes}
    {params : Option JsonElem} {fn : CmdFn} {status : Status}
    (step : CmdStep build outcomes params daemon fn status after)
    (other : fn ≠ .configSetRingTimeout) : after.ringTimeoutSec = daemon.ringTimeoutSec := by
  cases step with
  | plain logs => exact logs.ringTimeoutSec
  | configured _ _ logs => exact logs.ringTimeoutSec
  | notConfigured _ logs => exact logs.ringTimeoutSec
  | selected _ logs => exact logs.ringTimeoutSec
  | answers _ _ logs => exact logs.ringTimeoutSec
  | removed | dialled | hangsUp | hangsUpAll => rfl
  | limited => exact (other rfl).elim

end Daemon

/-- Only `config.set_ring_timeout` sets the ring timeout. -/
theorem Sip.step_ringTimeoutSec {build : Build} {sip : Sip} {input : SipInput}
    (other : ∀ line outcomes params, input = .line line outcomes →
      Daemon.executed build line ≠ some (.configSetRingTimeout, params)) :
    (sip.step build input).daemon.ringTimeoutSec = sip.daemon.ringTimeoutSec := by
  cases input with
  | line line outcomes =>
      obtain same | ⟨fn, params, status, runs, command⟩ :=
        Daemon.dispatchLine_cases build outcomes sip.daemon line
      · exact congrArg Daemon.ringTimeoutSec same
      · refine Daemon.command_ringTimeoutSec command fun sets => ?_
        exact other line outcomes params rfl (sets ▸ runs)
  | regState2 accId renew info => cases info <;> rfl
  | incomingCall callId answers =>
      exact (Daemon.ringTimeoutSec_parts answers callId _).onIncomingCall rfl
  | callState callId answers =>
      exact (Daemon.ringTimeoutSec_parts answers callId _).onCallState rfl
  | callMediaState callId answers =>
      exact (Daemon.ringTimeoutSec_parts answers callId _).onCallMediaState rfl
  | callMediaEvent callId medIdx event =>
      unfold step Daemon.onCallMediaEvent
      dsimp only [set]
      split
      · exact Daemon.giveUpOnVideo_ringTimeoutSec ..
      · rfl
  | callRxOffer | pager2 | pagerStatus2 | typing2 | dequeue => rfl
  | fire answers =>
      obtain ⟨daemon, pending⟩ := sip
      cases pending with
      | none => rfl
      | some name => exact Daemon.timerCb_ringTimeoutSec build.calls answers name daemon

end Pjsocky
