import Pjsocky.Call.Model
import Pjsocky.Support.Machine

/-!
# The daemon and its calls

Runs of the call layer: client commands, pjsua's callbacks and timer expiries in any
order, over any number of calls. Beside the daemon's own state a run keeps the live
calls, those created and not yet disconnected, with what pjsua has last reported of
them. `Possible` is what pjsua may do next; it leaves the order of calls, callbacks
and expiries open.

A callback that runs while a command is inside a pjsua call is taken before or after
the command. Nothing is lost that way: of the commands only `call.dial` goes on after
its pjsua call, and what it then does on failure, clearing the tracked call, is the
same whenever the callback ran.
-/

namespace Pjsocky

open Support

/-- A call that has been created and is not yet disconnected. -/
structure LiveCall where
  state : InvState
  /-- The media as `on_call_media_state` last reported them. -/
  media : Option (List CallMedia)
  /-- How often the video of this id had been removed when the call was created. -/
  removals : Nat
deriving DecidableEq, Repr

structure Phone where
  daemon : Daemon
  calls : CallId → Option LiveCall

/-- One step of a run. -/
inductive CallInput where
  | dial (uri : Bytes) (video : Bool) (outcome : MakeCallOutcome)
  | answer (callId : CallId) (code : Nat) (video : Bool) (status : Status)
  | hangup (callId : CallId) (code : Nat) (status : Status)
  | hangupAll (status : Status)
  | setRingTimeout (seconds : Nat)
  /-- `account.c` changes the account or its registration. -/
  | account (accId : AccId) (registered : Bool)
  /-- `device.c` selects a capture device. -/
  | captureDevice (device : Int)
  | incomingCall (callId : CallId) (answers : Answers)
  /-- The call changes to this state and pjsua reports it. -/
  | callState (callId : CallId) (state : InvState) (answers : Answers)
  /-- The call's media change to these and pjsua reports it. -/
  | callMediaState (callId : CallId) (media : List CallMedia) (answers : Answers)
  | callMediaEvent (callId : CallId) (medIdx : Nat) (event : Option MediaEvent)
  | callRxOffer (callId : CallId) (offer : Option (List SdpMedia)) (opt : Option CallSetting)
  /-- A timer expires and its callback runs. -/
  | expires (name : TimerName) (answers : Answers)

/-- The call of this id is reported disconnected. -/
def CallInput.Ends (callId : CallId) : CallInput → Prop
  | .callState target state _ => target = callId ∧ state = .disconnected
  | _ => False

/-- A request to pjsua that takes this call's video away. -/
def Action.removes (callId : CallId) : Action → Bool
  | .setVidStrm target (.remove _) => target = callId
  | _ => false

/-- The warning that this call goes on without video. -/
def Action.warns (callId : CallId) : Action → Bool
  | .warn target _ _ => target = callId
  | _ => false

/-- How often `give_up_on_video` has removed the video of a call id. -/
def Daemon.removals (daemon : Daemon) (callId : CallId) : Nat :=
  daemon.log.countP (Action.removes callId)

/-- How often `give_up_on_video` has warned about a call id. -/
def Daemon.warnings (daemon : Daemon) (callId : CallId) : Nat :=
  daemon.log.countP (Action.warns callId)

/-- A timer is scheduled and carries this call's id. -/
def Daemon.ScheduledFor (daemon : Daemon) (name : TimerName) (callId : CallId) : Prop :=
  daemon.timers name = ⟨callId, true, true⟩

instance (daemon : Daemon) (name : TimerName) (callId : CallId) :
    Decidable (daemon.ScheduledFor name callId) :=
  inferInstanceAs (Decidable (_ = _))

namespace Phone

def start : Phone := ⟨.start, fun _ => none⟩

/-- A call is created. -/
def create (phone : Phone) (callId : CallId) (state : InvState) : CallId → Option LiveCall :=
  Function.update phone.calls callId (some ⟨state, none, phone.daemon.removals callId⟩)

/-- A call reaches a state; the last one ends it. -/
def moveTo (phone : Phone) (callId : CallId) (state : InvState) : CallId → Option LiveCall :=
  Function.update phone.calls callId
    (if state = .disconnected then none
    else (phone.calls callId).map fun call => { call with state })

/-- A call's media are reported. -/
def report (phone : Phone) (callId : CallId) (media : List CallMedia) :
    CallId → Option LiveCall :=
  Function.update phone.calls callId
    ((phone.calls callId).map fun call => { call with media := some media })

/-- The callback of a timer. -/
def timerCb (lib : CallLib) (answers : Answers) : TimerName → Daemon → Daemon
  | .ring => Daemon.ringTimerCb answers
  | .watchdog => Daemon.videoWatchdogCb lib answers
  | .report => Daemon.mediaReportCb lib answers

def step (lib : CallLib) (phone : Phone) : CallInput → Phone
  | .dial uri video outcome =>
      let result := phone.daemon.dial lib uri video outcome
      match result.1 with
      | .ok callId => ⟨result.2, phone.create callId .calling⟩
      | .error _ => ⟨result.2, phone.calls⟩
  | .answer callId code video status =>
      { phone with daemon := (phone.daemon.answer lib callId code video status).2 }
  | .hangup callId code status =>
      { phone with daemon := (phone.daemon.hangup lib callId code status).2 }
  | .hangupAll status => { phone with daemon := (phone.daemon.hangupAll status).2 }
  | .setRingTimeout seconds => { phone with daemon := phone.daemon.setRingTimeout seconds }
  | .account accId registered =>
      { phone with daemon := { phone.daemon with accId, registered } }
  | .captureDevice device =>
      { phone with daemon := { phone.daemon with videoCapture := device } }
  | .incomingCall callId answers =>
      ⟨phone.daemon.onIncomingCall answers callId, phone.create callId .incoming⟩
  | .callState callId state answers =>
      ⟨phone.daemon.onCallState answers callId, phone.moveTo callId state⟩
  | .callMediaState callId media answers =>
      ⟨phone.daemon.onCallMediaState answers callId, phone.report callId media⟩
  | .callMediaEvent callId medIdx event =>
      { phone with daemon := phone.daemon.onCallMediaEvent callId medIdx event }
  | .callRxOffer _ _ _ => phone
  | .expires name answers =>
      { phone with daemon := timerCb lib answers name (phone.daemon.dequeueTimer name) }

/-- The state after a list of inputs. -/
abbrev run (lib : CallLib) : Phone → List CallInput → Phone := Machine.run (step lib)

def Live (phone : Phone) (callId : CallId) : Prop := phone.calls callId ≠ none

instance (phone : Phone) (callId : CallId) : Decidable (phone.Live callId) :=
  inferInstanceAs (Decidable (_ ≠ _))

theorem live_of_some {phone : Phone} {callId : CallId} {call : LiveCall}
    (found : phone.calls callId = some call) : phone.Live callId := by
  rw [Live, found]
  exact Option.some_ne_none call

/-- `give_up_on_video` has run for this live call. -/
def GaveUp (phone : Phone) (callId : CallId) : Prop :=
  ∃ call, phone.calls callId = some call ∧ call.removals < phone.daemon.removals callId

end Phone

/-- What pjsua reads for a call agrees with what it has reported of it. -/
def LiveCall.Agrees (call : LiveCall) (info : CallInfo) : Prop :=
  info.state = call.state ∧ ∀ media, call.media = some media → info.media = media

/-- The readings of one step, each of which may fail, are about this call; they all fail
when there is none. -/
def Answers.Tell (answers : Answers) (call : Option LiveCall) : Prop :=
  ∀ reading info, answers.info reading = .ok info → ∃ live, call = some live ∧ live.Agrees info

theorem Answers.Tell.agrees {answers : Answers} {call : LiveCall} {reading : Nat}
    {info : CallInfo} (tells : answers.Tell (some call)) (read : answers.info reading = .ok info) :
    call.Agrees info := by
  obtain ⟨told, same, agrees⟩ := tells reading info read
  exact Option.some.inj same ▸ agrees

namespace Phone

/-- An id that pjsua may give to a new call. -/
def Fresh (lib : CallLib) (phone : Phone) (callId : CallId) : Prop :=
  lib.isValidCallId callId = true ∧ ¬phone.Live callId

instance (lib : CallLib) (phone : Phone) (callId : CallId) :
    Decidable (phone.Fresh lib callId) :=
  inferInstanceAs (Decidable (_ ∧ _))

/-- What pjsua may do: a new call takes a free id, callbacks are about live calls, only
a timer in the heap expires, and what pjsua reads is what it reports. -/
def Possible (lib : CallLib) (phone : Phone) : CallInput → Prop
  | .dial _ _ (.created callId) => phone.Fresh lib callId
  | .incomingCall callId _ => phone.Fresh lib callId
  | .callState callId state answers =>
      ∃ call, phone.calls callId = some call ∧ answers.Tell (some { call with state })
  | .callMediaState callId media answers =>
      ∃ call, phone.calls callId = some call ∧
        answers.Tell (some { call with media := some media })
  | .callRxOffer callId _ _ => phone.Live callId
  | .expires name answers =>
      (phone.daemon.timers name).inHeap = true ∧
        answers.Tell (phone.calls (phone.daemon.timers name).userData)
  | _ => True

end Phone

section Concrete

/-- pjsua's constants for concrete runs. -/
def sampleCallLib : CallLib := ⟨4, ⟨1, 1, 1⟩⟩

/-- What pjsua reads of a call in concrete runs. -/
def sampleInfo (callId : CallId) (state : InvState) (media : List CallMedia) : CallInfo where
  id := callId
  accId := 0
  state := state
  lastStatus := 200
  lastStatusText := ascii "OK"
  remoteInfo := ascii "<sip:bob@example.com>"
  media := media
  remAudCnt := 1
  remVidCnt := 1
  connectDurationSec := 0

/-- pjsua reads this and accepts every timer; every stream has sent and received a
packet. -/
def Answers.sample (callId : CallId) (state : InvState) (media : List CallMedia) : Answers where
  info _ := .ok (sampleInfo callId state media)
  streamStat _ := .ok ⟨1, 1⟩
  schedule _ := true

theorem Answers.sample_tell {call : LiveCall} (callId : CallId) (state : InvState)
    (media : List CallMedia) (agrees : call.Agrees (sampleInfo callId state media)) :
    (Answers.sample callId state media).Tell (some call) := by
  rintro reading info read
  cases read
  exact ⟨call, rfl, agrees⟩

/-- An active video stream in both directions. -/
def sampleVideo : CallMedia := ⟨.video, .active, ⟨true, true⟩, 0⟩

end Concrete
end Pjsocky
