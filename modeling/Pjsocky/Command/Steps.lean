import Pjsocky.Command.Model
import Pjsocky.Call.Log

/-!
# What a command can do

`CmdStep` lists, once for all twenty handlers, what a command may do to the daemon's state
and what it may ask of pjsua. Everything said of commands below is a case analysis of it.
-/

namespace Pjsocky

open Support

/-- An action of a command in a given state that leaves pjsua's accounts and calls as they
are. A call that it asks about is in range, and an account that it names is the daemon's
own, which is registered when a message is sent. -/
def Action.Plain (calls : CallLib) (daemon : Daemon) : Action → Prop
  | .getInfo callId | .getStreamStat callId _ => calls.isValidCallId callId = true
  | .accAdd _ added => added = none
  | .accDel accId deleted => accId = daemon.accId ∧ accId ≠ invalidId ∧ deleted = false
  | .accSetRegistration accId _ | .accGetInfo accId | .accGetConfig accId | .accModify accId _ =>
      accId = daemon.accId ∧ accId ≠ invalidId
  | .imSend accId .. | .imTyping accId .. =>
      accId = daemon.accId ∧ accId ≠ invalidId ∧ daemon.registered = true
  | .enumAudDevs | .vidEnumDevs | .vidDevGetInfo _ | .sndIsActive | .callGetCount | .setNoSndDev
  | .setSndDev2 .. | .poolCreate => True
  | _ => False

/-- Only the log has grown, by plain actions. -/
def Daemon.Logs (calls : CallLib) (before after : Daemon) : Prop :=
  ∃ added, after = { before with log := before.log ++ added } ∧
    ∀ action ∈ added, action.Plain calls before

/-- An action of a command in a given state, with what is known when pjsua is called. -/
inductive Action.OfCommand (build : Build) (params : Option JsonElem) (daemon : Daemon) :
    CmdFn → Action → Prop
  | plain {fn : CmdFn} {action : Action} (isPlain : action.Plain build.calls daemon) :
      OfCommand build params daemon fn action
  | adds {config : AccConfig} {accId : AccId} (unconfigured : daemon.accId = invalidId) :
      OfCommand build params daemon .accountConfigure (.accAdd config (some accId))
  | deletes (account : daemon.accId ≠ invalidId) (unregistered : daemon.registered = false) :
      OfCommand build params daemon .accountRemove (.accDel daemon.accId true)
  | dials {uri : Bytes} {setting : CallSetting} (account : daemon.accId ≠ invalidId)
      (registered : daemon.registered = true) :
      OfCommand build params daemon .callDial (.makeCall daemon.accId uri setting)
  | hangsUp {callId : CallId} (given : getIntMember build params "call_id" = some callId)
      (valid : build.calls.isValidCallId callId = true) :
      OfCommand build params daemon .callHangup
        (.hangup callId (unsigned ((getIntMember build params "code").getD 486)))
  | hangsUpAll (tracked : daemon.callId ≠ invalidId) :
      OfCommand build params daemon .callHangupAll (.hangup daemon.callId 0)
  | answers {callId : CallId} {setting : CallSetting}
      (given : getIntMember build params "call_id" = some callId)
      (valid : build.calls.isValidCallId callId = true) :
      OfCommand build params daemon .callAnswer
        (.answer callId setting (unsigned ((getIntMember build params "code").getD 200)))

/-- What a command can do, with the status of its reply. -/
inductive CmdStep (build : Build) (outcomes : Outcomes) (params : Option JsonElem)
    (daemon : Daemon) : CmdFn → Status → Daemon → Prop
  /-- Nothing to the daemon's state. -/
  | plain {fn : CmdFn} {status : Status} {after : Daemon}
      (logs : daemon.Logs build.calls after) :
      CmdStep build outcomes params daemon fn status after
  | configured {asked : Daemon} {config : AccConfig} {accId : AccId}
      (unconfigured : daemon.accId = invalidId) (added : outcomes.accAdd = .ok accId)
      (logs : Daemon.Logs build.calls { daemon with registered := false } asked) :
      CmdStep build outcomes params daemon .accountConfigure .success
        { asked.record (.accAdd config (some accId)) with accId }
  /-- `account.configure` when `pjsua_acc_add` fails: the flag has been reset already. -/
  | notConfigured {after : Daemon} {status : Failure} (unconfigured : daemon.accId = invalidId)
      (logs : Daemon.Logs build.calls { daemon with registered := false } after) :
      CmdStep build outcomes params daemon .accountConfigure status after
  | removed (account : daemon.accId ≠ invalidId) (unregistered : daemon.registered = false) :
      CmdStep build outcomes params daemon .accountRemove .success
        { daemon.record (.accDel daemon.accId true) with accId := invalidId, registered := false }
  | selected {after : Daemon} (device : Int)
      (logs : Daemon.Logs build.calls { daemon with videoCapture := device } after) :
      CmdStep build outcomes params daemon .deviceSetVideo .success after
  /-- `call.dial` tracks the new call, or none when `pjsua_call_make_call` fails. -/
  | dialled {status : Status} (callId : CallId) (uri : Bytes) (video : Bool)
      (account : daemon.accId ≠ invalidId) (registered : daemon.registered = true)
      (outcome : outcomes.makeCall = .created callId ∨ callId = invalidId) :
      CmdStep build outcomes params daemon .callDial status
        ({ daemon with callId }.record
          (.makeCall daemon.accId uri (Daemon.setting build.calls video)))
  | limited (seconds : Nat) :
      CmdStep build outcomes params daemon .configSetRingTimeout .success
        (daemon.setRingTimeout seconds)
  | hangsUp {callId : CallId} (given : getIntMember build params "call_id" = some callId)
      (valid : build.calls.isValidCallId callId = true) :
      CmdStep build outcomes params daemon .callHangup outcomes.status
        (daemon.record (.hangup callId
          (unsigned ((getIntMember build params "code").getD 486))))
  | hangsUpAll (tracked : daemon.callId ≠ invalidId) :
      CmdStep build outcomes params daemon .callHangupAll outcomes.status
        (daemon.record (.hangup daemon.callId 0))
  | answers {asked : Daemon} {callId : CallId} {video : Bool}
      (given : getIntMember build params "call_id" = some callId)
      (valid : build.calls.isValidCallId callId = true) (logs : daemon.Logs build.calls asked) :
      CmdStep build outcomes params daemon .callAnswer outcomes.status
        (asked.record (.answer callId (Daemon.setting build.calls video)
          (unsigned ((getIntMember build params "code").getD 200))))

namespace Daemon

variable {build : Build} {outcomes : Outcomes} {params : Option JsonElem} {daemon : Daemon}
variable {calls : CallLib} {before after : Daemon}

namespace Logs

theorem refl (calls : CallLib) (daemon : Daemon) : Logs calls daemon daemon :=
  ⟨[], by rw [List.append_nil], List.forall_mem_nil _⟩

theorem record (logs : Logs calls before after) (action : Action)
    (isPlain : action.Plain calls before) : Logs calls before (after.record action) := by
  obtain ⟨added, rfl, plain⟩ := logs
  refine ⟨added ++ [action], by rw [Daemon.record, List.append_assoc], fun other member => ?_⟩
  rcases List.mem_append.mp member with old | new
  · exact plain other old
  · rw [List.mem_singleton.mp new]
    exact isPlain

theorem getInfo (logs : Logs calls before after) (answers : Answers) (reading : Nat)
    (callId : CallId) : Logs calls before (after.getInfo calls answers reading callId).2 := by
  unfold Daemon.getInfo
  split
  · exact logs
  · rename_i valid
    rw [Bool.not_eq_true, Bool.not_eq_false'] at valid
    exact logs.record (.getInfo callId) valid

/-- The counters of a call are asked for only once its info was read, so its id is in
range. -/
theorem getRtpCounters (logs : Logs calls before after) (answers : Answers) (reading : Nat)
    (callId : CallId) (type : MediaType) :
    Logs calls before (after.getRtpCounters calls answers reading callId type).2 := by
  have asked := logs.getInfo answers reading callId
  unfold Daemon.getRtpCounters
  dsimp only
  split
  · exact asked
  · rename_i info read
    have valid : calls.isValidCallId callId = true := by
      by_contra invalid
      rw [Daemon.getInfo, if_pos (by simpa using invalid)] at read
      cases read
    split
    · exact asked
    · exact asked.record (.getStreamStat callId _) valid

theorem deviceListVideo (logs : Logs calls before after) (outcomes : Outcomes) :
    Logs calls before (after.deviceListVideo outcomes).2 :=
  logs.record .vidEnumDevs trivial

theorem resolveDefaultVidCapDev (logs : Logs calls before after) (outcomes : Outcomes) :
    Logs calls before (after.resolveDefaultVidCapDev outcomes).2 := by
  have listed := logs.deviceListVideo outcomes
  unfold Daemon.resolveDefaultVidCapDev
  split
  · exact logs
  · dsimp only
    split
    · exact listed
    · split
      · exact listed
      · exact listed

theorem accId_eq (logs : Logs calls before after) : after.accId = before.accId := by
  obtain ⟨added, rfl, -⟩ := logs
  rfl

theorem modifyCaptureDev (logs : Logs calls before after) (outcomes : Outcomes) (device : Int) :
    Logs calls before (after.modifyCaptureDev outcomes device) := by
  have created := logs.record .poolCreate trivial
  unfold Daemon.modifyCaptureDev
  split
  · exact logs
  · rename_i account
    have own : after.accId = before.accId ∧ after.accId ≠ invalidId := ⟨logs.accId_eq, account⟩
    dsimp only
    split
    · have asked := created.record (.accGetConfig after.accId) own
      split
      · exact asked
      · rename_i config read
        have modified := asked.record
          (.accModify after.accId { config with vidCapDev := device }) own
        split
        · exact modified.record (.accGetConfig after.accId) own
        · exact modified
    · exact created

end Logs

/-! ## The handlers -/

theorem cmdStatusGet_logs :
    daemon.Logs build.calls (daemon.cmdStatusGet outcomes).2 := by
  unfold cmdStatusGet
  split
  · exact Logs.refl _ _
  · rename_i account
    have asked := (Logs.refl build.calls daemon).record (.accGetInfo daemon.accId) ⟨rfl, account⟩
    dsimp only
    split
    · exact asked
    · exact asked

/-- What `pjsocky_account_configure` does: nothing when there is an account, or it resets the
flag and lets pjsua add one. -/
theorem accountConfigure_cases (calls : CallLib) (outcomes : Outcomes) (daemon : Daemon)
    (sipUri registrarUri username password realm : Bytes) :
    (daemon.accountConfigure outcomes sipUri registrarUri username password realm =
      (.error ⟨.eexists, by decide⟩, daemon)) ∨
    daemon.accId = invalidId ∧ ∃ asked, Logs calls { daemon with registered := false } asked ∧
      ((∃ config accId, outcomes.accAdd = .ok accId ∧
        daemon.accountConfigure outcomes sipUri registrarUri username password realm =
          (.ok accId, { asked.record (.accAdd config (some accId)) with accId })) ∨
      ∃ config status, outcomes.accAdd = .error status ∧
        daemon.accountConfigure outcomes sipUri registrarUri username password realm =
          (.error status, asked.record (.accAdd config none))) := by
  by_cases unconfigured : daemon.accId = invalidId
  · refine .inr ⟨unconfigured, _,
      (Logs.refl calls { daemon with registered := false }).resolveDefaultVidCapDev outcomes, ?_⟩
    rw [accountConfigure, if_neg (not_not.mpr unconfigured)]
    cases outcomes.accAdd with
    | ok accId => exact .inl ⟨_, accId, rfl, rfl⟩
    | error status => exact .inr ⟨_, status, rfl, rfl⟩
  · exact .inl (if_pos unconfigured)

theorem cmdAccountConfigure_step :
    CmdStep build outcomes params daemon .accountConfigure
      (daemon.cmdAccountConfigure outcomes params).1.status
      (daemon.cmdAccountConfigure outcomes params).2 := by
  unfold cmdAccountConfigure
  split
  · rename_i sipUri registrarUri username password _ _ _ _
    dsimp only
    obtain same | ⟨unconfigured, asked, logs,
        ⟨config, accId, added, same⟩ | ⟨config, status, -, same⟩⟩ :=
      accountConfigure_cases build.calls outcomes daemon sipUri registrarUri username password
        ((getStringMember params "realm").getD (ascii "*"))
    · rw [same]
      exact .plain (Logs.refl _ _)
    · rw [same]
      exact .configured unconfigured added logs
    · rw [same]
      exact .notConfigured unconfigured (logs.record (.accAdd config none) rfl)
  · exact .plain (Logs.refl _ _)

theorem setRegistration_logs (renew : Bool) :
    daemon.Logs build.calls (daemon.setRegistration outcomes renew).2 := by
  unfold setRegistration
  split
  · exact Logs.refl _ _
  · exact (Logs.refl _ _).record (.accSetRegistration daemon.accId renew) ⟨rfl, ‹_›⟩

theorem cmdAccountRemove_step :
    CmdStep build outcomes params daemon .accountRemove
      (daemon.cmdAccountRemove outcomes).1.status (daemon.cmdAccountRemove outcomes).2 := by
  unfold cmdAccountRemove accountRemove bareCmd
  split
  · exact .plain (Logs.refl _ _)
  · rename_i account
    split
    · exact .plain (Logs.refl _ _)
    · rename_i unregistered
      dsimp only
      split
      · rename_i failed
        rw [decide_eq_false failed]
        exact .plain ((Logs.refl _ _).record (.accDel daemon.accId false) ⟨rfl, account, rfl⟩)
      · rename_i deleted
        rw [not_not] at deleted
        rw [decide_eq_true deleted]
        exact .removed account (Bool.not_eq_true _ ▸ unregistered)

theorem deviceSetAudio_logs (captureId playbackId : Int) :
    daemon.Logs build.calls (daemon.deviceSetAudio outcomes captureId playbackId).2 := by
  have asked := (Logs.refl build.calls daemon).record .sndIsActive trivial
  unfold deviceSetAudio
  refine Logs.record ?_ _ trivial
  dsimp only
  split
  · have counted := asked.record .callGetCount trivial
    split
    · exact counted.record .setNoSndDev trivial
    · exact counted
  · exact asked

theorem deviceSetVideoCapture_step (captureId : Int) :
    CmdStep build outcomes params daemon .deviceSetVideo
      (daemon.deviceSetVideoCapture outcomes captureId).1
      (daemon.deviceSetVideoCapture outcomes captureId).2 := by
  have asked := (Logs.refl build.calls daemon).record (.vidDevGetInfo captureId) trivial
  unfold deviceSetVideoCapture
  dsimp only
  split
  · exact .plain asked
  · split
    · exact .plain asked
    · refine .selected captureId (Logs.modifyCaptureDev ?_ _ _)
      exact (Logs.refl build.calls { daemon with videoCapture := captureId }).record
        (.vidDevGetInfo captureId) trivial

theorem cmdCallDial_step :
    CmdStep build outcomes params daemon .callDial
      (daemon.cmdCallDial build outcomes params).1.status
      (daemon.cmdCallDial build outcomes params).2 := by
  unfold cmdCallDial
  split
  · exact .plain (Logs.refl _ _)
  · rename_i uri _
    dsimp only
    by_cases refused : daemon.accId = invalidId ∨ daemon.registered = false
    · rw [dial_refused refused]
      exact .plain (Logs.refl _ _)
    · obtain ⟨account, registered⟩ : daemon.accId ≠ invalidId ∧ daemon.registered = true := by
        simpa using refused
      cases outcome : outcomes.makeCall with
      | created callId =>
          rw [dial_created account registered]
          exact .dialled callId uri _ account registered (.inl outcome)
      | failed status written =>
          rw [dial_failed account registered]
          exact .dialled invalidId uri _ account registered (.inr rfl)

theorem cmdCallHangup_step :
    CmdStep build outcomes params daemon .callHangup
      (daemon.cmdCallHangup build outcomes params).1.status
      (daemon.cmdCallHangup build outcomes params).2 := by
  unfold cmdCallHangup
  split
  · exact .plain (Logs.refl _ _)
  · rename_i callId given
    unfold hangup bareCmd
    dsimp only
    split
    · exact .plain (Logs.refl _ _)
    · rename_i valid
      rw [Bool.not_eq_true, Bool.not_eq_false'] at valid
      exact .hangsUp given valid

theorem cmdCallHangupAll_step :
    CmdStep build outcomes params daemon .callHangupAll
      (daemon.cmdCallHangupAll outcomes).1.status (daemon.cmdCallHangupAll outcomes).2 := by
  unfold cmdCallHangupAll hangupAll bareCmd
  split
  · exact .plain (Logs.refl _ _)
  · exact .hangsUpAll ‹_›

theorem cmdCallGetInfo_logs :
    daemon.Logs build.calls (daemon.cmdCallGetInfo build outcomes params).2 := by
  unfold cmdCallGetInfo
  split
  · exact Logs.refl _ _
  · rename_i callId given
    have asked := (Logs.refl build.calls daemon).getInfo outcomes.answers 0 callId
    dsimp only
    split
    · exact asked
    · exact (asked.getRtpCounters _ 1 callId .audio).getRtpCounters _ 2 callId .video

/-- The last part of `call.answer`, after the questions it may have asked. -/
theorem answer_step {asked : Daemon} {callId : CallId} {video : Bool}
    (given : getIntMember build params "call_id" = some callId)
    (logs : daemon.Logs build.calls asked) :
    let result := asked.answer build.calls callId
      (unsigned ((getIntMember build params "code").getD 200)) video outcomes.status
    CmdStep build outcomes params daemon .callAnswer result.1 result.2 := by
  unfold answer
  dsimp only
  split
  · exact .plain logs
  · rename_i valid
    rw [Bool.not_eq_true, Bool.not_eq_false'] at valid
    exact .answers given valid logs

theorem cmdCallAnswer_step :
    CmdStep build outcomes params daemon .callAnswer
      (daemon.cmdCallAnswer build outcomes params).1.status
      (daemon.cmdCallAnswer build outcomes params).2 := by
  unfold cmdCallAnswer
  split
  · exact .plain (Logs.refl _ _)
  · rename_i callId given
    dsimp only
    split
    · exact answer_step given (Logs.refl _ _)
    · have asked := (Logs.refl build.calls daemon).getInfo outcomes.answers 0 callId
      split
      · exact .plain asked
      · exact answer_step given asked

/-- A request that is made only with a registered account. -/
theorem registered_logs {action : Action} (status : Status)
    (plain : daemon.accId ≠ invalidId → daemon.registered = true → action.Plain calls daemon) :
    daemon.Logs calls (if daemon.accId = invalidId || !daemon.registered then
      (Status.einvalidop, daemon) else (status, daemon.record action)).2 := by
  split
  · exact Logs.refl _ _
  · rename_i ready
    obtain ⟨account, registered⟩ : daemon.accId ≠ invalidId ∧ daemon.registered = true := by
      simpa using ready
    exact (Logs.refl _ _).record action (plain account registered)

theorem cmdImSend_logs : daemon.Logs build.calls (daemon.cmdImSend outcomes params).2 := by
  unfold cmdImSend
  split
  · exact registered_logs outcomes.status fun account registered => ⟨rfl, account, registered⟩
  · exact Logs.refl _ _

theorem cmdImTyping_logs : daemon.Logs build.calls (daemon.cmdImTyping outcomes params).2 := by
  unfold cmdImTyping
  split
  · exact registered_logs outcomes.status fun account registered => ⟨rfl, account, registered⟩
  · exact Logs.refl _ _

/-- Every command does one of the things `CmdStep` lists. -/
theorem runCmd_step (build : Build) (outcomes : Outcomes) (params : Option JsonElem)
    (daemon : Daemon) (fn : CmdFn) :
    CmdStep build outcomes params daemon fn (daemon.runCmd build outcomes params fn).1.status
      (daemon.runCmd build outcomes params fn).2 := by
  cases fn with
  | ping | versionGet | configGetRingTimeout => exact .plain (Logs.refl _ _)
  | statusGet => exact .plain cmdStatusGet_logs
  | accountConfigure => exact cmdAccountConfigure_step
  | accountRegister => exact .plain (setRegistration_logs true)
  | accountUnregister => exact .plain (setRegistration_logs false)
  | accountRemove => exact cmdAccountRemove_step
  | deviceListAudio =>
      refine .plain ?_
      have listed := (Logs.refl build.calls daemon).record .enumAudDevs trivial
      simp only [runCmd, cmdDeviceListAudio]
      split <;> exact listed
  | deviceListVideo =>
      refine .plain ?_
      have listed := (Logs.refl build.calls daemon).record .vidEnumDevs trivial
      simp only [runCmd, cmdDeviceListVideo]
      split <;> exact listed
  | deviceSetAudio =>
      refine .plain ?_
      simp only [runCmd, cmdDeviceSetAudio]
      split
      · exact deviceSetAudio_logs _ _
      · exact Logs.refl _ _
  | deviceSetVideo =>
      simp only [runCmd, cmdDeviceSetVideo]
      split
      · exact deviceSetVideoCapture_step _
      · exact .plain (Logs.refl _ _)
  | callDial => exact cmdCallDial_step
  | callHangup => exact cmdCallHangup_step
  | callHangupAll => exact cmdCallHangupAll_step
  | callGetInfo => exact .plain cmdCallGetInfo_logs
  | callAnswer => exact cmdCallAnswer_step
  | configSetRingTimeout =>
      simp only [runCmd, cmdConfigSetRingTimeout]
      split
      · exact .plain (Logs.refl _ _)
      · split
        · exact .plain (Logs.refl _ _)
        · exact .limited _
  | imSend => exact .plain cmdImSend_logs
  | imTyping => exact .plain cmdImTyping_logs

end Daemon

/-! ## The log of a command -/

/-- Clearing the flag allows a command nothing new. -/
theorem Action.Plain.of_unregistered {calls : CallLib} {daemon : Daemon} {action : Action}
    (isPlain : action.Plain calls { daemon with registered := false }) :
    action.Plain calls daemon := by
  cases action with
  | imSend | imTyping => exact nomatch isPlain.2.2
  | _ => exact isPlain

/-- The log of a command has grown by actions of commands. -/
theorem CmdStep.log {build : Build} {outcomes : Outcomes} {params : Option JsonElem}
    {daemon after : Daemon} {fn : CmdFn} {status : Status}
    (step : CmdStep build outcomes params daemon fn status after) :
    ∃ added, after.log = daemon.log ++ added ∧
      ∀ action ∈ added, action.OfCommand build params daemon fn := by
  cases step with
  | plain logs =>
      obtain ⟨added, rfl, plain⟩ := logs
      exact ⟨added, rfl, fun action member => .plain (plain action member)⟩
  | @configured asked config accId unconfigured _ logs =>
      obtain ⟨added, rfl, plain⟩ := logs
      refine ⟨added ++ [Action.accAdd config (some accId)], List.append_assoc daemon.log added _,
        fun action member => ?_⟩
      rcases List.mem_append.mp member with old | new
      · exact .plain (plain action old).of_unregistered
      · rw [List.mem_singleton.mp new]
        exact .adds unconfigured
  | notConfigured _ logs =>
      obtain ⟨added, rfl, plain⟩ := logs
      exact ⟨added, rfl, fun action member => .plain (plain action member).of_unregistered⟩
  | removed account unregistered =>
      refine ⟨[.accDel daemon.accId true], rfl, fun action member => ?_⟩
      rw [List.mem_singleton.mp member]
      exact .deletes account unregistered
  | selected device logs =>
      obtain ⟨added, rfl, plain⟩ := logs
      exact ⟨added, rfl, fun action member => .plain (plain action member)⟩
  | dialled callId uri video account registered =>
      refine ⟨[.makeCall daemon.accId uri (Daemon.setting build.calls video)], rfl,
        fun action member => ?_⟩
      rw [List.mem_singleton.mp member]
      exact .dials account registered
  | limited => exact ⟨[], (List.append_nil _).symm, List.forall_mem_nil _⟩
  | hangsUp given valid =>
      refine ⟨[_], rfl, fun action member => ?_⟩
      rw [List.mem_singleton.mp member]
      exact .hangsUp given valid
  | hangsUpAll tracked =>
      refine ⟨[_], rfl, fun action member => ?_⟩
      rw [List.mem_singleton.mp member]
      exact .hangsUpAll tracked
  | answers given valid logs =>
      obtain ⟨added, rfl, plain⟩ := logs
      refine ⟨added ++ [_], List.append_assoc daemon.log added _, fun action member => ?_⟩
      rcases List.mem_append.mp member with old | new
      · exact .plain (plain action old)
      · rw [List.mem_singleton.mp new]
        exact .answers given valid

end Pjsocky
