import Pjsocky.Command.RingTimeout

/-!
# One request for each command

A command that takes effect outside the daemon does so by one request to pjsua, with the
parameters of the line; it reports success only when it has made the request, and makes none
twice. The callbacks and the timers make no such request, but for the ring timer, which hangs
up. So what pjsua has been asked in a run is, in order, what the lines asked for.
-/

namespace Pjsocky

open Support

/-- The requests by which commands take effect. -/
def Action.controls : Action → Bool
  | .makeCall .. | .hangup .. | .answer .. | .accAdd .. | .accSetRegistration .. | .accDel ..
  | .setSndDev2 .. | .imSend .. | .imTyping .. => true
  | _ => false

/-- Whether a command that succeeds has made a request: `call.hangup_all` makes none when no
call is tracked. -/
def CmdFn.Acts (daemon : Daemon) : CmdFn → Prop
  | .accountConfigure | .accountRegister | .accountUnregister | .accountRemove
  | .deviceSetAudio | .callDial | .callHangup | .callAnswer | .imSend | .imTyping => True
  | .callHangupAll => daemon.callId ≠ invalidId
  | _ => False

/-- The call that is asked about still rings. -/
def Answers.Rings (answers : Answers) : Prop :=
  ∃ info, answers.info 0 = .ok info ∧ (info.state = .incoming ∨ info.state = .early)

/-- The capture device of an account that is added: the one that is selected, or else the first
of those listed that can capture, or else none. -/
inductive CaptureDefault (outcomes : Outcomes) (selected : Int) : Int → Prop
  | selected (chosen : selected ≠ invalidDev) : CaptureDefault outcomes selected selected
  | first {before after : List VidDevInfo} {device : VidDevInfo} (unset : selected = invalidDev)
      (listed : outcomes.vidDevs = .ok (before ++ device :: after))
      (captures : device.dir.encoding = true)
      (others : ∀ other ∈ before, other.dir.encoding = false) :
      CaptureDefault outcomes selected device.id
  | absent (unset : selected = invalidDev)
      (others : ∀ devices, outcomes.vidDevs = .ok devices →
        ∀ other ∈ devices, other.dir.encoding = false) :
      CaptureDefault outcomes selected invalidDev

/-- The request that a command is for, with the parameters of the line and the daemon's settings
at that time. -/
inductive Action.Wanted (build : Build) (outcomes : Outcomes) (params : Option JsonElem)
    (daemon : Daemon) : CmdFn → Action → Prop
  | configures {sipUri registrarUri username password : Bytes} {vidCapDev : Int}
      (sipUriGiven : getStringMember params "sip_uri" = some sipUri)
      (registrarUriGiven : getStringMember params "registrar_uri" = some registrarUri)
      (usernameGiven : getStringMember params "username" = some username)
      (passwordGiven : getStringMember params "password" = some password)
      (device : CaptureDefault outcomes daemon.videoCapture vidCapDev) :
      Wanted build outcomes params daemon .accountConfigure
        (.accAdd
          { id := sipUri
            regUri := registrarUri
            registerOnAccAdd := false
            vidInAutoShow := true
            vidOutAutoTransmit := true
            vidCapDev
            credInfo := [⟨(getStringMember params "realm").getD (ascii "*"), ascii "digest",
              username, credDataPlainPasswd, password⟩] }
          outcomes.accAdd.toOption)
  | registers : Wanted build outcomes params daemon .accountRegister
      (.accSetRegistration daemon.accId true)
  | unregisters : Wanted build outcomes params daemon .accountUnregister
      (.accSetRegistration daemon.accId false)
  | removes : Wanted build outcomes params daemon .accountRemove
      (.accDel daemon.accId (outcomes.status = .success))
  | selects {captureId playbackId : Int}
      (captureGiven : getIntMember build params "capture_id" = some captureId)
      (playbackGiven : getIntMember build params "playback_id" = some playbackId) :
      Wanted build outcomes params daemon .deviceSetAudio
        (.setSndDev2 captureId playbackId sndDevNoImmediateOpen)
  | dials {uri : Bytes} (given : getStringMember params "uri" = some uri) :
      Wanted build outcomes params daemon .callDial
        (.makeCall daemon.accId uri
          (Daemon.setting build.calls ((getBoolMember params "video").getD false)))
  | hangsUp {callId : CallId} (given : getIntMember build params "call_id" = some callId) :
      Wanted build outcomes params daemon .callHangup
        (.hangup callId (unsigned ((getIntMember build params "code").getD 486)))
  | hangsUpAll : Wanted build outcomes params daemon .callHangupAll (.hangup daemon.callId 0)
  /-- Without `video` the answer is as the caller offered. -/
  | answers {callId : CallId} {video : Bool}
      (given : getIntMember build params "call_id" = some callId)
      (chosen : getBoolMember params "video" = some video ∨
        getBoolMember params "video" = none ∧ ∃ info, outcomes.answers.info 0 = .ok info ∧
          video = decide (0 < info.remVidCnt)) :
      Wanted build outcomes params daemon .callAnswer
        (.answer callId (Daemon.setting build.calls video)
          (unsigned ((getIntMember build params "code").getD 200)))
  | sends {target content : Bytes} (targetGiven : getStringMember params "to" = some target)
      (contentGiven : getStringMember params "content" = some content) :
      Wanted build outcomes params daemon .imSend
        (.imSend daemon.accId target ((getStringMember params "mime_type").getD
          (ascii "text/plain")) content)
  | types {target : Bytes} {isTyping : Bool}
      (targetGiven : getStringMember params "to" = some target)
      (typingGiven : getBoolMember params "is_typing" = some isTyping) :
      Wanted build outcomes params daemon .imTyping (.imTyping daemon.accId target isTyping)

namespace Daemon

/-- What pjsua has been asked to do, in order. -/
def controlLog (daemon : Daemon) : List Action := daemon.log.filter Action.controls

@[simp] theorem controlLog_record (daemon : Daemon) (action : Action) :
    (daemon.record action).controlLog =
      daemon.controlLog ++ if action.controls then [action] else [] := by
  rw [controlLog, controlLog, record_log, List.filter_append]
  cases controls : action.controls <;> simp [controls]

/-- How a command with this status has served its line. -/
structure Serves (build : Build) (outcomes : Outcomes) (params : Option JsonElem)
    (daemon : Daemon) (fn : CmdFn) (result : HandlerResult × Daemon) (request : Option Action) :
    Prop where
  log : result.2.controlLog = daemon.controlLog ++ request.toList
  wanted : ∀ action, request = some action → action.Wanted build outcomes params daemon fn
  made : result.1.status = .success → fn.Acts daemon → request ≠ none

variable {build : Build} {outcomes : Outcomes} {params : Option JsonElem} {daemon : Daemon}
  {fn : CmdFn} {result : HandlerResult × Daemon}

/-- A command serves its line with one request or none. -/
def Served (build : Build) (outcomes : Outcomes) (params : Option JsonElem) (daemon : Daemon)
    (fn : CmdFn) (result : HandlerResult × Daemon) : Prop :=
  ∃ request, Serves build outcomes params daemon fn result request

/-- A command that makes no request. -/
theorem Served.none (log : result.2.controlLog = daemon.controlLog)
    (idle : result.1.status = .success → ¬fn.Acts daemon) :
    Served build outcomes params daemon fn result :=
  ⟨.none, log.trans (List.append_nil _).symm, (fun _ same => by cases same),
    fun succeeded acts => (idle succeeded acts).elim⟩

/-- A command that makes the request it is for. -/
theorem Served.one {action : Action}
    (log : result.2.controlLog = daemon.controlLog ++ [action])
    (wanted : action.Wanted build outcomes params daemon fn) :
    Served build outcomes params daemon fn result :=
  ⟨some action, log, (fun _ same => Option.some.inj same ▸ wanted),
    (fun _ _ same => by cases same)⟩

/-- A command that refuses before it asks for anything. -/
theorem Served.refused {status : Status} (failure : status ≠ .success) :
    Served build outcomes params daemon fn (.bare status, daemon) :=
  .none rfl fun succeeded => (failure succeeded).elim

/-! ## The handlers -/

theorem resolveDefaultVidCapDev_controlLog (outcomes : Outcomes) (daemon : Daemon) :
    (daemon.resolveDefaultVidCapDev outcomes).2.controlLog = daemon.controlLog := by
  unfold resolveDefaultVidCapDev deviceListVideo
  split
  · rfl
  · dsimp only
    split
    · simp [Action.controls]
    · split <;> simp [Action.controls]

/-- The device that is resolved is the one that is selected, or the first that can capture. -/
theorem resolveDefaultVidCapDev_default (outcomes : Outcomes) (daemon : Daemon) :
    CaptureDefault outcomes daemon.videoCapture (daemon.resolveDefaultVidCapDev outcomes).1 := by
  unfold resolveDefaultVidCapDev deviceListVideo
  split
  · rename_i chosen
    exact .selected chosen
  · rename_i unset
    rw [not_not] at unset
    dsimp only
    split
    · rename_i status failed
      refine .absent unset fun devices listed => ?_
      cases failed.symm.trans listed
    · rename_i devices listed
      split
      · rename_i none
        refine .absent unset fun others same other member => ?_
        obtain rfl := Except.ok.inj (listed.symm.trans same)
        simpa using List.find?_eq_none.mp none other member
      · rename_i device found
        obtain ⟨captures, before, after, rfl, others⟩ := List.find?_eq_some_iff_append.mp found
        exact .first unset listed captures fun other member => by simpa using others other member

/-- pjsua is asked to add an account when there is none, however it answers. -/
theorem accountConfigure_controlLog (outcomes : Outcomes) (daemon : Daemon)
    (sipUri registrarUri username password realm : Bytes) :
    (daemon.accountConfigure outcomes sipUri registrarUri username password realm =
      (.error ⟨.eexists, by decide⟩, daemon)) ∨
    ∃ vidCapDev, CaptureDefault outcomes daemon.videoCapture vidCapDev ∧
      (daemon.accountConfigure outcomes sipUri registrarUri username password realm).2.controlLog =
        daemon.controlLog ++ [.accAdd
          { id := sipUri
            regUri := registrarUri
            registerOnAccAdd := false
            vidInAutoShow := true
            vidOutAutoTransmit := true
            vidCapDev
            credInfo := [⟨realm, ascii "digest", username, credDataPlainPasswd, password⟩] }
          outcomes.accAdd.toOption] := by
  by_cases unconfigured : daemon.accId = invalidId
  · refine .inr ⟨({ daemon with registered := false }.resolveDefaultVidCapDev outcomes).1,
      resolveDefaultVidCapDev_default outcomes { daemon with registered := false }, ?_⟩
    have resolved : ({ daemon with registered := false }.resolveDefaultVidCapDev
        outcomes).2.controlLog = daemon.controlLog :=
      resolveDefaultVidCapDev_controlLog outcomes { daemon with registered := false }
    rw [accountConfigure, if_neg (not_not.mpr unconfigured), ← resolved]
    cases outcomes.accAdd with
    | ok accId => exact controlLog_record _ _
    | error status => exact controlLog_record _ _
  · exact .inl (if_pos unconfigured)

theorem cmdAccountConfigure_served : Served build outcomes params daemon .accountConfigure
    (daemon.cmdAccountConfigure outcomes params) := by
  unfold cmdAccountConfigure
  split
  · rename_i sipUri registrarUri username password uriGiven registrarGiven userGiven passGiven
    dsimp only
    obtain same | ⟨vidCapDev, device, asked⟩ := accountConfigure_controlLog outcomes daemon sipUri
      registrarUri username password ((getStringMember params "realm").getD (ascii "*"))
    · rw [same]
      exact .refused (by decide)
    · refine .one (Eq.trans ?_ asked) (.configures uriGiven registrarGiven userGiven
        passGiven device)
      split <;> rfl
  · exact .refused (by decide)

theorem setRegistration_served {renew : Bool}
    (wanted : Action.Wanted build outcomes params daemon fn
      (.accSetRegistration daemon.accId renew)) :
    Served build outcomes params daemon fn (bareCmd (daemon.setRegistration outcomes renew)) := by
  unfold setRegistration
  split
  · exact .refused (by decide : Status.einvalidop ≠ .success)
  · exact .one (controlLog_record _ _) wanted

theorem cmdAccountRemove_served : Served build outcomes params daemon .accountRemove
    (daemon.cmdAccountRemove outcomes) := by
  unfold cmdAccountRemove accountRemove
  split
  · exact .refused (by decide : Status.einvalidop ≠ .success)
  · split
    · exact .refused (by decide : Status.einvalidop ≠ .success)
    · refine .one ?_ .removes
      dsimp only [bareCmd]
      split
      · exact controlLog_record _ _
      · exact controlLog_record _ _

theorem cmdDeviceSetAudio_served : Served build outcomes params daemon .deviceSetAudio
    (daemon.cmdDeviceSetAudio build outcomes params) := by
  unfold cmdDeviceSetAudio
  split
  · rename_i captureGiven playbackGiven
    refine .one ?_ (.selects captureGiven playbackGiven)
    unfold deviceSetAudio bareCmd
    dsimp only
    split
    · split <;> simp [Action.controls]
    · simp [Action.controls]
  · exact .refused (by decide)

theorem modifyCaptureDev_controlLog (outcomes : Outcomes) (captureId : Int) (daemon : Daemon) :
    (daemon.modifyCaptureDev outcomes captureId).controlLog = daemon.controlLog := by
  unfold modifyCaptureDev
  split
  · rfl
  · dsimp only
    split
    · split
      · simp [Action.controls]
      · split <;> simp [Action.controls]
    · simp [Action.controls]

theorem cmdDeviceSetVideo_served : Served build outcomes params daemon .deviceSetVideo
    (daemon.cmdDeviceSetVideo build outcomes params) := by
  refine .none ?_ fun _ => id
  unfold cmdDeviceSetVideo
  split
  · rename_i captureId _
    unfold deviceSetVideoCapture bareCmd
    dsimp only
    split
    · simp [Action.controls]
    · split
      · simp [Action.controls]
      · rw [modifyCaptureDev_controlLog]
        exact (controlLog_record daemon (.vidDevGetInfo captureId)).trans (List.append_nil _)
  · rfl

theorem cmdCallDial_served : Served build outcomes params daemon .callDial
    (daemon.cmdCallDial build outcomes params) := by
  unfold cmdCallDial
  split
  · exact .refused (by decide)
  · rename_i uri given
    dsimp only
    by_cases refused : daemon.accId = invalidId ∨ daemon.registered = false
    · rw [dial_refused refused]
      exact .refused (by decide)
    · obtain ⟨account, registered⟩ : daemon.accId ≠ invalidId ∧ daemon.registered = true := by
        simpa using refused
      refine .one ?_ (.dials given)
      cases outcomes.makeCall with
      | created callId =>
          rw [dial_created account registered]
          exact controlLog_record _ _
      | failed status written =>
          rw [dial_failed account registered]
          exact controlLog_record _ _

theorem cmdCallHangup_served : Served build outcomes params daemon .callHangup
    (daemon.cmdCallHangup build outcomes params) := by
  unfold cmdCallHangup
  split
  · exact .refused (by decide)
  · rename_i callId given
    unfold hangup
    dsimp only
    split
    · exact .refused (by decide : Status.einval ≠ .success)
    · exact .one (controlLog_record _ _) (.hangsUp given)

theorem cmdCallHangupAll_served : Served build outcomes params daemon .callHangupAll
    (daemon.cmdCallHangupAll outcomes) := by
  unfold cmdCallHangupAll hangupAll
  split
  · rename_i untracked
    exact .none rfl fun _ tracked => tracked untracked
  · exact .one (controlLog_record _ _) .hangsUpAll

theorem getInfo_controlLog (calls : CallLib) (answers : Answers) (reading : Nat)
    (callId : CallId) (daemon : Daemon) :
    (daemon.getInfo calls answers reading callId).2.controlLog = daemon.controlLog := by
  unfold getInfo
  split
  · rfl
  · simp [Action.controls]

theorem getRtpCounters_controlLog (calls : CallLib) (answers : Answers) (reading : Nat)
    (callId : CallId) (type : MediaType) (daemon : Daemon) :
    (daemon.getRtpCounters calls answers reading callId type).2.controlLog =
      daemon.controlLog := by
  have asked := getInfo_controlLog calls answers reading callId daemon
  unfold getRtpCounters
  dsimp only
  split
  · exact asked
  · split
    · exact asked
    · simpa [Action.controls] using asked

theorem cmdCallGetInfo_served : Served build outcomes params daemon .callGetInfo
    (daemon.cmdCallGetInfo build outcomes params) := by
  refine .none ?_ fun _ => id
  unfold cmdCallGetInfo
  split
  · rfl
  · dsimp only
    split
    · exact getInfo_controlLog ..
    · dsimp only
      rw [getRtpCounters_controlLog, getRtpCounters_controlLog, getInfo_controlLog]

/-- The last part of `call.answer`, after the question it may have asked. -/
theorem answer_served {asked : Daemon} {callId : CallId} {video : Bool}
    (same : asked.controlLog = daemon.controlLog)
    (wanted : Action.Wanted build outcomes params daemon .callAnswer
      (.answer callId (setting build.calls video)
        (unsigned ((getIntMember build params "code").getD 200)))) :
    Served build outcomes params daemon .callAnswer
      (bareCmd (asked.answer build.calls callId
        (unsigned ((getIntMember build params "code").getD 200)) video outcomes.status)) := by
  unfold answer
  split
  · exact .none same fun succeeded => by cases succeeded
  · refine .one ?_ wanted
    rw [← same]
    exact controlLog_record _ _

theorem cmdCallAnswer_served : Served build outcomes params daemon .callAnswer
    (daemon.cmdCallAnswer build outcomes params) := by
  unfold cmdCallAnswer
  split
  · exact .refused (by decide)
  · rename_i callId given
    dsimp only
    split
    · rename_i video chosen
      exact answer_served rfl (.answers given (.inl chosen))
    · rename_i absent
      have asked := getInfo_controlLog build.calls outcomes.answers 0 callId daemon
      unfold remoteOfferedVideo
      dsimp only
      cases read : (daemon.getInfo build.calls outcomes.answers 0 callId).1 with
      | error status => exact .none asked fun succeeded => (status.2 succeeded).elim
      | ok info =>
          refine answer_served asked (.answers given (.inr ⟨absent, info, ?_, rfl⟩))
          unfold getInfo at read
          split at read
          · cases read
          · exact read

theorem registered_served {action : Action}
    (wanted : action.Wanted build outcomes params daemon fn) (controls : action.controls = true) :
    Served build outcomes params daemon fn
      (bareCmd (if daemon.accId = invalidId || !daemon.registered then
        (Status.einvalidop, daemon) else (outcomes.status, daemon.record action))) := by
  split
  · exact .refused (by decide : Status.einvalidop ≠ .success)
  · refine .one ?_ wanted
    dsimp only [bareCmd]
    rw [controlLog_record, if_pos controls]

theorem cmdImSend_served : Served build outcomes params daemon .imSend
    (daemon.cmdImSend outcomes params) := by
  unfold cmdImSend
  split
  · exact registered_served (.sends ‹_› ‹_›) rfl
  · exact .refused (by decide)

theorem cmdImTyping_served : Served build outcomes params daemon .imTyping
    (daemon.cmdImTyping outcomes params) := by
  unfold cmdImTyping
  split
  · exact registered_served (.types ‹_› ‹_›) rfl
  · exact .refused (by decide)

theorem cmdStatusGet_served : Served build outcomes params daemon .statusGet
    (daemon.cmdStatusGet outcomes) := by
  refine .none ?_ fun _ => id
  unfold cmdStatusGet
  split
  · rfl
  · dsimp only
    split <;> simp [Action.controls]

theorem cmdDeviceListAudio_served : Served build outcomes params daemon .deviceListAudio
    (daemon.cmdDeviceListAudio outcomes) := by
  refine .none ?_ fun _ => id
  unfold cmdDeviceListAudio deviceListAudio
  dsimp only
  split <;> simp [Action.controls]

theorem cmdDeviceListVideo_served : Served build outcomes params daemon .deviceListVideo
    (daemon.cmdDeviceListVideo outcomes) := by
  refine .none ?_ fun _ => id
  unfold cmdDeviceListVideo deviceListVideo
  dsimp only
  split <;> simp [Action.controls]

theorem cmdConfigSetRingTimeout_served : Served build outcomes params daemon .configSetRingTimeout
    (daemon.cmdConfigSetRingTimeout build params) := by
  refine .none ?_ fun _ => id
  unfold cmdConfigSetRingTimeout
  split
  · rfl
  · split <;> rfl

/-- Every command serves its line with one request or none. -/
theorem runCmd_served (build : Build) (outcomes : Outcomes) (params : Option JsonElem)
    (daemon : Daemon) (fn : CmdFn) :
    Served build outcomes params daemon fn (daemon.runCmd build outcomes params fn) := by
  cases fn with
  | ping | versionGet | configGetRingTimeout => exact .none rfl fun _ => id
  | statusGet => exact cmdStatusGet_served
  | accountConfigure => exact cmdAccountConfigure_served
  | accountRegister => exact setRegistration_served .registers
  | accountUnregister => exact setRegistration_served .unregisters
  | accountRemove => exact cmdAccountRemove_served
  | deviceListAudio => exact cmdDeviceListAudio_served
  | deviceListVideo => exact cmdDeviceListVideo_served
  | deviceSetAudio => exact cmdDeviceSetAudio_served
  | deviceSetVideo => exact cmdDeviceSetVideo_served
  | callDial => exact cmdCallDial_served
  | callHangup => exact cmdCallHangup_served
  | callHangupAll => exact cmdCallHangupAll_served
  | callGetInfo => exact cmdCallGetInfo_served
  | callAnswer => exact cmdCallAnswer_served
  | configSetRingTimeout => exact cmdConfigSetRingTimeout_served
  | imSend => exact cmdImSend_served
  | imTyping => exact cmdImTyping_served

/-! ## The callbacks -/

/-- What a callback does about its call is no request. -/
theorem Speaks.controlLog {callId : CallId} {after : Daemon}
    (speaks : Speaks (Action.About callId) daemon after) :
    after.controlLog = daemon.controlLog := by
  obtain ⟨added, grown, about⟩ := speaks.log
  have none : added.filter Action.controls = [] := by
    apply List.filter_eq_nil_iff.mpr
    intro action member
    cases action <;> first | exact Bool.false_ne_true | exact (about _ member).elim
  rw [Daemon.controlLog, Daemon.controlLog, grown, List.filter_append, none, List.append_nil]

/-- The ring timer hangs up the call of its entry when it reads that it still rings. -/
theorem ringTimerCb_controlLog (answers : Answers) (daemon : Daemon) :
    answers.Rings ∧ (daemon.ringTimerCb answers).controlLog = daemon.controlLog ++
      [.hangup (daemon.timers .ring).userData temporarilyUnavailable] ∨
    ¬answers.Rings ∧ (daemon.ringTimerCb answers).controlLog = daemon.controlLog := by
  have asked : ((daemon.clearScheduled .ring).record
      (.getInfo (daemon.timers .ring).userData)).controlLog = daemon.controlLog := by
    rw [controlLog_record]
    exact List.append_nil _
  unfold ringTimerCb
  dsimp only
  cases read : answers.info 0 with
  | error status => exact .inr ⟨fun ⟨_, same, _⟩ => (by cases read.symm.trans same), asked⟩
  | ok info =>
      dsimp only
      split
      · rename_i moved
        refine .inr ⟨?_, asked⟩
        rintro ⟨_, same, rings⟩
        cases read.symm.trans same
        exact rings.elim moved.1 moved.2
      · rename_i rings
        refine .inl ⟨⟨info, read, ?_⟩, ?_⟩
        · by_contra moved
          exact rings (not_or.mp moved)
        · rw [controlLog_record, asked]
          rfl

end Daemon

/-! ## Runs -/

/-- The ring timer's callback runs, and reads that its call still rings. -/
def Sip.RingsOut (sip : Sip) : SipInput → Prop
  | .fire answers => sip.pending = some .ring ∧ answers.Rings
  | _ => False

/-- What pjsua is asked to do in one step. -/
inductive Sip.Serves (build : Build) (sip : Sip) : SipInput → List Action → Prop
  /-- One request at most for a command, and one if it says that it has succeeded. -/
  | command {line : Bytes} {outcomes : Outcomes} {fn : CmdFn} {params : Option JsonElem}
      {request : Option Action} (runs : Daemon.executed build line = some (fn, params))
      (wanted : ∀ action, request = some action →
        action.Wanted build outcomes params sip.daemon fn)
      (made : (sip.daemon.dispatchLine build outcomes line).1.Succeeded fn →
        fn.Acts sip.daemon → request ≠ none) :
      Serves build sip (.line line outcomes) request.toList
  | unknown {line : Bytes} {outcomes : Outcomes} (idle : Daemon.executed build line = none) :
      Serves build sip (.line line outcomes) []
  | timeout {input : SipInput} (ringsOut : sip.RingsOut input) :
      Serves build sip input
        [.hangup (sip.daemon.timers .ring).userData temporarilyUnavailable]
  | callback {input : SipInput} (noLine : ∀ line outcomes, input ≠ .line line outcomes)
      (goesOn : ¬sip.RingsOut input) : Serves build sip input []

/-- What a step asks pjsua to do. -/
theorem Sip.step_serves (build : Build) (sip : Sip) (input : SipInput) :
    ∃ requests, sip.Serves build input requests ∧
      (sip.step build input).daemon.controlLog = sip.daemon.controlLog ++ requests := by
  have quiet {input : SipInput} (noLine : ∀ line outcomes, input ≠ .line line outcomes)
      (goesOn : ¬sip.RingsOut input)
      (same : (sip.step build input).daemon.controlLog = sip.daemon.controlLog) :
      ∃ requests, sip.Serves build input requests ∧
        (sip.step build input).daemon.controlLog = sip.daemon.controlLog ++ requests :=
    ⟨[], .callback noLine goesOn, same.trans (List.append_nil _).symm⟩
  cases input with
  | line line outcomes =>
      cases runs : Daemon.executed build line with
      | none =>
          refine ⟨[], .unknown runs, ?_⟩
          rw [step, Daemon.dispatchLine_unexecuted runs, List.append_nil]
          rfl
      | some command =>
          obtain ⟨fn, params⟩ := command
          obtain ⟨request, log, wanted, made⟩ :=
            Daemon.runCmd_served build outcomes params sip.daemon fn
          refine ⟨_, .command runs wanted fun succeeded => made ?_, ?_⟩
          · obtain ⟨_, ran, status⟩ := Daemon.dispatchLine_succeeded succeeded
            cases runs.symm.trans ran
            exact status
          · rw [step_executed runs]
            exact log
  | regState2 accId renew info =>
      refine quiet (fun _ _ same => by cases same) id ?_
      cases info <;> simp [step, set, Daemon.onRegState2, Daemon.controlLog, Action.controls]
  | incomingCall callId answers =>
      exact quiet (fun _ _ same => by cases same) id
        (Daemon.onIncomingCall_speaks answers callId _).controlLog
  | callState callId answers =>
      exact quiet (fun _ _ same => by cases same) id
        (Daemon.onCallState_speaks answers callId _).controlLog
  | callMediaState callId answers =>
      exact quiet (fun _ _ same => by cases same) id
        (Daemon.onCallMediaState_speaks answers callId _).controlLog
  | callMediaEvent callId medIdx event =>
      exact quiet (fun _ _ same => by cases same) id
        (Daemon.onCallMediaEvent_speaks callId medIdx event _).controlLog
  | callRxOffer | dequeue => exact quiet (fun _ _ same => by cases same) id rfl
  | pager2 | pagerStatus2 | typing2 =>
      exact quiet (fun _ _ same => by cases same) id
        ((Daemon.controlLog_record _ _).trans (List.append_nil _))
  | fire answers =>
      obtain ⟨daemon, pending⟩ := sip
      have other (held : pending ≠ some .ring) :
          ¬Sip.RingsOut ⟨daemon, pending⟩ (.fire answers) := fun ringsOut => held ringsOut.1
      cases pending with
      | none => exact quiet (fun _ _ same => by cases same) (other (by decide)) rfl
      | some name =>
          cases name with
          | ring =>
              obtain ⟨rings, asked⟩ | ⟨moved, same⟩ :=
                Daemon.ringTimerCb_controlLog answers daemon
              · exact ⟨_, .timeout ⟨rfl, rings⟩, asked⟩
              · exact quiet (fun _ _ same => by cases same) (fun ringsOut => moved ringsOut.2)
                  same
          | watchdog =>
              exact quiet (fun _ _ same => by cases same) (other (by decide))
                (Daemon.videoWatchdogCb_speaks build.calls answers daemon).controlLog
          | report =>
              exact quiet (fun _ _ same => by cases same) (other (by decide))
                (Daemon.mediaReportCb_speaks build.calls answers daemon).controlLog

/-- In every run pjsua is asked, in order, for what the lines asked for, once each, and to
hang up the calls that have rung too long; for nothing else. -/
theorem controls_requested (build : Build) (inputs : List SipInput) :
    Machine.Emits (Sip.step build) (Sip.Serves build) .start inputs
      (Sip.run build .start inputs).daemon.controlLog := by
  obtain ⟨requests, emits, log⟩ :=
    Machine.emits_run (fun sip : Sip => sip.daemon.controlLog) (Sip.step_serves build) .start inputs
  rw [show (Sip.run build .start inputs).daemon.controlLog = requests from log]
  exact emits

end Pjsocky
