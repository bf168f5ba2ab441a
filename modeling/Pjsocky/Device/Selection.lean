import Pjsocky.Account.Capture
import Pjsocky.Device.NullVideo

/-!
# Only cameras are cameras

pjsua opens any device in the capture direction that it is told to, and a renderer then never
yields a frame. The daemon names capture devices in three places: the configuration of a new
account, that of the account there is, and the video stream of a call. `Picks` says that the
devices it names can capture, and that the one it remembers can.
-/

namespace Pjsocky

open Support

/-- The devices of pjmedia, by their ids. -/
abbrev DeviceTable := Int → Option VidDevInfo

/-- The device with this id can capture. -/
def DeviceTable.Captures (table : DeviceTable) (device : Int) : Prop :=
  ∃ info, table device = some info ∧ info.dir.encoding = true

/-- What the daemon tells pjsua to capture from can capture; a new account may be left without
a device. -/
def Action.Captures (captures : Int → Prop) : Action → Prop
  | .accAdd config _ => config.vidCapDev = invalidDev ∨ captures config.vidCapDev
  | .accModify _ config => captures config.vidCapDev
  | .setVidStrm _ (.changeCapDev device) => captures device
  | _ => True

theorem Action.Captures.mono {captures other : Int → Prop} {action : Action}
    (fine : action.Captures captures) (sub : ∀ device, captures device → other device) :
    action.Captures other := by
  cases action with
  | accAdd config added => exact fine.imp_right (sub _)
  | accModify accId config => exact sub _ fine
  | setVidStrm callId op =>
      cases op with
      | remove medIdx => trivial
      | changeCapDev device => exact sub _ fine
  | _ => trivial

/-- The devices that are listed are those of the table. -/
def Outcomes.ListedFrom (table : DeviceTable) (outcomes : Outcomes) : Prop :=
  ∀ devices, outcomes.vidDevs = .ok devices → ∀ device ∈ devices, table device.id = some device

/-- The info of this device is that of the table. -/
def Outcomes.ReadFrom (table : DeviceTable) (captureId : Int) (outcomes : Outcomes) : Prop :=
  ∀ info, outcomes.vidDevInfo = .ok info → table captureId = some info

/-- pjmedia answers each command from the table, about the device that the line names. -/
def SipInput.ReadFrom (build : Build) (table : DeviceTable) : SipInput → Prop
  | .line text outcomes => outcomes.ListedFrom table ∧
      ∀ params captureId, Daemon.executed build text = some (.deviceSetVideo, params) →
        getIntMember build params "capture_id" = some captureId →
        outcomes.ReadFrom table captureId
  | _ => True

namespace Daemon

/-- The device that is remembered, and those that were named, can capture. -/
structure Picks (captures : Int → Prop) (daemon : Daemon) : Prop where
  remembered : daemon.videoCapture = invalidDev ∨ captures daemon.videoCapture
  named : ∀ action ∈ daemon.log, action.Captures captures

variable {captures : Int → Prop} {daemon : Daemon}

namespace Picks

theorem record (picks : daemon.Picks captures) (action : Action)
    (fine : action.Captures captures) : (daemon.record action).Picks captures := by
  refine ⟨picks.remembered, fun other member => ?_⟩
  obtain old | new := List.mem_append.mp member
  · exact picks.named other old
  · rw [List.mem_singleton.mp new]
    exact fine

/-- A state that differs elsewhere only. -/
theorem set (picks : daemon.Picks captures) {after : Daemon}
    (videoCapture : after.videoCapture = daemon.videoCapture) (log : after.log = daemon.log) :
    after.Picks captures :=
  ⟨videoCapture ▸ picks.remembered, log ▸ picks.named⟩

theorem setTimer (picks : daemon.Picks captures) (name : TimerName) (timer : Timer) :
    (daemon.setTimer name timer).Picks captures := picks.set rfl rfl

theorem cancelTimer (picks : daemon.Picks captures) (name : TimerName) :
    (daemon.cancelTimer name).Picks captures := by
  dsimp only [Daemon.cancelTimer]
  split
  · exact (picks.record (.cancelTimer name) trivial).setTimer name _
  · exact picks

theorem initTimer (picks : daemon.Picks captures) (name : TimerName) (callId : CallId) :
    (daemon.initTimer name callId).Picks captures :=
  (picks.record (.initTimer name callId _) trivial).setTimer name _

theorem scheduleTimer (picks : daemon.Picks captures) (answers : Answers) (name : TimerName)
    (msec : Nat) : (daemon.scheduleTimer answers name msec).Picks captures := by
  have asked := picks.record (.scheduleTimer name msec (daemon.timers name).inHeap) trivial
  dsimp only [Daemon.scheduleTimer]
  split
  · exact asked.setTimer name _
  · exact asked

theorem mono {other : Int → Prop} (picks : daemon.Picks captures)
    (sub : ∀ device, captures device → other device) : daemon.Picks other where
  remembered := picks.remembered.imp_right (sub _)
  named action member := (picks.named action member).mono sub

/-- A loop keeps what each pass keeps. -/
theorem foldl {Item : Type} {pass : Daemon → Item → Daemon} {items : List Item}
    (picks : daemon.Picks captures)
    (each : ∀ next item, next.Picks captures → (pass next item).Picks captures) :
    (items.foldl pass daemon).Picks captures := by
  induction items generalizing daemon with
  | nil => exact picks
  | cons item rest ih => exact ih (each daemon item picks)

/-! ### The functions of `call.c` -/

theorem getInfo (picks : daemon.Picks captures) (lib : CallLib) (answers : Answers)
    (reading : Nat) (callId : CallId) :
    (daemon.getInfo lib answers reading callId).2.Picks captures := by
  unfold Daemon.getInfo
  split
  · exact picks
  · exact picks.record (.getInfo callId) trivial

theorem getRtpCounters (picks : daemon.Picks captures) (lib : CallLib) (answers : Answers)
    (reading : Nat) (callId : CallId) (type : MediaType) :
    (daemon.getRtpCounters lib answers reading callId type).2.Picks captures := by
  have asked := picks.getInfo lib answers reading callId
  dsimp only [Daemon.getRtpCounters]
  split
  · exact asked
  · split
    · exact asked
    · exact asked.record (.getStreamStat callId _) trivial

theorem giveUpOnVideo (picks : daemon.Picks captures) (callId : CallId) (medIdx : Nat)
    (status : Status) (reason : Bytes) :
    (daemon.giveUpOnVideo callId medIdx status reason).Picks captures := by
  unfold Daemon.giveUpOnVideo
  split
  · exact picks
  · have latched : { daemon with videoFailedCallId := callId }.Picks captures := picks.set rfl rfl
    exact ((latched.cancelTimer .watchdog).record (.warn callId status reason) trivial).record
      (.setVidStrm callId (.remove medIdx)) trivial

/-- A device is named for a call when one is remembered. -/
theorem applyVideoCaptureDevice (picks : daemon.Picks captures) (callId : CallId)
    (media : List CallMedia) :
    (daemon.applyVideoCaptureDevice callId media).Picks captures := by
  unfold Daemon.applyVideoCaptureDevice
  split
  · exact picks
  · rename_i selected
    split
    · exact picks
    · exact picks.record (.setVidStrm callId (.changeCapDev daemon.videoCapture))
        (picks.remembered.resolve_left selected)

theorem connectCallAudioToSoundDev (picks : daemon.Picks captures) (media : List CallMedia) :
    (daemon.connectCallAudioToSoundDev media).Picks captures := by
  refine picks.foldl fun next stream picks => ?_
  split
  · exact picks
  · exact (picks.record (.confConnect stream.confSlot 0) trivial).record
      (.confConnect 0 stream.confSlot) trivial

theorem logNegotiatedMedia (picks : daemon.Picks captures) (callId : CallId)
    (media : List CallMedia) : (daemon.logNegotiatedMedia callId media).Picks captures := by
  refine picks.foldl fun next stream picks => ?_
  split
  · exact picks
  · exact picks.record (.getStreamInfo callId stream.2) trivial

theorem armVideoWatchdog (picks : daemon.Picks captures) (answers : Answers) (callId : CallId)
    (media : List CallMedia) :
    (daemon.armVideoWatchdog answers callId media).Picks captures := by
  have cancelled := picks.cancelTimer .watchdog
  dsimp only [Daemon.armVideoWatchdog]
  split
  · exact cancelled
  · have counted : { daemon.cancelVideoWatchdog with
        videoTxPacketsSeen := 0, videoStallTicks := 0 }.Picks captures := cancelled.set rfl rfl
    exact (counted.initTimer .watchdog callId).scheduleTimer answers _ _

theorem onCallMediaState (picks : daemon.Picks captures) (answers : Answers) (callId : CallId) :
    (daemon.onCallMediaState answers callId).Picks captures := by
  have asked := picks.record (.getInfo callId) trivial
  dsimp only [Daemon.onCallMediaState]
  split
  · exact asked
  · rename_i info _
    have watched := ((asked.applyVideoCaptureDevice callId info.media).connectCallAudioToSoundDev
      info.media).armVideoWatchdog answers callId info.media
    have reported := ((watched.cancelTimer .report).initTimer .report callId).scheduleTimer
      answers .report mediaReportMsec
    exact (reported.logNegotiatedMedia callId info.media).record (.push (.callMediaState info))
      trivial

theorem stopRinging (picks : daemon.Picks captures) (callId : CallId) (state : InvState) :
    (daemon.stopRinging callId state).Picks captures := by
  dsimp only [Daemon.stopRinging]
  split
  · exact picks.cancelTimer .ring
  · exact picks

theorem onCallState (picks : daemon.Picks captures) (answers : Answers) (callId : CallId) :
    (daemon.onCallState answers callId).Picks captures := by
  have asked := picks.record (.getInfo callId) trivial
  dsimp only [Daemon.onCallState]
  split
  · exact asked
  · rename_i info _
    have quiet := asked.stopRinging callId info.state
    refine record ?_ (.push (.callState info)) trivial
    split
    · rw [callEnded_eq]
      exact ((quiet.set rfl rfl : (Daemon.forget callId _).Picks captures).cancelTimer
        .watchdog).cancelTimer .report
    · exact quiet

theorem onIncomingCall (picks : daemon.Picks captures) (answers : Answers) (callId : CallId) :
    (daemon.onIncomingCall answers callId).Picks captures := by
  have tracked : { daemon with callId }.Picks captures := picks.set rfl rfl
  have asked := tracked.record (.getInfo callId) trivial
  dsimp only [Daemon.onIncomingCall]
  split
  · exact asked
  · rename_i info _
    refine record ?_ (.push (.incomingCall info)) trivial
    unfold startRinging
    split
    · exact ((asked.cancelTimer .ring).initTimer .ring callId).scheduleTimer answers _ _
    · exact asked

theorem onCallMediaEvent (picks : daemon.Picks captures) (callId : CallId) (medIdx : Nat)
    (event : Option MediaEvent) :
    (daemon.onCallMediaEvent callId medIdx event).Picks captures := by
  unfold Daemon.onCallMediaEvent
  split
  · exact picks.giveUpOnVideo ..
  · exact picks

theorem ringTimerCb (picks : daemon.Picks captures) (answers : Answers) :
    (daemon.ringTimerCb answers).Picks captures := by
  have cleared : (daemon.clearScheduled .ring).Picks captures := picks.set rfl rfl
  have asked := cleared.record (.getInfo (daemon.timers .ring).userData) trivial
  dsimp only [Daemon.ringTimerCb]
  split
  · exact asked
  · split
    · exact asked
    · exact asked.record (.hangup (daemon.timers .ring).userData temporarilyUnavailable) trivial

theorem silentWindow (picks : daemon.Picks captures) (answers : Answers) (callId : CallId)
    (medIdx : Nat) : (daemon.silentWindow answers callId medIdx).Picks captures := by
  have counted : { daemon with videoStallTicks := daemon.videoStallTicks + 1 }.Picks captures :=
    picks.set rfl rfl
  unfold Daemon.silentWindow
  dsimp only
  by_cases enough : (if daemon.videoTxPacketsSeen ≠ 0 then 1 else 2) ≤ daemon.videoStallTicks + 1
  · rw [if_pos enough]
    exact counted.giveUpOnVideo ..
  · rw [if_neg enough]
    exact counted.scheduleTimer ..

theorem judgeVideo (picks : daemon.Picks captures) (answers : Answers) (callId : CallId)
    (medIdx : Nat) (counters : Except Failure RtpCounters) :
    (daemon.judgeVideo answers callId medIdx counters).Picks captures := by
  cases counters with
  | error status => exact picks.silentWindow ..
  | ok counters =>
      have sending : { daemon with
          videoTxPacketsSeen := counters.tx
          videoStallTicks := 0 }.Picks captures := picks.set rfl rfl
      unfold Daemon.judgeVideo
      dsimp only
      split
      · exact sending.scheduleTimer ..
      · exact picks.silentWindow ..

theorem videoWatchdogCb (picks : daemon.Picks captures) (lib : CallLib) (answers : Answers) :
    (daemon.videoWatchdogCb lib answers).Picks captures := by
  have cleared : (daemon.clearScheduled .watchdog).Picks captures := picks.set rfl rfl
  have asked := cleared.record (.getInfo (daemon.timers .watchdog).userData) trivial
  dsimp only [Daemon.videoWatchdogCb]
  split
  · exact asked
  · split
    · exact asked
    · split
      · exact asked
      · exact (asked.getRtpCounters lib answers 1 _ .video).judgeVideo ..

theorem mediaReportCb (picks : daemon.Picks captures) (lib : CallLib) (answers : Answers) :
    (daemon.mediaReportCb lib answers).Picks captures := by
  have cleared : (daemon.clearScheduled .report).Picks captures := picks.set rfl rfl
  have asked := cleared.record (.getInfo (daemon.timers .report).userData) trivial
  dsimp only [Daemon.mediaReportCb]
  split
  · exact asked
  · split
    · exact asked
    · exact (((asked.getRtpCounters lib answers 1 _ .audio).getRtpCounters lib answers 2 _
        .video).record (.mediaReport _ _ _) trivial).scheduleTimer ..

theorem timerCb (picks : daemon.Picks captures) (lib : CallLib) (answers : Answers)
    (name : TimerName) : (Phone.timerCb lib answers name daemon).Picks captures := by
  cases name with
  | ring => exact picks.ringTimerCb answers
  | watchdog => exact picks.videoWatchdogCb lib answers
  | report => exact picks.mediaReportCb lib answers

theorem remoteOfferedVideo (picks : daemon.Picks captures) (lib : CallLib) (answers : Answers)
    (callId : CallId) : (daemon.remoteOfferedVideo lib answers callId).2.Picks captures :=
  picks.getInfo lib answers 0 callId

theorem answer (picks : daemon.Picks captures) (lib : CallLib) (callId : CallId) (code : Nat)
    (video : Bool) (status : Status) :
    (daemon.answer lib callId code video status).2.Picks captures := by
  unfold Daemon.answer
  split
  · exact picks
  · exact picks.record (.answer callId _ code) trivial

theorem dial (picks : daemon.Picks captures) (lib : CallLib) (uri : Bytes) (video : Bool)
    (outcome : MakeCallOutcome) : (daemon.dial lib uri video outcome).2.Picks captures := by
  have asked := picks.record (.makeCall daemon.accId uri (setting lib video)) trivial
  unfold Daemon.dial
  split
  · exact picks
  · dsimp only
    split
    · exact asked.set rfl rfl
    · exact asked.set rfl rfl

theorem hangup (picks : daemon.Picks captures) (lib : CallLib) (callId : CallId) (code : Nat)
    (status : Status) : (daemon.hangup lib callId code status).2.Picks captures := by
  unfold Daemon.hangup
  split
  · exact picks
  · exact picks.record (.hangup callId code) trivial

theorem hangupAll (picks : daemon.Picks captures) (status : Status) :
    (daemon.hangupAll status).2.Picks captures := by
  unfold Daemon.hangupAll
  split
  · exact picks
  · exact picks.record (.hangup daemon.callId 0) trivial

/-! ### The functions of `device.c` and `account.c` -/

variable {outcomes : Outcomes} {table : DeviceTable}

theorem deviceSetAudio (picks : daemon.Picks captures) (outcomes : Outcomes)
    (captureId playbackId : Int) :
    (daemon.deviceSetAudio outcomes captureId playbackId).2.Picks captures := by
  have asked := picks.record .sndIsActive trivial
  unfold Daemon.deviceSetAudio
  refine record ?_ _ trivial
  dsimp only
  split
  · have counted := asked.record .callGetCount trivial
    split
    · exact counted.record .setNoSndDev trivial
    · exact counted
  · exact asked

theorem modifyCaptureDev (picks : daemon.Picks captures) (outcomes : Outcomes) {captureId : Int}
    (able : captures captureId) : (daemon.modifyCaptureDev outcomes captureId).Picks captures := by
  unfold Daemon.modifyCaptureDev
  split
  · exact picks
  · have pooled := picks.record .poolCreate trivial
    dsimp only
    split
    · have read := pooled.record (.accGetConfig daemon.accId) trivial
      split
      · exact read
      · rename_i config _
        have modified := read.record
          (.accModify daemon.accId { config with vidCapDev := captureId }) able
        split
        · exact modified.record (.accGetConfig daemon.accId) trivial
        · exact modified
    · exact pooled

/-- A device is remembered when its info says that it can capture. -/
theorem deviceSetVideoCapture {captureId : Int} (picks : daemon.Picks table.Captures)
    (answered : outcomes.ReadFrom table captureId) :
    (daemon.deviceSetVideoCapture outcomes captureId).2.Picks table.Captures := by
  have asked := picks.record (.vidDevGetInfo captureId) trivial
  unfold Daemon.deviceSetVideoCapture
  dsimp only
  split
  · exact asked
  · rename_i info read
    split
    · exact asked
    · rename_i encodes
      have able : table.Captures captureId := ⟨info, answered info read, by simpa using encodes⟩
      have selected : { daemon.record (.vidDevGetInfo captureId) with
          videoCapture := captureId }.Picks table.Captures := ⟨.inr able, asked.named⟩
      exact selected.modifyCaptureDev outcomes able

/-- The device of a new account is the remembered one, or a listed one that can capture. -/
theorem resolveDefaultVidCapDev (picks : daemon.Picks table.Captures)
    (listing : outcomes.ListedFrom table) :
    ((daemon.resolveDefaultVidCapDev outcomes).1 = invalidDev ∨
      table.Captures (daemon.resolveDefaultVidCapDev outcomes).1) ∧
    (daemon.resolveDefaultVidCapDev outcomes).2.Picks table.Captures := by
  have asked := picks.record .vidEnumDevs trivial
  unfold Daemon.resolveDefaultVidCapDev
  split
  · exact ⟨picks.remembered, picks⟩
  · dsimp only [Daemon.deviceListVideo]
    split
    · exact ⟨.inl rfl, asked⟩
    · rename_i devices listed
      split
      · exact ⟨.inl rfl, asked⟩
      · rename_i device found
        have encodes := List.find?_some found
        have known := listing devices listed device (List.mem_of_find?_eq_some found)
        exact ⟨.inr ⟨device, known, encodes⟩, asked⟩

theorem accountConfigure (picks : daemon.Picks table.Captures)
    (listing : outcomes.ListedFrom table)
    (sipUri registrarUri username password realm : Bytes) :
    (daemon.accountConfigure outcomes sipUri registrarUri username password
      realm).2.Picks table.Captures := by
  have cleared : { daemon with registered := false }.Picks table.Captures := picks.set rfl rfl
  have chosen := cleared.resolveDefaultVidCapDev listing
  unfold Daemon.accountConfigure
  split
  · exact picks
  · dsimp only
    generalize Daemon.resolveDefaultVidCapDev outcomes _ = resolved at chosen ⊢
    have added := chosen.2.record (.accAdd ⟨sipUri, registrarUri, false, true, true, resolved.1,
      [⟨realm, ascii "digest", username, credDataPlainPasswd, password⟩]⟩
      outcomes.accAdd.toOption) chosen.1
    split
    · exact added
    · exact added.set rfl rfl

theorem setRegistration (picks : daemon.Picks captures) (outcomes : Outcomes) (renew : Bool) :
    (daemon.setRegistration outcomes renew).2.Picks captures := by
  unfold Daemon.setRegistration
  split
  · exact picks
  · exact picks.record (.accSetRegistration daemon.accId renew) trivial

theorem accountRemove (picks : daemon.Picks captures) (outcomes : Outcomes) :
    (daemon.accountRemove outcomes).2.Picks captures := by
  unfold Daemon.accountRemove
  split
  · exact picks
  · split
    · exact picks
    · have asked := picks.record (.accDel daemon.accId (outcomes.status = .success)) trivial
      dsimp only
      split
      · exact asked
      · exact asked.set rfl rfl

theorem onRegState2 (picks : daemon.Picks captures) (accId : AccId) (renew : Bool)
    (info : Except Failure AccInfo) : (daemon.onRegState2 accId renew info).Picks captures := by
  have asked := picks.record (.accGetInfo accId) trivial
  cases info with
  | error status => exact asked
  | ok info =>
      have noted : { daemon.record (.accGetInfo accId) with
          registered := renew && info.status / 100 = 2 }.Picks captures := asked.set rfl rfl
      exact noted.record (.push (.regState info _)) trivial

/-- The functions of `im.c` that ask only when there is a registered account. -/
theorem ifRegistered (picks : daemon.Picks captures) (status : Status) (action : Action)
    (fine : action.Captures captures) :
    (if daemon.accId = invalidId || !daemon.registered then (Status.einvalidop, daemon)
      else (status, daemon.record action)).2.Picks captures := by
  split
  · exact picks
  · exact picks.record action fine

/-! ### The handlers of `dispatch.c` -/

variable {build : Build} {params : Option JsonElem}

theorem cmdStatusGet (picks : daemon.Picks captures) (outcomes : Outcomes) :
    (daemon.cmdStatusGet outcomes).2.Picks captures := by
  have asked := picks.record (.accGetInfo daemon.accId) trivial
  unfold Daemon.cmdStatusGet
  split
  · exact picks
  · dsimp only
    split
    · exact asked
    · exact asked

theorem cmdAccountConfigure (picks : daemon.Picks table.Captures)
    (listing : outcomes.ListedFrom table) (params : Option JsonElem) :
    (daemon.cmdAccountConfigure outcomes params).2.Picks table.Captures := by
  obtain same | ⟨sipUri, registrarUri, username, password, realm, same⟩ :=
    cmdAccountConfigure_leaves outcomes params daemon
  · rw [same]
    exact picks
  · rw [same]
    exact picks.accountConfigure listing ..

theorem cmdDeviceSetVideo (picks : daemon.Picks table.Captures)
    (answered : ∀ captureId, getIntMember build params "capture_id" = some captureId →
      outcomes.ReadFrom table captureId) :
    (daemon.cmdDeviceSetVideo build outcomes params).2.Picks table.Captures := by
  unfold Daemon.cmdDeviceSetVideo
  split
  · rename_i captureId given
    exact picks.deviceSetVideoCapture (answered captureId given)
  · exact picks

theorem cmdCallDial (picks : daemon.Picks captures) (build : Build) (outcomes : Outcomes)
    (params : Option JsonElem) : (daemon.cmdCallDial build outcomes params).2.Picks captures := by
  unfold Daemon.cmdCallDial
  split
  · exact picks
  · have dialled := picks.dial build.calls
    dsimp only
    split
    · exact dialled ..
    · exact dialled ..

theorem cmdCallGetInfo (picks : daemon.Picks captures) (build : Build) (outcomes : Outcomes)
    (params : Option JsonElem) :
    (daemon.cmdCallGetInfo build outcomes params).2.Picks captures := by
  unfold Daemon.cmdCallGetInfo
  split
  · exact picks
  · rename_i callId _
    have asked := picks.getInfo build.calls outcomes.answers 0 callId
    dsimp only
    split
    · exact asked
    · exact (asked.getRtpCounters _ _ _ _ .audio).getRtpCounters _ _ _ _ .video

theorem cmdCallAnswer (picks : daemon.Picks captures) (build : Build) (outcomes : Outcomes)
    (params : Option JsonElem) :
    (daemon.cmdCallAnswer build outcomes params).2.Picks captures := by
  unfold Daemon.cmdCallAnswer
  split
  · exact picks
  · rename_i callId _
    have asked := picks.remoteOfferedVideo build.calls outcomes.answers callId
    dsimp only
    split
    · exact picks.answer ..
    · split
      · exact asked
      · exact asked.answer ..

/-- Every command keeps the invariant. -/
theorem runCmd (picks : daemon.Picks table.Captures) {fn : CmdFn}
    (listing : outcomes.ListedFrom table)
    (answered : ∀ captureId, fn = .deviceSetVideo →
      getIntMember build params "capture_id" = some captureId →
        outcomes.ReadFrom table captureId) :
    (daemon.runCmd build outcomes params fn).2.Picks table.Captures := by
  cases fn with
  | ping | versionGet | configGetRingTimeout => exact picks
  | statusGet => exact picks.cmdStatusGet outcomes
  | accountConfigure => exact picks.cmdAccountConfigure listing params
  | accountRegister => exact picks.setRegistration outcomes true
  | accountUnregister => exact picks.setRegistration outcomes false
  | accountRemove => exact picks.accountRemove outcomes
  | deviceListAudio =>
      have listed := picks.record .enumAudDevs trivial
      simp only [Daemon.runCmd, cmdDeviceListAudio]
      split <;> exact listed
  | deviceListVideo =>
      have listed := picks.record .vidEnumDevs trivial
      simp only [Daemon.runCmd, cmdDeviceListVideo]
      split <;> exact listed
  | deviceSetAudio =>
      simp only [Daemon.runCmd, cmdDeviceSetAudio]
      split
      · exact picks.deviceSetAudio ..
      · exact picks
  | deviceSetVideo => exact picks.cmdDeviceSetVideo fun captureId => answered captureId rfl
  | callDial => exact picks.cmdCallDial ..
  | callHangup =>
      simp only [Daemon.runCmd, cmdCallHangup]
      split
      · exact picks
      · exact picks.hangup ..
  | callHangupAll => exact picks.hangupAll outcomes.status
  | callGetInfo => exact picks.cmdCallGetInfo ..
  | callAnswer => exact picks.cmdCallAnswer ..
  | configSetRingTimeout =>
      simp only [Daemon.runCmd, cmdConfigSetRingTimeout]
      split
      · exact picks
      · split
        · exact picks
        · exact picks.set rfl rfl
  | imSend =>
      simp only [Daemon.runCmd, cmdImSend]
      split
      · exact picks.ifRegistered outcomes.status _ trivial
      · exact picks
  | imTyping =>
      simp only [Daemon.runCmd, cmdImTyping]
      split
      · exact picks.ifRegistered outcomes.status _ trivial
      · exact picks

end Picks
end Daemon

/-! ## Runs -/

section Runs

variable {build : Build} {table : DeviceTable}

theorem Sip.step_picks {sip : Sip} {input : SipInput} (answered : input.ReadFrom build table)
    (picks : sip.daemon.Picks table.Captures) :
    (sip.step build input).daemon.Picks table.Captures := by
  cases input with
  | line text outcomes =>
      cases runs : Daemon.executed build text with
      | none =>
          rw [step, set, Daemon.dispatchLine_unexecuted runs]
          exact picks
      | some command =>
          rw [step_executed runs]
          refine picks.runCmd answered.1 fun captureId isSet given => ?_
          exact answered.2 command.2 captureId (isSet ▸ runs) given
  | regState2 accId renew info => exact picks.onRegState2 accId renew info
  | incomingCall callId answers => exact picks.onIncomingCall answers callId
  | callState callId answers => exact picks.onCallState answers callId
  | callMediaState callId answers => exact picks.onCallMediaState answers callId
  | callMediaEvent callId medIdx event => exact picks.onCallMediaEvent callId medIdx event
  | callRxOffer => exact picks
  | pager2 => exact picks.record (.push _) trivial
  | pagerStatus2 => exact picks.record (.push _) trivial
  | typing2 => exact picks.record (.push _) trivial
  | dequeue name => exact picks.setTimer name _
  | fire answers =>
      obtain ⟨daemon, pending⟩ := sip
      cases pending with
      | none => exact picks
      | some name => exact picks.timerCb build.calls answers name

/-- Along every run the devices that are remembered and named can capture. -/
theorem Sip.run_picks {sip : Sip} {inputs : List SipInput}
    (answered : ∀ input ∈ inputs, input.ReadFrom build table)
    (picks : sip.daemon.Picks table.Captures) :
    (sip.run build inputs).daemon.Picks table.Captures := by
  induction inputs generalizing sip with
  | nil => exact picks
  | cons input rest ih =>
      have first := sip.step_picks (answered input List.mem_cons_self) picks
      exact ih (fun other member => answered other (List.mem_cons_of_mem _ member)) first

theorem Daemon.start_picks : Daemon.start.Picks table.Captures :=
  ⟨.inl rfl, List.forall_mem_nil _⟩

/-- The renderer of `null_video_dev.c` under an id that pjmedia has given it. -/
def NullVidInfo.device (info : NullVidInfo) (id : Int) : VidDevInfo :=
  ⟨id, info.name, info.driver, info.dir⟩

/-- The null renderer is no camera. -/
theorem DeviceTable.Captures.ne_null {device null : Int} (able : table.Captures device)
    (registered : table null = some (factoryInit.device null)) : device ≠ null := by
  rintro rfl
  obtain ⟨info, found, encodes⟩ := able
  rw [registered] at found
  cases found
  cases encodes

/-- In every run of command lines, callbacks and timers, whatever fails, each device that the
daemon remembers, gives to an account or switches a call to is one of pjmedia's that can capture;
it is never the null renderer. -/
theorem only_cameras_capture (build : Build) (table : DeviceTable) (inputs : List SipInput)
    (answered : ∀ input ∈ inputs, input.ReadFrom build table) :
    let daemon := (Sip.start.run build inputs).daemon
    daemon.Picks table.Captures ∧
    ∀ null, table null = some (factoryInit.device null) →
      daemon.Picks fun device => table.Captures device ∧ device ≠ null := by
  intro daemon
  have picks : daemon.Picks table.Captures :=
    Sip.run_picks answered (Daemon.start_picks : Sip.start.daemon.Picks table.Captures)
  refine ⟨picks, fun null registered => picks.mono fun device able => ?_⟩
  exact ⟨able, able.ne_null registered⟩

/-- The null renderer, and a camera after it. -/
def oneCamera : DeviceTable
  | 0 => some (factoryInit.device 0)
  | 1 => some ⟨1, ascii "front", ascii "v4l2", ⟨true, false⟩⟩
  | _ => none

/-- pjmedia lists both, and gives the info of the one with this id. -/
def oneCameraOutcomes (captureId : Int) : Outcomes :=
  { Outcomes.sample with
    accConfig := .ok ⟨ascii "sip:a@b", ascii "sip:b", false, true, true, 1, []⟩
    vidDevs := .ok [factoryInit.device 0, ⟨1, ascii "front", ascii "v4l2", ⟨true, false⟩⟩]
    vidDevInfo := (oneCamera captureId).elim (.error sampleFailure) .ok }

def setRendererLine : Bytes := requestLine "device.set_video" "\"capture_id\":0"
def setCameraLine : Bytes := requestLine "device.set_video" "\"capture_id\":1"

def oneCameraBuild : Build :=
  sampleBuild [(Endpoint.configureLine, Endpoint.configureRequest),
    (setRendererLine, request "device.set_video" [addNumber "capture_id" 0]),
    (setCameraLine, request "device.set_video" [addNumber "capture_id" 1])]

/-- An account is added, the renderer is refused, the camera selected, and a call gets video. -/
def oneCameraRun : List SipInput :=
  [.line Endpoint.configureLine (oneCameraOutcomes 1),
    .line setRendererLine (oneCameraOutcomes 0), .line setCameraLine (oneCameraOutcomes 1),
    .callMediaState 0 (.sample 0 .confirmed [sampleVideo])]

theorem oneCameraOutcomes_listed (captureId : Int) :
    (oneCameraOutcomes captureId).ListedFrom oneCamera := by
  rintro devices ⟨⟩ device member
  obtain rfl | member := List.mem_cons.mp member
  · rfl
  · rw [List.mem_singleton.mp member]
    rfl

theorem oneCameraRun_captures :
    (Sip.start.run oneCameraBuild oneCameraRun).daemon.videoCapture = 1 ∧
    (Sip.start.run oneCameraBuild oneCameraRun).daemon.Picks
      fun device => oneCamera.Captures device ∧ device ≠ 0 := by
  refine ⟨by decide +kernel, ?_⟩
  refine (only_cameras_capture oneCameraBuild oneCamera oneCameraRun ?_).2 0 rfl
  intro input member
  simp only [oneCameraRun, List.mem_cons, List.not_mem_nil, or_false] at member
  obtain rfl | rfl | rfl | rfl := member
  · refine ⟨oneCameraOutcomes_listed 1, fun params captureId runs => ?_⟩
    cases runs
  · refine ⟨oneCameraOutcomes_listed 0, fun params captureId runs given info read => ?_⟩
    cases runs
    cases given
    cases read
    rfl
  · refine ⟨oneCameraOutcomes_listed 1, fun params captureId runs given info read => ?_⟩
    cases runs
    cases given
    cases read
    rfl
  · trivial

end Runs
end Pjsocky
