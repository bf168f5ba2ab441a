import Pjsocky.Account.Model
import Pjsocky.Dispatch

/-!
# The command handlers

The handlers of `dispatch.c`, each under its own name, with the helpers that read their
parameters. A handler reads `params`, which may be absent, and the daemon's state; it
returns its status, the members it added to `result`, and the state it leaves.
-/

namespace Pjsocky

open Support

/-- The conversion of a number to `int`: it rounds towards zero, and may give any `int` when
the result does not fit. -/
structure IntConversion where
  overflow : ℚ → Int
  isInt : ∀ value, -2147483648 ≤ overflow value ∧ overflow value < 2147483648

def IntConversion.toInt (conversion : IntConversion) (value : ℚ) : Int :=
  let truncated := value.num.tdiv value.den
  if -2147483648 ≤ truncated ∧ truncated < 2147483648 then truncated
  else conversion.overflow value

/-- The conversion of an `int` to `unsigned`. -/
def unsigned (value : Int) : Nat := (value % 4294967296).toNat

/-- What the daemon is built with. -/
structure Build where
  lib : Pjlib
  calls : CallLib
  conversion : IntConversion

/-! ## Parameters -/

/-- `pjsocky_json_find` on `params`, which may be `NULL`. -/
def findMember (params : Option JsonElem) (name : String) : Option JsonElem :=
  params.bind fun elem => jsonFind elem name

/-- `get_string_member`. -/
def getStringMember (params : Option JsonElem) (name : String) : Option Bytes :=
  match findMember params name with
  | some (.str value) => some value
  | _ => none

/-- `get_bool_member`, which the handlers with an optional boolean write out. -/
def getBoolMember (params : Option JsonElem) (name : String) : Option Bool :=
  match findMember params name with
  | some (.bool value) => some value
  | _ => none

/-- `get_int_member`. -/
def getIntMember (build : Build) (params : Option JsonElem) (name : String) : Option Int :=
  match findMember params name with
  | some (.num value) => some (build.conversion.toInt value)
  | _ => none

/-! ## Results -/

/-- A handler that adds nothing to `result`. -/
def HandlerResult.bare (status : Status) : HandlerResult := ⟨status, [], trivial⟩

/-- A handler that succeeds with these members. -/
def HandlerResult.reply (result : Members) (named : Json.NamedMembers result) : HandlerResult :=
  ⟨.success, result, named⟩

/-- `vid_dir_str`. -/
def vidDirStr (dir : MediaDir) : Bytes :=
  match dir.encoding, dir.decoding with
  | true, false => ascii "capture"
  | false, true => ascii "render"
  | true, true => ascii "capture_render"
  | false, false => ascii "none"

/-- The object of an audio device in `device.list_audio`. -/
def audioDevice (device : AudDevInfo) : JsonElem :=
  .obj [addNumber "id" device.id, addString "name" device.name,
    addNumber "input_channels" device.inputCount, addNumber "output_channels" device.outputCount]

/-- The object of a video device in `device.list_video`. -/
def videoDevice (device : VidDevInfo) : JsonElem :=
  .obj [addNumber "id" device.id, addString "name" device.name,
    addString "driver" device.driver, addString "dir" (vidDirStr device.dir)]

theorem audioDevice_named (device : AudDevInfo) : (audioDevice device).Named := by
  simp only [audioDevice, addString, addNumber, Json.Named, Json.NamedMembers]
  decide

theorem videoDevice_named (device : VidDevInfo) : (videoDevice device).Named := by
  simp only [videoDevice, addString, addNumber, Json.Named, Json.NamedMembers]
  decide

/-- The `devices` member of the two lists. -/
def deviceList {Device : Type} (object : Device → JsonElem) (devices : List Device) : Members :=
  [(ascii "devices", .arr (devices.map object))]

theorem deviceList_named {Device : Type} {object : Device → JsonElem}
    (named : ∀ device, (object device).Named) (devices : List Device) :
    Json.NamedMembers (deviceList object devices) := by
  refine ⟨by decide, ?_, trivial⟩
  rw [Json.Named]
  induction devices with
  | nil => trivial
  | cons device rest ih => exact ⟨named device, ih⟩

/-- `add_rtp_counters`, the members it adds. -/
def rtpCounterMembers (txKey rxKey : String) : Except Failure RtpCounters → Members
  | .error _ => []
  | .ok counters => [addNumber txKey counters.tx, addNumber rxKey counters.rx]

/-- The members of `call.get_info` before the counters. -/
def callInfoMembers (info : CallInfo) : Members :=
  [addNumber "call_id" info.id, addString "state" (callStateStr info.state),
    addNumber "last_status" info.lastStatus, addString "last_status_text" info.lastStatusText,
    addString "remote_info" info.remoteInfo, addBool "has_audio" (hasActive .audio info.media),
    addBool "has_video" (hasActive .video info.media),
    addNumber "connect_duration_sec" info.connectDurationSec]

/-- All the members of `call.get_info`. -/
def callGetInfoMembers (info : CallInfo) (audio video : Except Failure RtpCounters) : Members :=
  callInfoMembers info ++ rtpCounterMembers "audio_tx_packets" "audio_rx_packets" audio ++
    rtpCounterMembers "video_tx_packets" "video_rx_packets" video

theorem callGetInfoMembers_named (info : CallInfo) (audio video : Except Failure RtpCounters) :
    Json.NamedMembers (callGetInfoMembers info audio video) := by
  rw [callGetInfoMembers, Json.namedMembers_append, Json.namedMembers_append]
  refine ⟨⟨?_, ?_⟩, ?_⟩
  · simp only [callInfoMembers, addString, addNumber, addBool, Json.Named, Json.NamedMembers]
    decide
  · cases audio <;> simp only [rtpCounterMembers, addNumber, Json.Named, Json.NamedMembers]
    decide
  · cases video <;> simp only [rtpCounterMembers, addNumber, Json.Named, Json.NamedMembers]
    decide

/-- The members of `status.get`. -/
def statusMembers (state : Bytes) (accId regStatus : Int) (callId : CallId) : Members :=
  [addString "state" state, addNumber "acc_id" accId, addNumber "reg_status" regStatus,
    addNumber "call_id" callId]

theorem statusMembers_named (state : Bytes) (accId regStatus : Int) (callId : CallId) :
    Json.NamedMembers (statusMembers state accId regStatus callId) := by
  simp only [statusMembers, addString, addNumber, Json.Named, Json.NamedMembers]
  decide

theorem versionFill_named (lib : Pjlib) : Json.NamedMembers (versionFill lib) := by
  simp only [versionFill, addString, Json.Named, Json.NamedMembers]
  decide

/-! ## Handlers -/

namespace Daemon

variable (build : Build) (outcomes : Outcomes) (params : Option JsonElem) (daemon : Daemon)

/-- `cmd_ping`. -/
def cmdPing : HandlerResult × Daemon := (.bare .success, daemon)

/-- `cmd_version_get`. -/
def cmdVersionGet : HandlerResult × Daemon :=
  (.reply (versionFill build.lib) (versionFill_named build.lib), daemon)

/-- `cmd_status_get`. -/
def cmdStatusGet : HandlerResult × Daemon :=
  if daemon.accId = invalidId then
    (.reply _ (statusMembers_named (ascii "idle") (-1) 0 daemon.callId), daemon)
  else
    let asked := daemon.record (.accGetInfo daemon.accId)
    match outcomes.accInfo with
    | .error status => (.bare status, asked)
    | .ok info =>
        let state :=
          if daemon.callId ≠ invalidId then ascii "in_call"
          else if daemon.registered then ascii "registered" else ascii "registering"
        (.reply _ (statusMembers_named state daemon.accId info.status daemon.callId), asked)

/-- `cmd_account_configure`. -/
def cmdAccountConfigure : HandlerResult × Daemon :=
  match getStringMember params "sip_uri", getStringMember params "registrar_uri",
    getStringMember params "username", getStringMember params "password" with
  | some sipUri, some registrarUri, some username, some password =>
      let realm := (getStringMember params "realm").getD (ascii "*")
      let result := daemon.accountConfigure outcomes sipUri registrarUri username password realm
      match result.1 with
      | .error status => (.bare status, result.2)
      | .ok accId =>
          (.reply [addNumber "acc_id" accId] ⟨by decide, trivial, trivial⟩, result.2)
  | _, _, _, _ => (.bare .einval, daemon)

/-- A handler that returns the status of the function it calls. -/
def bareCmd (result : Status × Daemon) : HandlerResult × Daemon := (.bare result.1, result.2)

/-- `cmd_account_register`. -/
def cmdAccountRegister : HandlerResult × Daemon := bareCmd (daemon.accountRegister outcomes)

/-- `cmd_account_unregister`. -/
def cmdAccountUnregister : HandlerResult × Daemon := bareCmd (daemon.accountUnregister outcomes)

/-- `cmd_account_remove`. -/
def cmdAccountRemove : HandlerResult × Daemon := bareCmd (daemon.accountRemove outcomes)

/-- `cmd_device_list_audio`. -/
def cmdDeviceListAudio : HandlerResult × Daemon :=
  let listed := daemon.deviceListAudio outcomes
  match listed.1 with
  | .error status => (.bare status, listed.2)
  | .ok devices => (.reply _ (deviceList_named audioDevice_named devices), listed.2)

/-- `cmd_device_list_video`. -/
def cmdDeviceListVideo : HandlerResult × Daemon :=
  let listed := daemon.deviceListVideo outcomes
  match listed.1 with
  | .error status => (.bare status, listed.2)
  | .ok devices => (.reply _ (deviceList_named videoDevice_named devices), listed.2)

/-- `cmd_device_set_audio`. -/
def cmdDeviceSetAudio : HandlerResult × Daemon :=
  match getIntMember build params "capture_id", getIntMember build params "playback_id" with
  | some captureId, some playbackId =>
      bareCmd (daemon.deviceSetAudio outcomes captureId playbackId)
  | _, _ => (.bare .einval, daemon)

/-- `cmd_device_set_video`. -/
def cmdDeviceSetVideo : HandlerResult × Daemon :=
  match getIntMember build params "capture_id" with
  | some captureId => bareCmd (daemon.deviceSetVideoCapture outcomes captureId)
  | none => (.bare .einval, daemon)

/-- `cmd_call_dial`. -/
def cmdCallDial : HandlerResult × Daemon :=
  match getStringMember params "uri" with
  | none => (.bare .einval, daemon)
  | some uri =>
      let video := (getBoolMember params "video").getD false
      let result := daemon.dial build.calls uri video outcomes.makeCall
      match result.1 with
      | .error status => (.bare status, result.2)
      | .ok callId =>
          (.reply [addNumber "call_id" callId] ⟨by decide, trivial, trivial⟩, result.2)

/-- `cmd_call_hangup`. -/
def cmdCallHangup : HandlerResult × Daemon :=
  match getIntMember build params "call_id" with
  | none => (.bare .einval, daemon)
  | some callId =>
      let code := (getIntMember build params "code").getD 486
      bareCmd (daemon.hangup build.calls callId (unsigned code) outcomes.status)

/-- `cmd_call_hangup_all`. -/
def cmdCallHangupAll : HandlerResult × Daemon := bareCmd (daemon.hangupAll outcomes.status)

/-- `cmd_call_get_info`. -/
def cmdCallGetInfo : HandlerResult × Daemon :=
  match getIntMember build params "call_id" with
  | none => (.bare .einval, daemon)
  | some callId =>
      let result := daemon.getInfo build.calls outcomes.answers 0 callId
      match result.1 with
      | .error status => (.bare status, result.2)
      | .ok info =>
          let audio := result.2.getRtpCounters build.calls outcomes.answers 1 callId .audio
          let video := audio.2.getRtpCounters build.calls outcomes.answers 2 callId .video
          (.reply _ (callGetInfoMembers_named info audio.1 video.1), video.2)

/-- `cmd_call_answer`. -/
def cmdCallAnswer : HandlerResult × Daemon :=
  match getIntMember build params "call_id" with
  | none => (.bare .einval, daemon)
  | some callId =>
      let code := unsigned ((getIntMember build params "code").getD 200)
      match getBoolMember params "video" with
      | some video => bareCmd (daemon.answer build.calls callId code video outcomes.status)
      | none =>
          let offered := daemon.remoteOfferedVideo build.calls outcomes.answers callId
          match offered.1 with
          | .error status => (.bare status, offered.2)
          | .ok video => bareCmd (offered.2.answer build.calls callId code video outcomes.status)

/-- `cmd_config_set_ring_timeout`. -/
def cmdConfigSetRingTimeout : HandlerResult × Daemon :=
  match getIntMember build params "seconds" with
  | none => (.bare .einval, daemon)
  | some seconds =>
      if seconds < 0 then (.bare .einval, daemon)
      else (.bare .success, daemon.setRingTimeout (unsigned seconds))

/-- `cmd_config_get_ring_timeout`. -/
def cmdConfigGetRingTimeout : HandlerResult × Daemon :=
  (.reply [addNumber "seconds" daemon.ringTimeoutSec] ⟨by decide, trivial, trivial⟩, daemon)

/-- `cmd_im_send`. -/
def cmdImSend : HandlerResult × Daemon :=
  match getStringMember params "to", getStringMember params "content" with
  | some target, some content =>
      let mimeType := (getStringMember params "mime_type").getD (ascii "text/plain")
      bareCmd (daemon.imSend outcomes target content mimeType)
  | _, _ => (.bare .einval, daemon)

/-- `cmd_im_typing`. -/
def cmdImTyping : HandlerResult × Daemon :=
  match getStringMember params "to", getBoolMember params "is_typing" with
  | some target, some isTyping => bareCmd (daemon.imTyping outcomes target isTyping)
  | _, _ => (.bare .einval, daemon)

/-- The handler of each entry of `CMD_TABLE`. -/
def runCmd : CmdFn → HandlerResult × Daemon
  | .ping => daemon.cmdPing
  | .versionGet => daemon.cmdVersionGet build
  | .statusGet => daemon.cmdStatusGet outcomes
  | .accountConfigure => daemon.cmdAccountConfigure outcomes params
  | .accountRegister => daemon.cmdAccountRegister outcomes
  | .accountUnregister => daemon.cmdAccountUnregister outcomes
  | .accountRemove => daemon.cmdAccountRemove outcomes
  | .deviceListAudio => daemon.cmdDeviceListAudio outcomes
  | .deviceListVideo => daemon.cmdDeviceListVideo outcomes
  | .deviceSetAudio => daemon.cmdDeviceSetAudio build outcomes params
  | .deviceSetVideo => daemon.cmdDeviceSetVideo build outcomes params
  | .callDial => daemon.cmdCallDial build outcomes params
  | .callHangup => daemon.cmdCallHangup build outcomes params
  | .callHangupAll => daemon.cmdCallHangupAll outcomes
  | .callGetInfo => daemon.cmdCallGetInfo build outcomes params
  | .callAnswer => daemon.cmdCallAnswer build outcomes params
  | .configSetRingTimeout => daemon.cmdConfigSetRingTimeout build params
  | .configGetRingTimeout => daemon.cmdConfigGetRingTimeout
  | .imSend => daemon.cmdImSend outcomes params
  | .imTyping => daemon.cmdImTyping outcomes params

/-- What the handlers would do in this state. -/
def handlers : Handlers := fun fn params => (daemon.runCmd build outcomes params fn).1

/-- The handler that a line reaches, with the `params` it is given. -/
def executed (line : Bytes) : Option (CmdFn × Option JsonElem) :=
  match build.lib.parse line with
  | some (.obj members, _) =>
      match jsonFind (.obj members) "id", jsonFind (.obj members) "cmd" with
      | some (.str _), some (.str cmd) =>
          (findCmd cmd).map fun fn => (fn, jsonFind (.obj members) "params")
      | _, _ => none
  | _ => none

/-- `pjsocky_dispatch_line` on the daemon's state. -/
def dispatchLine (line : Bytes) : Dispatched × Daemon :=
  (Pjsocky.dispatchLine build.lib (daemon.handlers build outcomes) line,
    match executed build line with
    | some (fn, params) => (daemon.runCmd build outcomes params fn).2
    | none => daemon)

end Daemon
end Pjsocky
