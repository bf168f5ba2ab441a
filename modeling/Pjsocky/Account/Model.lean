import Pjsocky.Call.Model

/-!
# The account, the devices and instant messages

The functions of `account.c`, `device.c` and `im.c`, each under its own name, on the same
state as those of `call.c`. What pjsua answers inside one command is an input.
-/

namespace Pjsocky

open Support

/-- What pjsua answers inside one command, where the daemon looks at the answer. -/
structure Outcomes where
  answers : Answers
  makeCall : MakeCallOutcome
  accAdd : Except Failure AccId
  accInfo : Except Failure AccInfo
  accConfig : Except Failure AccConfig
  accModify : Status
  audDevs : Except Failure (List AudDevInfo)
  vidDevs : Except Failure (List VidDevInfo)
  vidDevInfo : Except Failure VidDevInfo
  sndIsActive : Bool
  callCount : Nat
  pool : Bool
  /-- The status of the request that a command ends with: `pjsua_acc_set_registration`,
  `pjsua_acc_del`, `pjsua_set_snd_dev2`, `pjsua_call_hangup`, `pjsua_call_answer2`,
  `pjsua_im_send` or `pjsua_im_typing`. -/
  status : Status

namespace Daemon

variable (outcomes : Outcomes)

/-! ## `device.c` -/

/-- `pjsocky_device_list_audio`. -/
def deviceListAudio (daemon : Daemon) : Except Failure (List AudDevInfo) × Daemon :=
  (outcomes.audDevs, daemon.record .enumAudDevs)

/-- `pjsocky_device_list_video`. -/
def deviceListVideo (daemon : Daemon) : Except Failure (List VidDevInfo) × Daemon :=
  (outcomes.vidDevs, daemon.record .vidEnumDevs)

/-- `pjsocky_device_set_audio`. -/
def deviceSetAudio (captureId playbackId : Int) (daemon : Daemon) : Status × Daemon :=
  let daemon := daemon.record .sndIsActive
  let daemon :=
    if outcomes.sndIsActive then
      let daemon := daemon.record .callGetCount
      if outcomes.callCount = 0 then daemon.record .setNoSndDev else daemon
    else daemon
  (outcomes.status, daemon.record (.setSndDev2 captureId playbackId sndDevNoImmediateOpen))

/-- The part of `pjsocky_device_set_video_capture` that updates the account. -/
def modifyCaptureDev (captureId : Int) (daemon : Daemon) : Daemon :=
  if daemon.accId = invalidId then daemon
  else
    let daemon := daemon.record .poolCreate
    if outcomes.pool then
      let daemon := daemon.record (.accGetConfig daemon.accId)
      match outcomes.accConfig with
      | .error _ => daemon
      | .ok config =>
          let daemon := daemon.record
            (.accModify daemon.accId { config with vidCapDev := captureId })
          if outcomes.accModify = .success then daemon.record (.accGetConfig daemon.accId)
          else daemon
    else daemon

/-- `pjsocky_device_set_video_capture`. -/
def deviceSetVideoCapture (captureId : Int) (daemon : Daemon) : Status × Daemon :=
  let daemon := daemon.record (.vidDevGetInfo captureId)
  match outcomes.vidDevInfo with
  | .error _ => (.einval, daemon)
  | .ok info =>
      if !info.dir.encoding then (.einval, daemon)
      else
        (.success, { daemon with videoCapture := captureId }.modifyCaptureDev outcomes captureId)

/-! ## `account.c` -/

/-- `resolve_default_vid_cap_dev`: the selected device, or the first that can capture. -/
def resolveDefaultVidCapDev (daemon : Daemon) : Int × Daemon :=
  if daemon.videoCapture ≠ invalidDev then (daemon.videoCapture, daemon)
  else
    let listed := daemon.deviceListVideo outcomes
    match listed.1 with
    | .error _ => (invalidDev, listed.2)
    | .ok devices =>
        match devices.find? fun device => device.dir.encoding with
        | none => (invalidDev, listed.2)
        | some device => (device.id, listed.2)

/-- `pjsocky_account_configure`; pjsua writes the new account's id into `g_acc_id`. -/
def accountConfigure (sipUri registrarUri username password realm : Bytes) (daemon : Daemon) :
    Except Failure AccId × Daemon :=
  if daemon.accId ≠ invalidId then (.error ⟨.eexists, by decide⟩, daemon)
  else
    let resolved := { daemon with registered := false }.resolveDefaultVidCapDev outcomes
    let config : AccConfig :=
      { id := sipUri
        regUri := registrarUri
        registerOnAccAdd := false
        vidInAutoShow := true
        vidOutAutoTransmit := true
        vidCapDev := resolved.1
        credInfo := [⟨realm, ascii "digest", username, credDataPlainPasswd, password⟩] }
    let daemon := resolved.2.record (.accAdd config outcomes.accAdd.toOption)
    match outcomes.accAdd with
    | .error status => (.error status, daemon)
    | .ok accId => (.ok accId, { daemon with accId })

/-- `pjsocky_account_register` and `pjsocky_account_unregister`. -/
def setRegistration (renew : Bool) (daemon : Daemon) : Status × Daemon :=
  if daemon.accId = invalidId then (.einvalidop, daemon)
  else (outcomes.status, daemon.record (.accSetRegistration daemon.accId renew))

def accountRegister : Daemon → Status × Daemon := setRegistration outcomes true
def accountUnregister : Daemon → Status × Daemon := setRegistration outcomes false

/-- `pjsocky_account_remove`. -/
def accountRemove (daemon : Daemon) : Status × Daemon :=
  if daemon.accId = invalidId then (.einvalidop, daemon)
  else if daemon.registered then (.einvalidop, daemon)
  else
    let deleted : Bool := outcomes.status = .success
    let daemon := daemon.record (.accDel daemon.accId deleted)
    if outcomes.status ≠ .success then (outcomes.status, daemon)
    else (.success, { daemon with accId := invalidId, registered := false })

/-- `pjsocky_account_on_reg_state2`; `info` is what pjsua reads of the account. -/
def onRegState2 (accId : AccId) (renew : Bool) (info : Except Failure AccInfo)
    (daemon : Daemon) : Daemon :=
  let daemon := daemon.record (.accGetInfo accId)
  match info with
  | .error _ => daemon
  | .ok info =>
      let daemon := { daemon with registered := renew && info.status / 100 = 2 }
      daemon.record (.push (.regState info daemon.registered))

/-! ## `im.c` -/

/-- `pjsocky_im_send`. -/
def imSend (target content mimeType : Bytes) (daemon : Daemon) : Status × Daemon :=
  if daemon.accId = invalidId || !daemon.registered then (.einvalidop, daemon)
  else (outcomes.status, daemon.record (.imSend daemon.accId target mimeType content))

/-- `pjsocky_im_typing`. -/
def imTyping (target : Bytes) (isTyping : Bool) (daemon : Daemon) : Status × Daemon :=
  if daemon.accId = invalidId || !daemon.registered then (.einvalidop, daemon)
  else (outcomes.status, daemon.record (.imTyping daemon.accId target isTyping))

/-- `pjsocky_im_on_pager2`. -/
def onPager2 (source target mimeType body : Bytes) (daemon : Daemon) : Daemon :=
  daemon.record (.push (.incomingMessage source target mimeType body))

/-- `pjsocky_im_on_pager_status2`. -/
def onPagerStatus2 (target body : Bytes) (status : Nat) (reason : Bytes) (daemon : Daemon) :
    Daemon :=
  daemon.record (.push (.messageStatus target body status reason))

/-- `pjsocky_im_on_typing2`. -/
def onTyping2 (source target : Bytes) (isTyping : Bool) (daemon : Daemon) : Daemon :=
  daemon.record (.push (.typing source target isTyping))

end Daemon
end Pjsocky
