import Mathlib.Logic.Function.Basic
import Mathlib.Tactic.Simps.Basic
import Pjsocky.Event

/-!
# Calls

The functions of `call.c`, each under its own name, on the daemon's SIP-side state.
What pjsua answers inside one function is an input; what the daemon asks of pjsua is
recorded in a log, in order, together with the events it pushes and the timers it
handles. Messages for the log file are left out, except the two a call's history is
read from: the warning of `give_up_on_video` and the periodic media report.
-/

namespace Pjsocky

open Support

/-- The three timer entries of `call.c`. -/
inductive TimerName where
  /-- `g_ring_timer`. -/
  | ring
  /-- `g_video_watchdog`. -/
  | watchdog
  /-- `g_media_report`. -/
  | report
deriving DecidableEq, Repr

/-- A timer entry with its `*_scheduled` flag, and whether pjsua's timer heap holds
it. -/
structure Timer where
  userData : CallId
  scheduled : Bool
  inHeap : Bool
deriving DecidableEq, Repr

/-- `pjsua_call_setting`, the media counts. -/
structure CallSetting where
  audCnt : Nat
  vidCnt : Nat
  txtCnt : Nat
deriving DecidableEq, Repr

/-- The operations of `pjsua_call_set_vid_strm` that the daemon uses. -/
inductive VidStrmOp where
  | remove (medIdx : Nat)
  | changeCapDev (capDev : Int)
deriving DecidableEq, Repr

/-- The packet counters of `pjsua_stream_stat`, `rtcp.tx.pkt` and `rtcp.rx.pkt`. -/
structure RtpCounters where
  tx : Nat
  rx : Nat
deriving DecidableEq, Repr

/-- What the daemon does outside its own state. -/
inductive Action where
  | getInfo (callId : CallId)
  | getStreamStat (callId : CallId) (medIdx : Nat)
  | getStreamInfo (callId : CallId) (medIdx : Nat)
  | makeCall (accId : AccId) (uri : Bytes) (setting : CallSetting)
  | hangup (callId : CallId) (code : Nat)
  | answer (callId : CallId) (setting : CallSetting) (code : Nat)
  | setVidStrm (callId : CallId) (op : VidStrmOp)
  | confConnect (source sink : Int)
  | cancelTimer (name : TimerName)
  /-- `pj_timer_entry_init`, and whether the heap held the entry. -/
  | initTimer (name : TimerName) (callId : CallId) (inHeap : Bool)
  /-- `pjsua_schedule_timer`, and whether the heap held the entry. -/
  | scheduleTimer (name : TimerName) (msec : Nat) (inHeap : Bool)
  | warn (callId : CallId) (reasonStatus : Status) (reason : Bytes)
  | mediaReport (callId : CallId) (audio video : Option RtpCounters)
  /-- `pjsua_acc_add`, and the account it added if it did. -/
  | accAdd (config : AccConfig) (added : Option AccId)
  | accSetRegistration (accId : AccId) (renew : Bool)
  /-- `pjsua_acc_del`, and whether it deleted the account. -/
  | accDel (accId : AccId) (deleted : Bool)
  | accGetInfo (accId : AccId)
  | accGetConfig (accId : AccId)
  | accModify (accId : AccId) (config : AccConfig)
  | imSend (accId : AccId) (target mimeType content : Bytes)
  | imTyping (accId : AccId) (target : Bytes) (isTyping : Bool)
  | enumAudDevs
  | vidEnumDevs
  | vidDevGetInfo (device : Int)
  | sndIsActive
  | callGetCount
  | setNoSndDev
  | setSndDev2 (captureDev playbackDev : Int) (mode : Nat)
  | poolCreate
  | push (event : Event)

/-- The globals of `call.c`, with those of `account.c` and `device.c` that it reads. -/
structure Daemon where
  /-- `g_call_id`. -/
  callId : CallId
  /-- `g_ring_timeout_sec`. -/
  ringTimeoutSec : Nat
  timers : TimerName → Timer
  /-- `g_video_failed_call_id`. -/
  videoFailedCallId : CallId
  /-- `g_video_tx_packets_seen`. -/
  videoTxPacketsSeen : Nat
  /-- `g_video_stall_ticks`. -/
  videoStallTicks : Nat
  /-- `pjsocky_account_get_id`. -/
  accId : AccId
  /-- `pjsocky_account_is_registered`. -/
  registered : Bool
  /-- `pjsocky_device_get_video_capture`. -/
  videoCapture : Int
  log : List Action

/-- The constants of pjsua: `pjsua_call_get_max_count` and
`pjsua_call_setting_default`. -/
structure CallLib where
  maxCount : Nat
  settingDefault : CallSetting

/-- What pjsua answers inside one function of the daemon, where the daemon looks at the
answer. The readings of a call's info are numbered. -/
structure Answers where
  info : Nat → Except Failure CallInfo
  streamStat : Nat → Except Failure RtpCounters
  schedule : TimerName → Bool

/-- What `pjsua_call_make_call` did: on failure it may have written its output. -/
inductive MakeCallOutcome where
  | created (callId : CallId)
  | failed (status : Failure) (written : Option CallId)

/-- An m-line of an offer: `desc.media` and `desc.port`. -/
structure SdpMedia where
  media : Bytes
  port : Nat
deriving DecidableEq, Repr

/-- `pjmedia_event`. -/
inductive MediaEvent where
  | vidDevError (status : Status)
  | other
deriving DecidableEq, Repr

/-- `PJMEDIA_VID_INVALID_DEV`. -/
def invalidDev : Int := -3

/-- `PJSOCKY_VIDEO_WATCHDOG_MSEC`. -/
def videoWatchdogMsec : Nat := 3000

/-- `PJSOCKY_MEDIA_REPORT_MSEC`. -/
def mediaReportMsec : Nat := 5000

/-- `PJSIP_SC_TEMPORARILY_UNAVAILABLE`. -/
def temporarilyUnavailable : Nat := 480

namespace Daemon

/-- The globals as the process starts. -/
def start : Daemon where
  callId := invalidId
  ringTimeoutSec := 0
  timers _ := ⟨0, false, false⟩
  videoFailedCallId := invalidId
  videoTxPacketsSeen := 0
  videoStallTicks := 0
  accId := invalidId
  registered := false
  videoCapture := invalidDev
  log := []

@[simps]
def record (daemon : Daemon) (action : Action) : Daemon :=
  { daemon with log := daemon.log ++ [action] }

@[simps]
def setTimer (daemon : Daemon) (name : TimerName) (timer : Timer) : Daemon :=
  { daemon with timers := Function.update daemon.timers name timer }

/-- `cancel_ring_timer`, `cancel_video_watchdog` and `cancel_media_report`. -/
def cancelTimer (name : TimerName) (daemon : Daemon) : Daemon :=
  let timer := daemon.timers name
  if timer.scheduled then
    (daemon.record (.cancelTimer name)).setTimer name
      { timer with scheduled := false, inHeap := false }
  else daemon

def cancelRingTimer : Daemon → Daemon := cancelTimer .ring
def cancelVideoWatchdog : Daemon → Daemon := cancelTimer .watchdog
def cancelMediaReport : Daemon → Daemon := cancelTimer .report

/-- `pj_timer_entry_init` for a call. -/
def initTimer (name : TimerName) (callId : CallId) (daemon : Daemon) : Daemon :=
  let timer := daemon.timers name
  (daemon.record (.initTimer name callId timer.inHeap)).setTimer name
    { timer with userData := callId }

/-- `pjsua_schedule_timer`, with the flag that is set when it succeeds. -/
def scheduleTimer (answers : Answers) (name : TimerName) (msec : Nat) (daemon : Daemon) :
    Daemon :=
  let timer := daemon.timers name
  let daemon := daemon.record (.scheduleTimer name msec timer.inHeap)
  if answers.schedule name then
    daemon.setTimer name { timer with scheduled := true, inHeap := true }
  else daemon

/-- The timer heap takes an entry out because it has expired. -/
def dequeueTimer (name : TimerName) (daemon : Daemon) : Daemon :=
  daemon.setTimer name { daemon.timers name with inHeap := false }

/-- The first assignment of each timer callback. -/
def clearScheduled (name : TimerName) (daemon : Daemon) : Daemon :=
  daemon.setTimer name { daemon.timers name with scheduled := false }

end Daemon

/-- `find_sending_video`: the index of the first active video stream with the encoding
direction. -/
def findSendingVideo (media : List CallMedia) : Option Nat :=
  media.findIdx? fun stream =>
    stream.type = .video && stream.status = .active && stream.dir.encoding

/-- `pj_stricmp2` finds no difference. -/
def sameIgnoringCase (text : Bytes) (word : String) : Bool :=
  let lower (byte : UInt8) : UInt8 := if 65 ≤ byte ∧ byte ≤ 90 then byte + 32 else byte
  text.map lower = (ascii word).map lower

/-- `is_valid_call_id`. -/
def CallLib.isValidCallId (lib : CallLib) (callId : CallId) : Bool :=
  0 ≤ callId ∧ callId < lib.maxCount

namespace Daemon

variable (lib : CallLib) (answers : Answers)

/-- `pjsocky_call_set_ring_timeout`. -/
def setRingTimeout (seconds : Nat) (daemon : Daemon) : Daemon :=
  { daemon with ringTimeoutSec := seconds }

/-- `ring_timer_cb`. -/
def ringTimerCb (daemon : Daemon) : Daemon :=
  let callId := (daemon.timers .ring).userData
  let daemon := (daemon.clearScheduled .ring).record (.getInfo callId)
  match answers.info 0 with
  | .error _ => daemon
  | .ok info =>
      if info.state ≠ .incoming ∧ info.state ≠ .early then daemon
      else daemon.record (.hangup callId temporarilyUnavailable)

/-- The setting of `pjsocky_call_dial` and `pjsocky_call_answer`. -/
def setting (video : Bool) : CallSetting :=
  let setting := { lib.settingDefault with txtCnt := 0 }
  if video then setting else { setting with vidCnt := 0 }

/-- `pjsocky_call_dial`; pjsua writes its output into `g_call_id`. -/
def dial (uri : Bytes) (video : Bool) (outcome : MakeCallOutcome) (daemon : Daemon) :
    Except Failure CallId × Daemon :=
  if daemon.accId = invalidId || !daemon.registered then
    (.error ⟨.einvalidop, by decide⟩, daemon)
  else
    let daemon := daemon.record (.makeCall daemon.accId uri (setting lib video))
    match outcome with
    | .created callId => (.ok callId, { daemon with callId })
    | .failed status written =>
        let daemon := { daemon with callId := written.getD daemon.callId }
        (.error status, { daemon with callId := invalidId })

/-- `pjsocky_call_hangup`; `status` is pjsua's answer. -/
def hangup (callId : CallId) (code : Nat) (status : Status) (daemon : Daemon) :
    Status × Daemon :=
  if !lib.isValidCallId callId then (.einval, daemon)
  else (status, daemon.record (.hangup callId code))

/-- `pjsocky_call_hangup_all`. -/
def hangupAll (status : Status) (daemon : Daemon) : Status × Daemon :=
  if daemon.callId = invalidId then (.success, daemon)
  else (status, daemon.record (.hangup daemon.callId 0))

/-- `pjsocky_call_get_info`. -/
def getInfo (reading : Nat) (callId : CallId) (daemon : Daemon) :
    Except Failure CallInfo × Daemon :=
  if !lib.isValidCallId callId then (.error ⟨.einval, by decide⟩, daemon)
  else (answers.info reading, daemon.record (.getInfo callId))

/-- `pjsocky_call_remote_offered_video`. -/
def remoteOfferedVideo (callId : CallId) (daemon : Daemon) : Except Failure Bool × Daemon :=
  let result := daemon.getInfo lib answers 0 callId
  (result.1.map fun info => 0 < info.remVidCnt, result.2)

/-- `pjsocky_call_get_rtp_counters`: those of the first active stream of a type. -/
def getRtpCounters (reading : Nat) (callId : CallId) (type : MediaType) (daemon : Daemon) :
    Except Failure RtpCounters × Daemon :=
  let result := daemon.getInfo lib answers reading callId
  match result.1 with
  | .error status => (.error status, result.2)
  | .ok info =>
      match info.media.findIdx? fun stream => stream.type = type && stream.status = .active with
      | none => (.error ⟨.enotfound, by decide⟩, result.2)
      | some medIdx =>
          (answers.streamStat medIdx, result.2.record (.getStreamStat callId medIdx))

/-- `pjsocky_call_answer`. -/
def answer (callId : CallId) (code : Nat) (video : Bool) (status : Status) (daemon : Daemon) :
    Status × Daemon :=
  if !lib.isValidCallId callId then (.einval, daemon)
  else (status, daemon.record (.answer callId (setting lib video) code))

/-- The part of `on_call_state` for a call that has ended. -/
def callEnded (callId : CallId) (daemon : Daemon) : Daemon :=
  let daemon := if callId = daemon.callId then { daemon with callId := invalidId } else daemon
  let daemon :=
    if callId = daemon.videoFailedCallId then { daemon with videoFailedCallId := invalidId }
    else daemon
  daemon.cancelVideoWatchdog.cancelMediaReport

/-- The part of `on_call_state` for the ring timer: it goes once its call has moved on. -/
def stopRinging (callId : CallId) (state : InvState) (daemon : Daemon) : Daemon :=
  let timer := daemon.timers .ring
  if timer.scheduled ∧ callId = timer.userData ∧ state ≠ .incoming ∧ state ≠ .early then
    daemon.cancelRingTimer
  else daemon

/-- `pjsocky_call_on_call_state`. -/
def onCallState (callId : CallId) (daemon : Daemon) : Daemon :=
  let daemon := daemon.record (.getInfo callId)
  match answers.info 0 with
  | .error _ => daemon
  | .ok info =>
      let daemon := daemon.stopRinging callId info.state
      let daemon := if info.state = .disconnected then daemon.callEnded callId else daemon
      daemon.record (.push (.callState info))

/-- `give_up_on_video`. -/
def giveUpOnVideo (callId : CallId) (medIdx : Nat) (reasonStatus : Status) (reason : Bytes)
    (daemon : Daemon) : Daemon :=
  if callId = daemon.videoFailedCallId then daemon
  else
    let daemon := { daemon with videoFailedCallId := callId }.cancelVideoWatchdog
    let daemon := daemon.record (.warn callId reasonStatus reason)
    daemon.record (.setVidStrm callId (.remove medIdx))

/-- The part of `video_watchdog_cb` for a window in which the stream sent nothing: it is
counted, and one such window ends a stream that has sent before, two one that never has. -/
def silentWindow (callId : CallId) (medIdx : Nat) (daemon : Daemon) : Daemon :=
  let daemon := { daemon with videoStallTicks := daemon.videoStallTicks + 1 }
  let enough := if daemon.videoTxPacketsSeen ≠ 0 then 1 else 2
  if enough ≤ daemon.videoStallTicks then
    daemon.giveUpOnVideo callId medIdx .success
      (ascii "the video capture device stopped producing frames")
  else daemon.scheduleTimer answers .watchdog videoWatchdogMsec

/-- The part of `video_watchdog_cb` that judges a sending stream by its counters. -/
def judgeVideo (callId : CallId) (medIdx : Nat) (counters : Except Failure RtpCounters)
    (daemon : Daemon) : Daemon :=
  match counters with
  | .error _ => daemon.silentWindow answers callId medIdx
  | .ok counters =>
      if daemon.videoTxPacketsSeen < counters.tx then
        { daemon with videoTxPacketsSeen := counters.tx, videoStallTicks := 0 }.scheduleTimer
          answers .watchdog videoWatchdogMsec
      else daemon.silentWindow answers callId medIdx

/-- `video_watchdog_cb`. -/
def videoWatchdogCb (daemon : Daemon) : Daemon :=
  let callId := (daemon.timers .watchdog).userData
  let daemon := (daemon.clearScheduled .watchdog).record (.getInfo callId)
  match answers.info 0 with
  | .error _ => daemon
  | .ok info =>
      if info.state ≠ .confirmed then daemon
      else
        match findSendingVideo info.media with
        | none => daemon
        | some medIdx =>
            let result := daemon.getRtpCounters lib answers 1 callId .video
            result.2.judgeVideo answers callId medIdx result.1

/-- `media_report_cb`. -/
def mediaReportCb (daemon : Daemon) : Daemon :=
  let callId := (daemon.timers .report).userData
  let daemon := (daemon.clearScheduled .report).record (.getInfo callId)
  match answers.info 0 with
  | .error _ => daemon
  | .ok info =>
      if info.state ≠ .confirmed then daemon
      else
        let audio := daemon.getRtpCounters lib answers 1 callId .audio
        let video := audio.2.getRtpCounters lib answers 2 callId .video
        let daemon := video.2.record (.mediaReport callId audio.1.toOption video.1.toOption)
        daemon.scheduleTimer answers .report mediaReportMsec

/-- `arm_media_report`. -/
def armMediaReport (callId : CallId) (daemon : Daemon) : Daemon :=
  (daemon.cancelMediaReport.initTimer .report callId).scheduleTimer answers .report
    mediaReportMsec

/-- `arm_video_watchdog`. -/
def armVideoWatchdog (callId : CallId) (media : List CallMedia) (daemon : Daemon) : Daemon :=
  let daemon := daemon.cancelVideoWatchdog
  if findSendingVideo media = none ∨ callId = daemon.videoFailedCallId then daemon
  else
    let daemon := { daemon with videoTxPacketsSeen := 0, videoStallTicks := 0 }
    (daemon.initTimer .watchdog callId).scheduleTimer answers .watchdog videoWatchdogMsec

/-- `apply_video_capture_device`. -/
def applyVideoCaptureDevice (callId : CallId) (media : List CallMedia) (daemon : Daemon) :
    Daemon :=
  if daemon.videoCapture = invalidDev then daemon
  else if !hasActive .video media then daemon
  else daemon.record (.setVidStrm callId (.changeCapDev daemon.videoCapture))

/-- `connect_call_audio_to_sound_dev`. -/
def connectCallAudioToSoundDev (media : List CallMedia) (daemon : Daemon) : Daemon :=
  media.foldl (fun daemon stream =>
    if stream.type ≠ .audio ∨ stream.status ≠ .active then daemon
    else (daemon.record (.confConnect stream.confSlot 0)).record
      (.confConnect 0 stream.confSlot)) daemon

/-- `log_negotiated_media`, what it asks of pjsua. -/
def logNegotiatedMedia (callId : CallId) (media : List CallMedia) (daemon : Daemon) : Daemon :=
  media.zipIdx.foldl (fun daemon stream =>
    if stream.1.status ≠ .active then daemon
    else daemon.record (.getStreamInfo callId stream.2)) daemon

/-- `pjsocky_call_on_call_media_state`. -/
def onCallMediaState (callId : CallId) (daemon : Daemon) : Daemon :=
  let daemon := daemon.record (.getInfo callId)
  match answers.info 0 with
  | .error _ => daemon
  | .ok info =>
      let daemon := daemon.applyVideoCaptureDevice callId info.media
      let daemon := daemon.connectCallAudioToSoundDev info.media
      let daemon := daemon.armVideoWatchdog answers callId info.media
      let daemon := daemon.armMediaReport answers callId
      let daemon := daemon.logNegotiatedMedia callId info.media
      daemon.record (.push (.callMediaState info))

/-- `pjsocky_call_on_call_media_event`. -/
def onCallMediaEvent (callId : CallId) (medIdx : Nat) (event : Option MediaEvent)
    (daemon : Daemon) : Daemon :=
  match event with
  | some (.vidDevError status) =>
      daemon.giveUpOnVideo callId medIdx status (ascii "video device failed")
  | _ => daemon

/-- The part of `on_incoming_call` for the ring timer. -/
def startRinging (callId : CallId) (daemon : Daemon) : Daemon :=
  if 0 < daemon.ringTimeoutSec then
    (daemon.cancelRingTimer.initTimer .ring callId).scheduleTimer answers .ring
      (daemon.ringTimeoutSec * 1000)
  else daemon

/-- `pjsocky_call_on_incoming_call`. -/
def onIncomingCall (callId : CallId) (daemon : Daemon) : Daemon :=
  let daemon := { daemon with callId }.record (.getInfo callId)
  match answers.info 0 with
  | .error _ => daemon
  | .ok info => (daemon.startRinging answers callId).record (.push (.incomingCall info))

end Daemon

/-- The loop of `pjsocky_call_on_call_rx_offer`: the video streams an offer wants. -/
def offeredVideo (offer : List SdpMedia) : Nat :=
  offer.countP fun line => sameIgnoringCase line.media "video" && line.port ≠ 0

/-- `pjsocky_call_on_call_rx_offer`: the setting the answer is built from. -/
def onCallRxOffer (offer : Option (List SdpMedia)) (opt : Option CallSetting) :
    Option CallSetting :=
  match offer, opt with
  | some offer, some opt =>
      let opt := { opt with txtCnt := 0 }
      some (if 0 < offeredVideo offer ∧ opt.vidCnt = 0 then { opt with vidCnt := 1 } else opt)
  | _, _ => opt

end Pjsocky
