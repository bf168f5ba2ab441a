import Pjsocky.Command.Codes
import Pjsocky.Command.RingTimeout
import Pjsocky.Support.Rounding

/-!
# Integer parameters

`get_int_member` converts the number that a client sent, so what reaches the checks behind it
is rounded towards zero, and any `int` when the number does not fit. A command that takes an
integer acts on the number that was sent, or refuses it, just when no number in between gets
past its check: that is `CmdFn.IntegersSafe`, stated of the numbers themselves.
-/

namespace Pjsocky

open Support

/-! ## Definitions -/

/-- A number that an `int` holds. -/
def IsInt (value : ℚ) : Prop :=
  ∃ number : Int, value = number ∧ -2147483648 ≤ number ∧ number < 2147483648

/-- The number that was sent under a name. -/
def Sent (params : Option JsonElem) (name : String) (value : ℚ) : Prop :=
  findMember params name = some (.num value)

/-- The integers that say what a command acts on. -/
def CmdFn.integers : CmdFn → List String
  | .callHangup | .callGetInfo | .callAnswer => ["call_id"]
  | .deviceSetAudio => ["capture_id", "playback_id"]
  | .deviceSetVideo => ["capture_id"]
  | .configSetRingTimeout => ["seconds"]
  | _ => []

/-- Every number that was sent for them is one that an `int` holds. -/
def CmdFn.SentInts (params : Option JsonElem) (fn : CmdFn) : Prop :=
  ∀ name ∈ fn.integers, ∀ value, Sent params name value → IsInt value

/-- The calls and devices of a request are the given ones. -/
def Action.Names (given : String → Int → Prop) : Action → Prop
  | .hangup callId _ | .answer callId _ _ | .setVidStrm callId _ | .getInfo callId
  | .getStreamStat callId _ | .getStreamInfo callId _ => given "call_id" callId
  | .setSndDev2 captureDev playbackDev _ =>
      given "capture_id" captureDev ∧ given "playback_id" playbackDev
  | .vidDevGetInfo device => given "capture_id" device
  | .accModify _ config => given "capture_id" config.vidCapDev
  | _ => True

/-- What the daemon has asked for and what it has stored is what was given. -/
structure Daemon.ActsOn (given : String → Int → Prop) (before after : Daemon) : Prop where
  requests : ∃ added, after.log = before.log ++ added ∧ ∀ action ∈ added, action.Names given
  videoCapture :
    after.videoCapture = before.videoCapture ∨ given "capture_id" after.videoCapture
  ringTimeoutSec :
    after.ringTimeoutSec = before.ringTimeoutSec ∨ given "seconds" after.ringTimeoutSec

/-- Nothing has changed and pjsua was asked for nothing; pjmedia may have been asked for a
device. -/
def Daemon.Idle (before after : Daemon) : Prop :=
  ∃ asked, after = { before with log := before.log ++ asked } ∧
    ∀ action ∈ asked, ∃ device, action = .vidDevGetInfo device

/-- What `config.get_ring_timeout` yields. -/
def Daemon.YieldsRingTimeout (daemon : Daemon) (value : ℚ) : Prop :=
  daemon.cmdConfigGetRingTimeout.1.status = .success ∧
    daemon.cmdConfigGetRingTimeout.1.result = [(ascii "seconds", .num value)]

namespace Sip

/-- The number that this step's `config.set_ring_timeout` accepts. -/
def accepted (build : Build) (sip : Sip) : SipInput → Option ℚ
  | .line line _ =>
      match Daemon.executed build line with
      | some (.configSetRingTimeout, params) =>
          match findMember params "seconds" with
          | some (.num value) =>
              if (sip.daemon.cmdConfigSetRingTimeout build params).1.status = .success then
                some value
              else none
          | _ => none
      | _ => none
  | _ => none

/-- The number that was accepted last. -/
def lastAccepted (build : Build) (sip : Sip) : List SipInput → Option ℚ
  | [] => none
  | input :: rest => (lastAccepted build (sip.step build input) rest).or (sip.accepted build input)

/-- A command that takes integers acts on what was sent, or answers `invalid_params`. -/
structure TakesIntegers (build : Build) (sip : Sip) (input : SipInput) : Prop where
  acts : ∀ line outcomes fn params, input = .line line outcomes →
    Daemon.executed build line = some (fn, params) → fn.integers ≠ [] → fn.SentInts params →
    Daemon.ActsOn (fun name number => Sent params name number) sip.daemon
      (sip.step build input).daemon
  refuses : ∀ line outcomes fn params, input = .line line outcomes →
    Daemon.executed build line = some (fn, params) → ¬fn.SentInts params →
    (∃ id, (sip.daemon.dispatchLine build outcomes line).1 =
      .answered (fail id (ascii "invalid_params") (build.lib.strerror .einval)) (some fn)) ∧
    sip.daemon.Idle (sip.step build input).daemon
  accepts : ∀ value, sip.accepted build input = some value →
    IsInt value ∧ 0 ≤ value ∧ (sip.step build input).daemon.YieldsRingTimeout value

/-- After these inputs `config.get_ring_timeout` yields the number that was accepted last. -/
def YieldsLastAccepted (build : Build) (inputs : List SipInput) (sip : Sip) : Prop :=
  ∀ value, start.lastAccepted build inputs = some value → sip.daemon.YieldsRingTimeout value

end Sip

/-! ## The numbers that are safe -/

/-- The check of the call id fails for a number. -/
def Build.RefusesCallId (build : Build) (value : ℚ) : Prop :=
  if -2147483649 < value ∧ value < 2147483648 then
    value ≤ -1 ∨ (build.calls.maxCount : ℚ) ≤ max value 0
  else build.calls.isValidCallId (build.conversion.overflow value) = false

/-- The check of the seconds fails for a number. -/
def Build.RefusesSeconds (build : Build) (value : ℚ) : Prop :=
  if -2147483649 < value ∧ value < 2147483648 then value ≤ -1
  else build.conversion.overflow value < 0

/-- pjmedia has no such device that can capture. -/
def Outcomes.RefusesDevice (outcomes : Outcomes) : Prop :=
  ∀ info, outcomes.vidDevInfo = .ok info → info.dir.encoding = false

/-- A `float` holds the number, as it does every number that the parser reads. -/
def FitsFloat (value : ℚ) : Prop := ∀ number : Int, value = number → toFloat number = value

/-- Each number sent is one that an `int` holds, or it is refused like a wrong integer. -/
def CmdFn.IntegersSafe (build : Build) (outcomes : Outcomes) (params : Option JsonElem) :
    CmdFn → Prop
  | .callHangup | .callGetInfo | .callAnswer =>
      ∀ value, Sent params "call_id" value → IsInt value ∨ build.RefusesCallId value
  | .deviceSetAudio => ∀ captureId playbackId, Sent params "capture_id" captureId →
      Sent params "playback_id" playbackId → IsInt captureId ∧ IsInt playbackId
  | .deviceSetVideo =>
      ∀ value, Sent params "capture_id" value → IsInt value ∨ outcomes.RefusesDevice
  | .configSetRingTimeout => ∀ value, Sent params "seconds" value →
      IsInt value ∧ FitsFloat value ∨ build.RefusesSeconds value
  | _ => True

def SipInput.IntegersSafe (build : Build) (input : SipInput) : Prop :=
  ∀ line outcomes fn params, input = .line line outcomes →
    Daemon.executed build line = some (fn, params) → fn.IntegersSafe build outcomes params

/-! ## The conversion -/

/-- A number fits when it is rounded to one that does. -/
theorem IntConversion.toInt_eq (conversion : IntConversion) (value : ℚ) :
    conversion.toInt value =
      if -2147483649 < value ∧ value < 2147483648 then value.num.tdiv value.den
      else conversion.overflow value := by
  have above := lt_truncated_iff (by decide : (-2147483649 : Int) < 0) value
  have below := truncated_lt_iff (by decide : (0 : Int) < 2147483648) value
  push_cast at above below
  exact if_congr (and_congr above below) rfl rfl

theorem IntConversion.toInt_range (conversion : IntConversion) (value : ℚ) :
    -2147483648 ≤ conversion.toInt value ∧ conversion.toInt value < 2147483648 := by
  unfold toInt
  dsimp only
  split
  · assumption
  · exact conversion.isInt value

/-- Converting an `int` on to `unsigned` keeps it unless it is negative. -/
theorem unsigned_of_nonneg {value : Int} (nonneg : 0 ≤ value) (fits : value < 2147483648) :
    (unsigned value : Int) = value := by
  unfold unsigned
  omega

theorem IntConversion.toInt_of_isInt (conversion : IntConversion) {value : ℚ}
    (isInt : IsInt value) : (conversion.toInt value : ℚ) = value := by
  obtain ⟨number, rfl, lower, upper⟩ := isInt
  have whole : (number : ℚ).num.tdiv (number : ℚ).den = number := by
    rw [Rat.num_intCast, Rat.den_intCast, Int.ofNat_one, Int.tdiv_one]
  rw [toInt, whole, if_pos ⟨lower, upper⟩]

theorem Build.refusesCallId_iff (build : Build) (value : ℚ) :
    build.calls.isValidCallId (build.conversion.toInt value) = false ↔
      build.RefusesCallId value := by
  rw [RefusesCallId, IntConversion.toInt_eq]
  split
  · rw [CallLib.isValidCallId, decide_eq_false_iff_not, not_and_or, not_le, not_lt]
    rcases Nat.eq_zero_or_pos build.calls.maxCount with none | some
    · rw [none]
      refine iff_of_true (lt_or_ge _ 0) (.inr ?_)
      rw [Nat.cast_zero]
      exact le_max_right value 0
    · have above := truncated_lt_iff (Int.natCast_pos.mpr some) value
      have positive : ¬(build.calls.maxCount : ℚ) ≤ 0 := not_le.mpr (Nat.cast_pos.mpr some)
      refine or_congr truncated_neg_iff ?_
      rw [← not_lt, above, not_lt, Int.cast_natCast, le_max_iff, or_iff_left positive]
  · rfl

theorem Build.refusesSeconds_iff (build : Build) (value : ℚ) :
    build.conversion.toInt value < 0 ↔ build.RefusesSeconds value := by
  rw [RefusesSeconds, IntConversion.toInt_eq]
  split
  · exact truncated_neg_iff
  · rfl

/-! ## The handlers -/

namespace Daemon

variable {build : Build} {outcomes : Outcomes} {params : Option JsonElem} {daemon : Daemon}
variable {fn : CmdFn} {name : String} {number : Int} {before after last : Daemon}
variable {given : String → Int → Prop}

/-- What `get_int_member` reads is what was sent, converted. -/
theorem getIntMember_eq_some : getIntMember build params name = some number ↔
    ∃ value, Sent params name value ∧ build.conversion.toInt value = number := by
  unfold getIntMember Sent
  split
  · rename_i value found
    rw [found, Option.some_inj]
    constructor
    · intro same
      exact ⟨value, rfl, same⟩
    · rintro ⟨sent, ⟨⟩, same⟩
      exact same
  · rename_i other
    refine iff_of_false nofun ?_
    rintro ⟨value, found, -⟩
    exact other value found

theorem getIntMember_sent {value : ℚ} (sent : Sent params name value) :
    getIntMember build params name = some (build.conversion.toInt value) :=
  getIntMember_eq_some.mpr ⟨value, sent, rfl⟩

theorem sent_unique {value other : ℚ} (sent : Sent params name value)
    (sentOther : Sent params name other) : value = other := by
  unfold Sent at sent sentOther
  rw [sent] at sentOther
  cases sentOther
  rfl

namespace ActsOn

theorem refl (given : String → Int → Prop) (daemon : Daemon) : ActsOn given daemon daemon :=
  ⟨⟨[], (List.append_nil _).symm, List.forall_mem_nil _⟩, .inl rfl, .inl rfl⟩

theorem record (acts : ActsOn given before after) (action : Action)
    (names : action.Names given) : ActsOn given before (after.record action) := by
  obtain ⟨added, grown, allNamed⟩ := acts.requests
  refine ⟨⟨added ++ [action], ?_, fun other member => ?_⟩, acts.videoCapture,
    acts.ringTimeoutSec⟩
  · rw [record_log, grown, List.append_assoc]
  · rcases List.mem_append.mp member with old | new
    · exact allNamed other old
    · rw [List.mem_singleton.mp new]
      exact names

theorem getInfo (acts : ActsOn given before after) {callId : CallId}
    (isGiven : given "call_id" callId) (calls : CallLib) (answers : Answers) (reading : Nat) :
    ActsOn given before (after.getInfo calls answers reading callId).2 := by
  unfold Daemon.getInfo
  split
  · exact acts
  · exact acts.record (.getInfo callId) isGiven

theorem getRtpCounters (acts : ActsOn given before after) {callId : CallId}
    (isGiven : given "call_id" callId) (calls : CallLib) (answers : Answers) (reading : Nat)
    (type : MediaType) :
    ActsOn given before (after.getRtpCounters calls answers reading callId type).2 := by
  have asked := acts.getInfo isGiven calls answers reading
  unfold Daemon.getRtpCounters
  dsimp only
  split
  · exact asked
  · split
    · exact asked
    · exact asked.record (.getStreamStat callId _) isGiven

theorem hangup (acts : ActsOn given before after) {callId : CallId}
    (isGiven : given "call_id" callId) (calls : CallLib) (code : Nat) (status : Status) :
    ActsOn given before (after.hangup calls callId code status).2 := by
  unfold Daemon.hangup
  split
  · exact acts
  · exact acts.record (.hangup callId code) isGiven

theorem answer (acts : ActsOn given before after) {callId : CallId}
    (isGiven : given "call_id" callId) (calls : CallLib) (code : Nat) (video : Bool)
    (status : Status) :
    ActsOn given before (after.answer calls callId code video status).2 := by
  unfold Daemon.answer
  split
  · exact acts
  · exact acts.record (.answer callId _ code) isGiven

theorem deviceSetAudio (acts : ActsOn given before after) {captureId playbackId : Int}
    (isCapture : given "capture_id" captureId) (isPlayback : given "playback_id" playbackId)
    (outcomes : Outcomes) :
    ActsOn given before (after.deviceSetAudio outcomes captureId playbackId).2 := by
  have asked := acts.record .sndIsActive trivial
  unfold Daemon.deviceSetAudio
  refine record ?_ _ ⟨isCapture, isPlayback⟩
  dsimp only
  split
  · have counted := asked.record .callGetCount trivial
    split
    · exact counted.record .setNoSndDev trivial
    · exact counted
  · exact asked

theorem modifyCaptureDev (acts : ActsOn given before after) {captureId : Int}
    (isCapture : given "capture_id" captureId) (outcomes : Outcomes) :
    ActsOn given before (after.modifyCaptureDev outcomes captureId) := by
  have created := acts.record .poolCreate trivial
  unfold Daemon.modifyCaptureDev
  split
  · exact acts
  · dsimp only
    split
    · have asked := created.record (.accGetConfig after.accId) trivial
      split
      · exact asked
      · rename_i config read
        have modified := asked.record
          (.accModify after.accId { config with vidCapDev := captureId }) isCapture
        split
        · exact modified.record (.accGetConfig after.accId) trivial
        · exact modified
    · exact created

theorem deviceSetVideoCapture (acts : ActsOn given before after) {captureId : Int}
    (isCapture : given "capture_id" captureId) (outcomes : Outcomes) :
    ActsOn given before (after.deviceSetVideoCapture outcomes captureId).2 := by
  have asked := acts.record (.vidDevGetInfo captureId) isCapture
  unfold Daemon.deviceSetVideoCapture
  dsimp only
  split
  · exact asked
  · split
    · exact asked
    · refine modifyCaptureDev ?_ isCapture outcomes
      exact ⟨asked.requests, .inr isCapture, asked.ringTimeoutSec⟩

/-! ### The commands -/

theorem cmdCallHangup
    (reads : ∀ number, getIntMember build params "call_id" = some number → given "call_id" number) :
    ActsOn given daemon (daemon.cmdCallHangup build outcomes params).2 := by
  unfold Daemon.cmdCallHangup
  split
  · exact refl given daemon
  · exact (refl given daemon).hangup (reads _ ‹_›) ..

theorem cmdCallGetInfo
    (reads : ∀ number, getIntMember build params "call_id" = some number → given "call_id" number) :
    ActsOn given daemon (daemon.cmdCallGetInfo build outcomes params).2 := by
  unfold Daemon.cmdCallGetInfo
  split
  · exact refl given daemon
  · rename_i callId found
    have isGiven := reads callId found
    have asked := (refl given daemon).getInfo isGiven build.calls outcomes.answers 0
    dsimp only
    split
    · exact asked
    · exact (asked.getRtpCounters isGiven _ _ 1 .audio).getRtpCounters isGiven _ _ 2 .video

theorem cmdCallAnswer
    (reads : ∀ number, getIntMember build params "call_id" = some number → given "call_id" number) :
    ActsOn given daemon (daemon.cmdCallAnswer build outcomes params).2 := by
  unfold Daemon.cmdCallAnswer
  split
  · exact refl given daemon
  · rename_i callId found
    have isGiven := reads callId found
    dsimp only
    split
    · exact (refl given daemon).answer isGiven ..
    · have asked := (refl given daemon).getInfo isGiven build.calls outcomes.answers 0
      split
      · exact asked
      · exact asked.answer isGiven ..

theorem cmdDeviceSetAudio
    (captures : ∀ number, getIntMember build params "capture_id" = some number →
      given "capture_id" number)
    (plays : ∀ number, getIntMember build params "playback_id" = some number →
      given "playback_id" number) :
    ActsOn given daemon (daemon.cmdDeviceSetAudio build outcomes params).2 := by
  unfold Daemon.cmdDeviceSetAudio
  split
  · rename_i captureId playbackId isCapture isPlayback
    exact (refl given daemon).deviceSetAudio (captures _ isCapture) (plays _ isPlayback) outcomes
  · exact refl given daemon

theorem cmdDeviceSetVideo
    (captures : ∀ number, getIntMember build params "capture_id" = some number →
      given "capture_id" number) :
    ActsOn given daemon (daemon.cmdDeviceSetVideo build outcomes params).2 := by
  unfold Daemon.cmdDeviceSetVideo
  split
  · exact (refl given daemon).deviceSetVideoCapture (captures _ ‹_›) outcomes
  · exact refl given daemon

theorem cmdConfigSetRingTimeout
    (reads : ∀ number, getIntMember build params "seconds" = some number →
      given "seconds" number) :
    ActsOn given daemon (daemon.cmdConfigSetRingTimeout build params).2 := by
  have unasked := refl given daemon
  unfold Daemon.cmdConfigSetRingTimeout
  split
  · exact unasked
  · rename_i seconds found
    split
    · exact unasked
    · rename_i nonneg
      obtain ⟨value, -, rfl⟩ := getIntMember_eq_some.mp found
      have same := unsigned_of_nonneg (not_lt.mp nonneg) (build.conversion.toInt_range value).2
      refine ⟨unasked.requests, unasked.videoCapture, .inr ?_⟩
      dsimp only [setRingTimeout]
      rw [same]
      exact reads _ found

/-- A command acts on what `get_int_member` reads. -/
theorem runCmd (takes : fn.integers ≠ [])
    (reads : ∀ name ∈ fn.integers, ∀ number, getIntMember build params name = some number →
      given name number) :
    ActsOn given daemon (daemon.runCmd build outcomes params fn).2 := by
  cases fn with
  | callHangup => exact cmdCallHangup (reads _ List.mem_cons_self)
  | callAnswer => exact cmdCallAnswer (reads _ List.mem_cons_self)
  | callGetInfo => exact cmdCallGetInfo (reads _ List.mem_cons_self)
  | deviceSetAudio =>
      exact cmdDeviceSetAudio (reads _ List.mem_cons_self)
        (reads _ (List.mem_cons_of_mem _ List.mem_cons_self))
  | deviceSetVideo => exact cmdDeviceSetVideo (reads _ List.mem_cons_self)
  | configSetRingTimeout => exact cmdConfigSetRingTimeout (reads _ List.mem_cons_self)
  | _ => exact (takes rfl).elim

end ActsOn

/-- When an `int` holds what was sent, it is what a command acts on. -/
theorem runCmd_exact (takes : fn.integers ≠ []) (ints : fn.SentInts params) :
    ActsOn (fun name number => Sent params name number) daemon
      (daemon.runCmd build outcomes params fn).2 := by
  refine ActsOn.runCmd takes fun name member number read => ?_
  obtain ⟨value, sent, rfl⟩ := getIntMember_eq_some.mp read
  rwa [build.conversion.toInt_of_isInt (ints name member value sent)]

namespace Idle

theorem refl (daemon : Daemon) : Idle daemon daemon :=
  ⟨[], by rw [List.append_nil], List.forall_mem_nil _⟩

/-- pjsua was asked for something. -/
theorem not_of_log {action : Action} {added : List Action}
    (grown : after.log = before.log ++ action :: added)
    (other : ∀ device, action ≠ .vidDevGetInfo device) : ¬Idle before after := by
  rintro ⟨asked, rfl, onlyDevices⟩
  have same : asked = action :: added := List.append_cancel_left grown
  obtain ⟨device, isDevice⟩ := onlyDevices action (by rw [same]; exact List.mem_cons_self)
  exact other device isDevice

end Idle

/-- The command answers `PJ_EINVAL` and has done nothing. -/
def Refuses (build : Build) (outcomes : Outcomes) (params : Option JsonElem) (daemon : Daemon)
    (fn : CmdFn) : Prop :=
  (daemon.runCmd build outcomes params fn).1.status = .einval ∧
    Idle daemon (daemon.runCmd build outcomes params fn).2

/-- A command about a call refuses a number exactly when the check of the id does. -/
theorem refuses_call_iff (namesCall : fn.NamesCall) {value : ℚ}
    (sent : Sent params "call_id" value) :
    daemon.Refuses build outcomes params fn ↔ build.RefusesCallId value := by
  rw [← build.refusesCallId_iff]
  have given : getIntMember build params "call_id" = some _ := getIntMember_sent sent
  constructor
  · rintro ⟨-, idle⟩
    by_contra valid
    obtain ⟨action, added, grown, other⟩ := runCmd_asks outcomes daemon namesCall given
      (by simpa using valid)
    exact Idle.not_of_log grown other idle
  · intro invalid
    have stray : daemon.runCmd build outcomes params fn = (.bare .einval, daemon) := by
      refine runCmd_strayId namesCall fun callId isGiven => ?_
      rw [given, Option.some_inj] at isGiven
      rwa [← isGiven]
    rw [Refuses, stray]
    exact ⟨rfl, Idle.refl daemon⟩

theorem deviceSetAudio_first (outcomes : Outcomes) (captureId playbackId : Int)
    (daemon : Daemon) : ∃ added, (daemon.deviceSetAudio outcomes captureId playbackId).2.log =
      daemon.log ++ .sndIsActive :: added := by
  let selecting : Action := .setSndDev2 captureId playbackId sndDevNoImmediateOpen
  unfold deviceSetAudio
  dsimp only
  split
  · split
    · exact ⟨[.callGetCount, .setNoSndDev, selecting], by simp [selecting]⟩
    · exact ⟨[.callGetCount, selecting], by simp [selecting]⟩
  · exact ⟨[selecting], by simp [selecting]⟩

/-- Two numbers are never refused as audio devices. -/
theorem refuses_audio_iff : daemon.Refuses build outcomes params .deviceSetAudio ↔
    ∀ captureId playbackId, Sent params "capture_id" captureId →
      ¬Sent params "playback_id" playbackId := by
  unfold Refuses runCmd cmdDeviceSetAudio
  dsimp only
  split
  · rename_i captureId playbackId isCapture isPlayback
    obtain ⟨capture, sentCapture, -⟩ := getIntMember_eq_some.mp isCapture
    obtain ⟨playback, sentPlayback, -⟩ := getIntMember_eq_some.mp isPlayback
    obtain ⟨added, grown⟩ := deviceSetAudio_first outcomes captureId playbackId daemon
    refine iff_of_false ?_ fun unsent => unsent capture playback sentCapture sentPlayback
    rintro ⟨-, idle⟩
    exact Idle.not_of_log grown nofun idle
  · rename_i missing
    refine iff_of_true ⟨rfl, Idle.refl daemon⟩ fun capture playback sentCapture sentPlayback => ?_
    exact missing _ _ (getIntMember_sent sentCapture) (getIntMember_sent sentPlayback)

/-- A video device is refused exactly when pjmedia has no such device that can capture. -/
theorem refuses_video_iff {value : ℚ} (sent : Sent params "capture_id" value) :
    daemon.Refuses build outcomes params .deviceSetVideo ↔ outcomes.RefusesDevice := by
  unfold Refuses runCmd cmdDeviceSetVideo
  dsimp only
  rw [getIntMember_sent sent]
  generalize build.conversion.toInt value = captureId
  have asked : Idle daemon (daemon.record (.vidDevGetInfo captureId)) := by
    refine ⟨[.vidDevGetInfo captureId], rfl, fun action member => ⟨captureId, ?_⟩⟩
    exact List.mem_singleton.mp member
  unfold deviceSetVideoCapture bareCmd Outcomes.RefusesDevice
  cases outcomes.vidDevInfo with
  | error status => exact iff_of_true ⟨rfl, asked⟩ nofun
  | ok info =>
      cases capable : info.dir.encoding with
      | false =>
          refine iff_of_true ?_ ?_
          · dsimp only
            rw [capable]
            exact ⟨rfl, asked⟩
          · rintro _ ⟨⟩
            exact capable
      | true =>
          refine iff_of_false ?_ fun incapable => ?_
          · dsimp only
            rw [capable]
            exact fun refused => nomatch refused.1
          · rw [incapable info rfl] at capable
            cases capable

/-- A number of seconds is refused exactly when it is converted to a negative one. -/
theorem refuses_seconds_iff {value : ℚ} (sent : Sent params "seconds" value) :
    daemon.Refuses build outcomes params .configSetRingTimeout ↔ build.RefusesSeconds value := by
  rw [← build.refusesSeconds_iff]
  unfold Refuses runCmd cmdConfigSetRingTimeout
  dsimp only
  rw [getIntMember_sent sent]
  dsimp only
  split
  · exact iff_of_true ⟨rfl, Idle.refl daemon⟩ ‹_›
  · exact iff_of_false (fun refused => nomatch refused.1) ‹_›

theorem setRingTimeout_status {value : ℚ} (sent : Sent params "seconds" value) :
    (daemon.cmdConfigSetRingTimeout build params).1.status = .success ↔
      ¬build.RefusesSeconds value := by
  rw [← build.refusesSeconds_iff]
  unfold cmdConfigSetRingTimeout
  rw [getIntMember_sent sent]
  dsimp only
  split
  · exact iff_of_false nofun (not_not.mpr ‹_›)
  · exact iff_of_true rfl ‹_›

/-- Where one number is sent, the strays are refused when the check for it fails. -/
theorem refuses_strays_iff (only : fn.integers = [name]) {refused : ℚ → Prop}
    (check : ∀ value, Sent params name value →
      (daemon.Refuses build outcomes params fn ↔ refused value)) :
    (¬fn.SentInts params → daemon.Refuses build outcomes params fn) ↔
      ∀ value, Sent params name value → IsInt value ∨ refused value := by
  unfold CmdFn.SentInts
  rw [only, List.forall_mem_singleton]
  constructor
  · intro refuses value sent
    by_cases isInt : IsInt value
    · exact .inl isInt
    · exact .inr ((check value sent).mp (refuses fun ints => isInt (ints value sent)))
  · intro safe strays
    obtain ⟨value, stray⟩ := not_forall.mp strays
    obtain ⟨sent, notInt⟩ := Classical.not_imp.mp stray
    exact (check value sent).mpr ((safe value sent).resolve_left notInt)

/-- For two numbers that is a matter of both. -/
theorem audio_strays_iff : CmdFn.IntegersSafe build outcomes params .deviceSetAudio ↔
    (¬CmdFn.deviceSetAudio.SentInts params → ∀ captureId playbackId,
      Sent params "capture_id" captureId → ¬Sent params "playback_id" playbackId) := by
  unfold CmdFn.IntegersSafe CmdFn.SentInts CmdFn.integers
  dsimp only
  rw [List.forall_mem_cons, List.forall_mem_singleton]
  constructor
  · intro safe strays capture playback sentCapture sentPlayback
    obtain ⟨isCapture, isPlayback⟩ := safe capture playback sentCapture sentPlayback
    refine strays ⟨fun value sent => ?_, fun value sent => ?_⟩
    · rwa [sent_unique sent sentCapture]
    · rwa [sent_unique sent sentPlayback]
  · intro refused capture playback sentCapture sentPlayback
    by_contra stray
    refine refused (fun ints => stray ?_) capture playback sentCapture sentPlayback
    exact ⟨ints.1 capture sentCapture, ints.2 playback sentPlayback⟩

/-- A request is safe when strays are refused and the seconds that are accepted fit. -/
theorem integersSafe_iff (daemon : Daemon) : fn.IntegersSafe build outcomes params ↔
    (¬fn.SentInts params → daemon.Refuses build outcomes params fn) ∧
    (fn = .configSetRingTimeout → ∀ value, Sent params "seconds" value → IsInt value →
      ¬build.RefusesSeconds value → FitsFloat value) := by
  cases fn with
  | callHangup =>
      rw [and_iff_left nofun]
      exact (refuses_strays_iff rfl fun _ => refuses_call_iff (.inl rfl)).symm
  | callAnswer =>
      rw [and_iff_left nofun]
      exact (refuses_strays_iff rfl fun _ => refuses_call_iff (.inr (.inl rfl))).symm
  | callGetInfo =>
      rw [and_iff_left nofun]
      exact (refuses_strays_iff rfl fun _ => refuses_call_iff (.inr (.inr rfl))).symm
  | deviceSetAudio =>
      rw [and_iff_left nofun, refuses_audio_iff]
      exact audio_strays_iff
  | deviceSetVideo =>
      rw [and_iff_left nofun]
      exact (refuses_strays_iff rfl fun _ => refuses_video_iff).symm
  | configSetRingTimeout =>
      rw [refuses_strays_iff rfl fun _ => refuses_seconds_iff]
      constructor
      · intro safe
        refine ⟨fun value sent => (safe value sent).imp_left And.left, ?_⟩
        intro _ value sent _ unrefused
        exact ((safe value sent).resolve_right unrefused).2
      · rintro ⟨safe, fits⟩ value sent
        by_cases refused : build.RefusesSeconds value
        · exact .inr refused
        · have isInt := (safe value sent).resolve_right refused
          exact .inl ⟨isInt, fits rfl value sent isInt refused⟩
  | _ => exact iff_of_true trivial ⟨fun strays => (strays (List.forall_mem_nil _)).elim, nofun⟩

theorem yieldsRingTimeout_iff {value : ℚ} :
    daemon.YieldsRingTimeout value ↔ toFloat daemon.ringTimeoutSec = value := by
  unfold YieldsRingTimeout cmdConfigGetRingTimeout addNumber
  dsimp only [HandlerResult.reply]
  rw [and_iff_right rfl, List.cons.injEq, and_iff_left rfl, Prod.mk.injEq, and_iff_right rfl,
    Json.num.injEq]

/-- The seconds that are accepted are not negative, and the daemon keeps them. -/
theorem runCmd_accepts {value : ℚ} (sent : Sent params "seconds" value) (isInt : IsInt value)
    (accepted : ¬build.RefusesSeconds value) :
    0 ≤ value ∧
      ((daemon.runCmd build outcomes params .configSetRingTimeout).2.YieldsRingTimeout value ↔
        FitsFloat value) := by
  rw [← build.refusesSeconds_iff, not_lt] at accepted
  have exactly := build.conversion.toInt_of_isInt isInt
  have kept := unsigned_of_nonneg accepted (build.conversion.toInt_range value).2
  refine ⟨?_, ?_⟩
  · rw [← exactly]
    exact_mod_cast accepted
  · unfold runCmd cmdConfigSetRingTimeout
    dsimp only
    rw [getIntMember_sent sent]
    dsimp only
    rw [if_neg (not_lt.mpr accepted), yieldsRingTimeout_iff]
    dsimp only [setRingTimeout]
    rw [kept]
    constructor
    · intro same number isNumber
      rw [← exactly, Int.cast_inj] at isNumber
      rwa [← isNumber]
    · intro fits
      exact fits _ exactly.symm

end Daemon

/-! ## One step -/

namespace Sip

variable {build : Build} {sip : Sip} {input : SipInput}

theorem code_of_fail {id id' code code' message message' : Bytes}
    (same : fail id code message = fail id' code' message') : code = code' := by
  simp only [fail, addString, addBool, Json.obj.injEq, List.cons.injEq, Prod.mk.injEq,
    Json.str.injEq, true_and, and_true] at same
  exact same.2.1

/-- Only `PJ_EINVAL` is reported as `invalid_params`. -/
theorem eq_einval_of_code {status : Status}
    (same : errorCodeFor status = ascii "invalid_params") : status = .einval := by
  have distinct : ascii "pjsua_error" ≠ ascii "invalid_params" := by decide
  cases status with
  | einval => rfl
  | eexists | einvalidop => exact absurd same (by decide)
  | _ => exact absurd same distinct

/-- A request that is answered with `invalid_params` and does nothing is one that its handler
refuses. -/
theorem refuses_iff {line : Bytes} {outcomes : Outcomes} {fn : CmdFn}
    {params : Option JsonElem} (runs : Daemon.executed build line = some (fn, params)) :
    ((∃ id, (sip.daemon.dispatchLine build outcomes line).1 =
        .answered (fail id (ascii "invalid_params") (build.lib.strerror .einval)) (some fn)) ∧
      sip.daemon.Idle (sip.step build (.line line outcomes)).daemon) ↔
    sip.daemon.Refuses build outcomes params fn := by
  obtain ⟨id, answered⟩ := Daemon.dispatchLine_executed outcomes sip.daemon runs
  rw [step_executed runs, answered, Daemon.Refuses]
  dsimp only
  refine and_congr_left fun _ => ⟨?_, fun invalid => ⟨id, ?_⟩⟩
  · rintro ⟨other, same⟩
    have response := (Dispatched.answered.inj same).1
    by_cases succeeded : (sip.daemon.runCmd build outcomes params fn).1.status = .success
    · have ok := Daemon.responseFor_ok build.lib id (sip.daemon.runCmd build outcomes params fn).1
      rw [response, decide_eq_true succeeded] at ok
      cases ok
    · rw [Daemon.responseFor, if_pos succeeded] at response
      exact eq_einval_of_code (code_of_fail response)
  · rw [Daemon.responseFor, invalid, if_pos (by decide)]
    rfl

/-- What a step accepts is what its `config.set_ring_timeout` was sent and does not refuse. -/
theorem accepted_eq_some {value : ℚ} : sip.accepted build input = some value ↔
    ∃ line outcomes params, input = .line line outcomes ∧
      Daemon.executed build line = some (.configSetRingTimeout, params) ∧
      Sent params "seconds" value ∧ ¬build.RefusesSeconds value := by
  constructor
  · intro accepted
    unfold Sip.accepted at accepted
    split at accepted
    · rename_i line outcomes
      split at accepted
      · rename_i params runs
        split at accepted
        · rename_i sentValue sent
          split at accepted
          · rename_i status
            cases accepted
            exact ⟨line, outcomes, params, rfl, runs, sent,
              (Daemon.setRingTimeout_status sent).mp status⟩
          · cases accepted
        · cases accepted
      · cases accepted
    · cases accepted
  · rintro ⟨line, outcomes, params, rfl, runs, sent, unrefused⟩
    have status : (sip.daemon.cmdConfigSetRingTimeout build params).1.status = .success :=
      (Daemon.setRingTimeout_status sent).mpr unrefused
    unfold Sent at sent
    unfold Sip.accepted
    dsimp only
    rw [runs]
    dsimp only
    rw [sent]
    exact if_pos status

/-- One step takes integers exactly or refuses them just when the numbers sent are safe. -/
theorem takesIntegers_iff : sip.TakesIntegers build input ↔ input.IntegersSafe build := by
  constructor
  · rintro takes line outcomes fn params rfl runs
    refine (Daemon.integersSafe_iff sip.daemon).mpr ⟨fun strays => ?_, ?_⟩
    · exact (refuses_iff runs).mp (takes.refuses line outcomes fn params rfl runs strays)
    · rintro rfl value sent isInt unrefused
      have accepted : sip.accepted build (.line line outcomes) = some value :=
        accepted_eq_some.mpr ⟨line, outcomes, params, rfl, runs, sent, unrefused⟩
      have yields := (takes.accepts value accepted).2.2
      rw [step_executed runs] at yields
      exact (Daemon.runCmd_accepts sent isInt unrefused).2.mp yields
  · intro safe
    refine ⟨?_, ?_, ?_⟩
    · rintro line outcomes fn params rfl runs takes ints
      rw [step_executed runs]
      exact Daemon.runCmd_exact takes ints
    · rintro line outcomes fn params rfl runs strays
      have safeHere := (Daemon.integersSafe_iff sip.daemon).mp
        (safe line outcomes fn params rfl runs)
      exact (refuses_iff runs).mpr (safeHere.1 strays)
    · intro value accepted
      obtain ⟨line, outcomes, params, rfl, runs, sent, unrefused⟩ := accepted_eq_some.mp accepted
      obtain ⟨isInt, fits⟩ :=
        (safe line outcomes .configSetRingTimeout params rfl runs value sent).resolve_right
          unrefused
      obtain ⟨nonneg, yields⟩ := Daemon.runCmd_accepts sent isInt unrefused
      rw [step_executed runs]
      exact ⟨isInt, nonneg, yields.mpr fits⟩

end Sip

namespace Daemon

variable {build : Build} {params : Option JsonElem} {daemon : Daemon}

/-- A number that is not accepted is not stored. -/
theorem unset_ringTimeoutSec
    (unset : ∀ value, Sent params "seconds" value → build.RefusesSeconds value) :
    (daemon.cmdConfigSetRingTimeout build params).2 = daemon := by
  unfold cmdConfigSetRingTimeout
  split
  · rfl
  · rename_i seconds isSeconds
    obtain ⟨value, sent, rfl⟩ := getIntMember_eq_some.mp isSeconds
    rw [if_pos ((build.refusesSeconds_iff value).mpr (unset value sent))]

end Daemon

/-! ## Whole runs -/

namespace Sip

variable {build : Build} {sip : Sip} {input : SipInput}

/-- The ring timeout stays as it is when no number is accepted. -/
theorem ringTimeoutSec_of_unaccepted (unset : sip.accepted build input = none) :
    (sip.step build input).daemon.ringTimeoutSec = sip.daemon.ringTimeoutSec := by
  by_cases sets : ∃ line outcomes params, input = .line line outcomes ∧
      Daemon.executed build line = some (.configSetRingTimeout, params)
  · obtain ⟨line, outcomes, params, rfl, runs⟩ := sets
    rw [step_executed runs]
    refine congrArg Daemon.ringTimeoutSec (Daemon.unset_ringTimeoutSec ?_)
    intro value sent
    by_contra unrefused
    have accepted : sip.accepted build (.line line outcomes) = some value :=
      accepted_eq_some.mpr ⟨line, outcomes, params, rfl, runs, sent, unrefused⟩
    rw [unset] at accepted
    cases accepted
  · exact step_ringTimeoutSec fun line outcomes params isLine runs =>
      sets ⟨line, outcomes, params, isLine, runs⟩

theorem lastAccepted_concat (before : List SipInput) :
    sip.lastAccepted build (before ++ [input]) =
      ((run build sip before).accepted build input).or (sip.lastAccepted build before) := by
  induction before generalizing sip with
  | nil => simp [lastAccepted]
  | cons first rest ih =>
      rw [List.cons_append, lastAccepted, ih, lastAccepted, Option.or_assoc]
      rfl

/-- A safe step keeps the number that was accepted last. -/
theorem YieldsLastAccepted.concat {before : List SipInput}
    (yields : YieldsLastAccepted build before (run build start before))
    (safe : input.IntegersSafe build) :
    YieldsLastAccepted build (before ++ [input]) ((run build start before).step build input) := by
  intro value isLast
  rw [lastAccepted_concat] at isLast
  cases accepted : (run build start before).accepted build input with
  | some newest =>
      rw [accepted] at isLast
      cases isLast
      exact ((takesIntegers_iff.mpr safe).accepts value accepted).2.2
  | none =>
      rw [accepted] at isLast
      have kept := yields value isLast
      rw [Daemon.yieldsRingTimeout_iff] at kept ⊢
      rwa [ringTimeoutSec_of_unaccepted accepted]

/-- In every run integers are taken exactly or refused, and `config.get_ring_timeout` yields the
number that was accepted last, exactly when the numbers sent are safe. -/
theorem integers_exact_iff (build : Build) (inputs : List SipInput) :
    (Machine.Along (step build) (TakesIntegers build) start inputs ∧
      ∀ before after, inputs = before ++ after →
        YieldsLastAccepted build before (run build start before)) ↔
    Machine.Along (step build) (fun _ input => input.IntegersSafe build) start inputs := by
  have stepwise : Machine.Along (step build) (TakesIntegers build) start inputs ↔
      Machine.Along (step build) (fun _ input => input.IntegersSafe build) start inputs :=
    Machine.along_congr fun _ _ => takesIntegers_iff
  refine ⟨fun both => stepwise.mp both.1, fun safe => ⟨stepwise.mpr safe, ?_⟩⟩
  rintro before after rfl
  have earlier := (Machine.along_append.mp safe).1
  exact Machine.invariant_traced (fun _ _ yields safeHere => yields.concat safeHere) nofun earlier

/-- A line that limits the ringing to -0.5 seconds. -/
def halfSecond : Bytes := requestLine "config.set_ring_timeout" "\"seconds\":-0.5"

/-- The limit is accepted, as one of 0 seconds. -/
theorem halfSecond_accepted :
    let build := sampleBuild [(halfSecond, request "config.set_ring_timeout"
      [(ascii "seconds", .num (-1 / 2))])]
    start.accepted build (.line halfSecond .sample) = some (-1 / 2) ∧
    ¬(Machine.Along (step build) (TakesIntegers build) start [.line halfSecond .sample] ∧
      ∀ before after, [.line halfSecond .sample] = before ++ after →
        YieldsLastAccepted build before (run build start before)) := by
  intro build
  have accepted : start.accepted build (.line halfSecond .sample) = some (-1 / 2) := by
    decide +kernel
  refine ⟨accepted, ?_⟩
  rintro ⟨⟨takes, -⟩, -⟩
  have nonneg := (takes.accepts _ accepted).2.1
  norm_num at nonneg

end Sip

end Pjsocky
