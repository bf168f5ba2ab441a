import Pjsocky.Call.Video

/-!
# Searches of a media list

Four loops of the daemon look for streams in a call's media: two of them set `has_audio` and
`has_video`, `find_sending_video` looks for the stream that the watchdog would remove, and
`pjsocky_call_get_rtp_counters` for the stream whose counters it reads. The last two agree on
lists with one video stream. They differ on a list in which a stream that only receives comes
before the one that sends: the watchdog then removes a stream for the counter of another.
-/

namespace Pjsocky

open Support

/-- An active stream of a type. -/
def CallMedia.IsActive (type : MediaType) (stream : CallMedia) : Prop :=
  stream.type = type ∧ stream.status = .active

instance (type : MediaType) (stream : CallMedia) : Decidable (stream.IsActive type) :=
  inferInstanceAs (Decidable (_ ∧ _))

/-- The first active stream of a type, by its index. -/
def FirstActive (type : MediaType) (media : List CallMedia) (medIdx : Nat) : Prop :=
  (∃ stream, media[medIdx]? = some stream ∧ stream.IsActive type) ∧
  ∀ earlier < medIdx, ∀ stream, media[earlier]? = some stream → ¬stream.IsActive type

/-- One iteration of the loop of `build_call_media_state_data` and of `cmd_call_get_info`, on
`has_audio` and `has_video`. -/
def flagStream (flags : Bool × Bool) (stream : CallMedia) : Bool × Bool :=
  if stream.status ≠ .active then flags
  else if stream.type = .audio then (true, flags.2)
  else if stream.type = .video then (flags.1, true)
  else flags

/-- The whole loop. -/
def mediaFlags (media : List CallMedia) : Bool × Bool := media.foldl flagStream (false, false)

section Searches

variable {type : MediaType} {media : List CallMedia} {medIdx : Nat}

theorem foldl_flagStream (media : List CallMedia) (flags : Bool × Bool) :
    media.foldl flagStream flags =
      (flags.1 || hasActive .audio media, flags.2 || hasActive .video media) := by
  induction media generalizing flags with
  | nil => simp [hasActive]
  | cons stream rest ih =>
      rw [List.foldl_cons, ih]
      by_cases active : stream.status = .active
      · by_cases audio : stream.type = .audio
        · simp [flagStream, hasActive, active, audio]
        · by_cases video : stream.type = .video
          · simp [flagStream, hasActive, active, video]
          · simp [flagStream, hasActive, active, audio, video]
      · simp [flagStream, hasActive, active]

/-- The flags say whether there is an active stream of each type. -/
theorem mediaFlags_eq (media : List CallMedia) :
    mediaFlags media = (hasActive .audio media, hasActive .video media) :=
  foldl_flagStream media (false, false)

/-- The search of `pjsocky_call_get_rtp_counters` finds the first active stream. -/
theorem findIdx?_eq_some_iff_firstActive :
    (media.findIdx? fun stream => stream.type = type && stream.status = .active) = some medIdx ↔
      FirstActive type media medIdx := by
  rw [List.findIdx?_eq_some_iff_getElem]
  constructor
  · rintro ⟨inside, found, before⟩
    refine ⟨⟨_, List.getElem?_eq_getElem inside, by simpa [CallMedia.IsActive] using found⟩, ?_⟩
    intro earlier less stream at_earlier isActive
    obtain ⟨_, rfl⟩ := List.getElem?_eq_some_iff.mp at_earlier
    exact before earlier less (by simpa [CallMedia.IsActive] using isActive)
  · rintro ⟨⟨stream, at_index, isActive⟩, before⟩
    obtain ⟨inside, rfl⟩ := List.getElem?_eq_some_iff.mp at_index
    refine ⟨inside, by simpa [CallMedia.IsActive] using isActive, fun earlier less found => ?_⟩
    refine before earlier less _ (List.getElem?_eq_getElem (by omega)) ?_
    simpa [CallMedia.IsActive] using found

/-- It finds none just when the flag of the type is down. -/
theorem findIdx?_eq_none_iff_hasActive :
    (media.findIdx? fun stream => stream.type = type && stream.status = .active) = none ↔
      hasActive type media = false := by
  simp [hasActive, imp.swap]

/-- The stream that sends is an active video stream. -/
theorem findSendingVideo_isActive (sends : findSendingVideo media = some medIdx) :
    ∃ stream, media[medIdx]? = some stream ∧ stream.IsActive .video := by
  obtain ⟨inside, found, -⟩ := List.findIdx?_eq_some_iff_getElem.mp sends
  simp only [Bool.and_eq_true, decide_eq_true_iff] at found
  exact ⟨_, List.getElem?_eq_getElem inside, found.1⟩

/-- It is the first one when no active video stream comes before it. -/
theorem firstActive_iff_of_sending (sends : findSendingVideo media = some medIdx) :
    FirstActive .video media medIdx ↔
      ∀ earlier < medIdx, ∀ stream, media[earlier]? = some stream → ¬stream.IsActive .video :=
  and_iff_right (findSendingVideo_isActive sends)

end Searches

namespace Daemon

variable {lib : CallLib} {answers : Answers} {reading : Nat} {callId : CallId} {info : CallInfo}
variable {type : MediaType} {medIdx : Nat}

/-- The counters of a call whose info is read are those of its first active stream. -/
theorem getRtpCounters_found (daemon : Daemon) (valid : lib.isValidCallId callId = true)
    (read : answers.info reading = .ok info) (first : FirstActive type info.media medIdx) :
    daemon.getRtpCounters lib answers reading callId type =
      (answers.streamStat medIdx,
        (daemon.record (.getInfo callId)).record (.getStreamStat callId medIdx)) := by
  simp [getRtpCounters, getInfo, valid, read, findIdx?_eq_some_iff_firstActive.mpr first]

/-- There are none without an active stream. -/
theorem getRtpCounters_missing (daemon : Daemon) (valid : lib.isValidCallId callId = true)
    (read : answers.info reading = .ok info) (none : hasActive type info.media = false) :
    ∃ status, daemon.getRtpCounters lib answers reading callId type =
      (.error status, daemon.record (.getInfo callId)) := by
  simp [getRtpCounters, getInfo, valid, read, findIdx?_eq_none_iff_hasActive.mpr none]

/-- A tick of the watchdog that finds its call confirmed and sending is decided by the
counters it reads. -/
theorem videoWatchdogCb_sending (lib : CallLib) (daemon : Daemon)
    (read : answers.info 0 = .ok info) (confirmed : info.state = .confirmed)
    (sends : findSendingVideo info.media = some medIdx) :
    daemon.videoWatchdogCb lib answers =
      let callId := (daemon.timers .watchdog).userData
      let result := ((daemon.clearScheduled .watchdog).record (.getInfo callId)).getRtpCounters lib
        answers 1 callId .video
      result.2.judgeVideo answers callId medIdx result.1 := by
  unfold videoWatchdogCb
  simp only [read, confirmed, sends]
  rfl

end Daemon

/-! ## The watchdog's two searches -/

/-- With this info, the counter that the watchdog reads is that of a given stream, and the
stream is judged by it. -/
structure MeasuresStream (info : CallInfo) (medIdx : Nat) : Prop where
  counter : ∀ (lib : CallLib) (answers : Answers) (reading : Nat) (callId : CallId)
    (daemon : Daemon), lib.isValidCallId callId = true → answers.info reading = .ok info →
    daemon.getRtpCounters lib answers reading callId .video =
      (answers.streamStat medIdx,
        (daemon.record (.getInfo callId)).record (.getStreamStat callId medIdx))
  judged : ∀ (lib : CallLib) (answers : Answers) (daemon : Daemon) (callId : CallId),
    (daemon.timers .watchdog).userData = callId → lib.isValidCallId callId = true →
    answers.info 0 = .ok info → answers.info 1 = .ok info → info.state = .confirmed →
    daemon.videoWatchdogCb lib answers =
      Daemon.judgeVideo answers callId medIdx (answers.streamStat medIdx)
        ((((daemon.clearScheduled .watchdog).record (.getInfo callId)).record
          (.getInfo callId)).record (.getStreamStat callId medIdx))

/-- The watchdog measures the stream that it would remove exactly when no active video stream
comes before that one. -/
theorem watchdog_measures_iff {info : CallInfo} {medIdx : Nat}
    (sends : findSendingVideo info.media = some medIdx) :
    MeasuresStream info medIdx ↔
      ∀ earlier < medIdx, ∀ stream, info.media[earlier]? = some stream →
        ¬stream.IsActive .video := by
  rw [← firstActive_iff_of_sending sends]
  constructor
  · intro measures
    obtain ⟨stream, isAt, isActive⟩ := findSendingVideo_isActive sends
    cases found : info.media.findIdx? fun stream =>
        stream.type = .video && stream.status = .active with
    | none =>
        have inactive := List.findIdx?_eq_none_iff.mp found stream (List.mem_of_getElem? isAt)
        simp [isActive.1, isActive.2] at inactive
    | some other =>
        have first := findIdx?_eq_some_iff_firstActive.mp found
        -- The request names the stream that was found.
        let answers : Answers := ⟨fun _ => .ok info, fun _ => .ok ⟨0, 0⟩, fun _ => true⟩
        have own := measures.counter sampleCallLib answers 0 0 .start rfl rfl
        have other : Daemon.start.getRtpCounters sampleCallLib answers 0 0 .video = _ :=
          Daemon.start.getRtpCounters_found rfl rfl first
        have logs := congrArg (fun result => result.2.log) (own.symm.trans other)
        simp only [Daemon.record_log, List.append_cancel_left_eq, List.cons.injEq,
          Action.getStreamStat.injEq, true_and, and_true] at logs
        rw [logs]
        exact first
  · intro first
    refine ⟨fun lib answers reading callId daemon valid read =>
      daemon.getRtpCounters_found valid read first, ?_⟩
    rintro lib answers daemon callId rfl valid early late confirmed
    rw [Daemon.videoWatchdogCb_sending lib daemon early confirmed sends]
    simp only [Daemon.getRtpCounters_found _ valid late first]

/-- An active audio stream in both directions. -/
def sampleAudio : CallMedia := ⟨.audio, .active, ⟨true, true⟩, 0⟩

/-- A call with one video stream is judged by that stream. -/
theorem oneVideo_measured :
    findSendingVideo [sampleAudio, sampleVideo] = some 1 ∧
      MeasuresStream (sampleInfo 0 .confirmed [sampleAudio, sampleVideo]) 1 := by
  have sends : findSendingVideo [sampleAudio, sampleVideo] = some 1 := by decide
  refine ⟨sends, (watchdog_measures_iff sends).mpr ?_⟩
  intro earlier less stream isAt
  obtain rfl : earlier = 0 := by omega
  cases isAt
  decide

/-- A video stream that only receives. -/
def receivedVideo : CallMedia := ⟨.video, .active, ⟨false, true⟩, 0⟩

/-- A call with such a stream before the one that sends: the first has sent nothing, the
second this many packets. -/
def mixedAnswers (sent : Nat) : Answers where
  info _ := .ok (sampleInfo 0 .confirmed [receivedVideo, sampleVideo])
  streamStat medIdx := if medIdx = 1 then .ok ⟨sent, 0⟩ else .ok ⟨0, 1⟩
  schedule _ := true

/-- The second stream is removed while its counter grows. -/
theorem mixedStreams_removed :
    findSendingVideo [receivedVideo, sampleVideo] = some 1 ∧
    ¬MeasuresStream (sampleInfo 0 .confirmed [receivedVideo, sampleVideo]) 1 ∧
    (((Daemon.start.armVideoWatchdog (mixedAnswers 0) 0
      [receivedVideo, sampleVideo]).videoWatchdogCb sampleCallLib
      (mixedAnswers 100)).videoWatchdogCb sampleCallLib (mixedAnswers 200)).log.getLast? =
        some (.setVidStrm 0 (.remove 1)) := by
  refine ⟨by decide, fun measures => ?_, rfl⟩
  have own := measures.counter sampleCallLib (mixedAnswers 100) 0 0 .start rfl rfl
  have sent := congrArg (fun result => result.1.toOption.map RtpCounters.tx) own
  exact absurd sent (by decide)

end Pjsocky
