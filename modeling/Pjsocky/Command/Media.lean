import Pjsocky.Call.Media
import Pjsocky.Command.Sip

/-!
# What `call.get_info` reports of the media

`call.get_info` says whether a call has audio and video, as the `call_media_state` event does,
and adds the packet counters of each. The flags and the counters come from different loops over
the media list; a client can tell a silent stream from a missing one only because they agree.
-/

namespace Pjsocky

open Support

/-- The keys of `call.get_info` for a type of media. -/
structure MediaKeys where
  has : String
  tx : String
  rx : String

def audioKeys : MediaKeys := ⟨"has_audio", "audio_tx_packets", "audio_rx_packets"⟩
def videoKeys : MediaKeys := ⟨"has_video", "video_tx_packets", "video_rx_packets"⟩

/-- The result has both counters of a type, with these values. -/
def Counted (keys : MediaKeys) (result : Members) (counters : RtpCounters) : Prop :=
  jsonFind (.obj result) keys.tx = some (.num (toFloat counters.tx)) ∧
    jsonFind (.obj result) keys.rx = some (.num (toFloat counters.rx))

/-- The result has neither counter of a type. -/
def Uncounted (keys : MediaKeys) (result : Members) : Prop :=
  jsonFind (.obj result) keys.tx = none ∧ jsonFind (.obj result) keys.rx = none

/-- A result agrees with the event on one type of media: `flag` is what the loop says, both
report it, and the counters are there, those of the first active stream, just when it is
true. -/
structure Reported (keys : MediaKeys) (type : MediaType) (flag : Bool) (answers : Answers)
    (media : List CallMedia) (event result : Members) : Prop where
  inResult : jsonFind (.obj result) keys.has = some (.bool flag)
  inEvent : jsonFind (.obj event) keys.has = some (.bool flag)
  present : flag = true → ∃ medIdx counters, FirstActive type media medIdx ∧
    answers.streamStat medIdx = .ok counters ∧ Counted keys result counters
  absent : flag = false → Uncounted keys result

section Members

variable {info : CallInfo} {audio video : Except Failure RtpCounters}

/-- The audio counters are found before those of the video. -/
theorem callGetInfoMembers_audio :
    (∀ counters, audio = .ok counters →
      Counted audioKeys (callGetInfoMembers info audio video) counters) ∧
    (∀ status, audio = .error status →
      Uncounted audioKeys (callGetInfoMembers info audio video)) := by
  constructor
  · rintro counters rfl
    exact ⟨rfl, rfl⟩
  · rintro status rfl
    cases video with
    | error _ => exact ⟨rfl, rfl⟩
    | ok _ => exact ⟨rfl, rfl⟩

theorem callGetInfoMembers_video :
    (∀ counters, video = .ok counters →
      Counted videoKeys (callGetInfoMembers info audio video) counters) ∧
    (∀ status, video = .error status →
      Uncounted videoKeys (callGetInfoMembers info audio video)) := by
  constructor
  · rintro counters rfl
    cases audio with
    | error _ => exact ⟨rfl, rfl⟩
    | ok _ => exact ⟨rfl, rfl⟩
  · rintro status rfl
    cases audio with
    | error _ => exact ⟨rfl, rfl⟩
    | ok _ => exact ⟨rfl, rfl⟩

end Members

/-- The statistics of every active stream can be read. -/
def Readable (answers : Answers) (media : List CallMedia) : Prop :=
  ∀ medIdx stream, media[medIdx]? = some stream → stream.status = .active →
    ∃ counters, answers.streamStat medIdx = .ok counters

namespace Daemon

variable {lib : CallLib} {answers : Answers} {callId : CallId} {info : CallInfo}

/-- The counters are read for a type just when the call has an active stream of it. -/
theorem getRtpCounters_reported (reading : Nat) (type : MediaType) (daemon : Daemon)
    (valid : lib.isValidCallId callId = true) (read : answers.info reading = .ok info)
    (readable : Readable answers info.media) :
    (hasActive type info.media = true ∧ ∃ medIdx counters, FirstActive type info.media medIdx ∧
      answers.streamStat medIdx = .ok counters ∧
      (daemon.getRtpCounters lib answers reading callId type).1 = .ok counters) ∨
    (hasActive type info.media = false ∧
      ∃ status, (daemon.getRtpCounters lib answers reading callId type).1 = .error status) := by
  cases found : info.media.findIdx? fun stream =>
      stream.type = type && stream.status = .active with
  | none =>
      have missing := findIdx?_eq_none_iff_hasActive.mp found
      obtain ⟨status, same⟩ := daemon.getRtpCounters_missing valid read missing
      exact .inr ⟨missing, status, congrArg Prod.fst same⟩
  | some medIdx =>
      have first := findIdx?_eq_some_iff_firstActive.mp found
      obtain ⟨stream, isAt, isActive⟩ := first.1
      obtain ⟨counters, known⟩ := readable medIdx stream isAt isActive.2
      have active : hasActive type info.media = true := by
        by_contra missing
        rw [Bool.not_eq_true, ← findIdx?_eq_none_iff_hasActive, found] at missing
        cases missing
      refine .inl ⟨active, medIdx, counters, first, known, ?_⟩
      rw [daemon.getRtpCounters_found valid read first]
      exact known

/-- A `call.get_info` that succeeds has read the call's info, and then both pairs of
counters. -/
theorem cmdCallGetInfo_success {build : Build} {outcomes : Outcomes} {params : Option JsonElem}
    {daemon : Daemon} (read : outcomes.answers.info 0 = .ok info)
    (succeeded : (daemon.cmdCallGetInfo build outcomes params).1.status = .success) :
    ∃ callId, build.calls.isValidCallId callId = true ∧ ∃ first second : Daemon,
      (daemon.cmdCallGetInfo build outcomes params).1.result = callGetInfoMembers info
        (first.getRtpCounters build.calls outcomes.answers 1 callId .audio).1
        (second.getRtpCounters build.calls outcomes.answers 2 callId .video).1 := by
  unfold cmdCallGetInfo at succeeded ⊢
  split
  · rename_i missing
    simp only [missing] at succeeded
    cases succeeded
  · rename_i callId given
    simp only [given] at succeeded
    by_cases valid : build.calls.isValidCallId callId = true
    · let first := daemon.record (.getInfo callId)
      refine ⟨callId, valid, first,
        (first.getRtpCounters build.calls outcomes.answers 1 callId .audio).2, ?_⟩
      simp only [getInfo, valid, read]
      rfl
    · simp only [getInfo, valid] at succeeded
      cases succeeded

/-- What is read of one type, and where its members stand, make the report of that type. -/
theorem reported_of_counters {keys : MediaKeys} {type : MediaType} {event result : Members}
    {media : List CallMedia} {counters : Except Failure RtpCounters}
    (inResult : jsonFind (.obj result) keys.has = some (.bool (hasActive type media)))
    (inEvent : jsonFind (.obj event) keys.has = some (.bool (hasActive type media)))
    (read : (hasActive type media = true ∧ ∃ medIdx read, FirstActive type media medIdx ∧
      answers.streamStat medIdx = .ok read ∧ counters = .ok read) ∨
      (hasActive type media = false ∧ ∃ status, counters = .error status))
    (counted : ∀ read, counters = .ok read → Counted keys result read)
    (uncounted : ∀ status, counters = .error status → Uncounted keys result) :
    Reported keys type (hasActive type media) answers media event result := by
  obtain ⟨active, medIdx, values, first, known, ok⟩ | ⟨missing, status, failed⟩ := read
  · refine ⟨inResult, inEvent, fun _ => ⟨medIdx, values, first, known, counted values ok⟩, ?_⟩
    rw [active]
    intro impossible
    cases impossible
  · refine ⟨inResult, inEvent, ?_, fun _ => uncounted status failed⟩
    rw [missing]
    intro impossible
    cases impossible

/-- For every call whose info stays the same during a `call.get_info` and whose statistics can
be read, the result and the `call_media_state` event agree on what the call has, and the
result has the counters of just that. -/
theorem media_reports_agree (build : Build) (outcomes : Outcomes) (params : Option JsonElem)
    (daemon : Daemon) (info : CallInfo)
    (steady : ∀ reading ≤ 2, outcomes.answers.info reading = .ok info)
    (readable : Readable outcomes.answers info.media)
    (succeeded : (daemon.cmdCallGetInfo build outcomes params).1.status = .success) :
    let result := (daemon.cmdCallGetInfo build outcomes params).1.result
    let event := (Event.callMediaState info).data build.lib
    Reported audioKeys .audio (mediaFlags info.media).1 outcomes.answers info.media event result ∧
    Reported videoKeys .video (mediaFlags info.media).2 outcomes.answers info.media event
      result := by
  obtain ⟨callId, valid, first, second, same⟩ :=
    cmdCallGetInfo_success (steady 0 (by omega)) succeeded
  have audio := getRtpCounters_reported 1 .audio first valid (steady 1 (by omega)) readable
  have video := getRtpCounters_reported 2 .video second valid (steady 2 (by omega)) readable
  simp only [same, mediaFlags_eq]
  constructor
  · exact reported_of_counters rfl rfl audio callGetInfoMembers_audio.1 callGetInfoMembers_audio.2
  · exact reported_of_counters rfl rfl video callGetInfoMembers_video.1 callGetInfoMembers_video.2

/-- The `params` of a `call.get_info` in a concrete run. -/
def infoParams : JsonElem := .obj [addNumber "call_id" 0]

/-- Call 0 has an audio stream, a video stream on hold and another that is active. -/
def heldVideo : List CallMedia :=
  [sampleAudio, ⟨.video, .remoteHold, ⟨true, true⟩, 0⟩, sampleVideo]

/-- The counters of the active video stream are reported. -/
theorem heldVideo_reported :
    let outcomes := { Outcomes.sample with answers := Answers.sample 0 .confirmed heldVideo }
    let result := (Daemon.start.cmdCallGetInfo (sampleBuild []) outcomes (some infoParams)).1.result
    jsonFind (.obj result) "has_video" = some (.bool true) ∧
    ∃ medIdx counters, FirstActive .video heldVideo medIdx ∧ Counted videoKeys result counters := by
  intro outcomes result
  have reported := media_reports_agree (sampleBuild []) outcomes (some infoParams) .start
    (sampleInfo 0 .confirmed heldVideo) (fun _ _ => rfl) (fun _ _ _ _ => ⟨_, rfl⟩) rfl
  obtain ⟨medIdx, counters, first, -, counted⟩ := reported.2.present rfl
  exact ⟨reported.2.inResult, medIdx, counters, first, counted⟩

end Daemon
end Pjsocky
