import Pjsocky.Call.Tracked

/-!
# Video that has failed

`give_up_on_video` remembers the one call it has run for, and the watchdog covers one
sending stream. Two things the comments of `call.c` promise are followed through runs
here: that the video of a call is not taken up again once it was given up, and that the
watchdog is armed while a call sends video. `on_call_rx_offer` never looks at the latch,
so the first holds just as long as the far end offers no video again; the watchdog is
dropped by a tick that finds its call not yet confirmed, so the second holds as long as
no tick comes that early.
-/

namespace Pjsocky

open Support

/-- A video stream that is active and has the encoding direction. -/
def SendsVideo (media : List CallMedia) : Prop :=
  ∃ stream ∈ media, stream.type = .video ∧ stream.status = .active ∧ stream.dir.encoding = true

theorem findSendingVideo_eq_none_iff {media : List CallMedia} :
    findSendingVideo media = none ↔ ¬SendsVideo media := by
  simp [findSendingVideo, SendsVideo]

namespace Daemon

variable {daemon : Daemon} {answers : Answers} {callId : CallId} {media : List CallMedia}

/-- A sending stream of a call that has not failed gets the watchdog. -/
theorem armVideoWatchdog_scheduledFor (sends : SendsVideo media)
    (unlatched : callId ≠ daemon.videoFailedCallId) (accepted : answers.schedule .watchdog = true) :
    (daemon.armVideoWatchdog answers callId media).ScheduledFor .watchdog callId := by
  have latch : daemon.cancelVideoWatchdog.videoFailedCallId = daemon.videoFailedCallId :=
    ((Keeps.refl [.watchdog] daemon).cancelTimer (by decide)).latch
  unfold armVideoWatchdog
  dsimp only
  rw [if_neg]
  · exact armed_scheduledFor accepted _
  · rintro (none | latched)
    · exact findSendingVideo_eq_none_iff.mp none sends
    · exact unlatched (latched.trans latch)

theorem onCallMediaState_scheduledFor {info : CallInfo} (read : answers.info 0 = .ok info)
    (sends : SendsVideo info.media) (unlatched : callId ≠ daemon.videoFailedCallId)
    (accepted : answers.schedule .watchdog = true) :
    (daemon.onCallMediaState answers callId).ScheduledFor .watchdog callId := by
  obtain ⟨connected, asked, watchdog⟩ := onCallMediaState_watchdog callId daemon read
  have latch := ((Keeps.refl [] daemon).asks asked).latch
  exact watchdog.trans (armVideoWatchdog_scheduledFor sends (latch ▸ unlatched) accepted)

end Daemon

namespace Phone

variable {lib : CallLib} {phone after : Phone} {callId : CallId}

theorem GaveUp.live (gaveUp : phone.GaveUp callId) : phone.Live callId := by
  obtain ⟨call, found, -⟩ := gaveUp
  exact live_of_some found

/-! ## Offers after video was given up -/

/-- An offer for a call that gave up on video is not answered with video. -/
def Unretried (phone : Phone) : CallInput → Prop
  | .callRxOffer callId offer opt =>
      phone.GaveUp callId → ∀ answer, onCallRxOffer offer opt = some answer → answer.vidCnt = 0
  | _ => True

/-- The far end offers no video to a call that gave up on it, and pjsua's own setting for
the call has none. -/
def VideoWithdrawn (phone : Phone) : CallInput → Prop
  | .callRxOffer callId offer opt =>
      phone.GaveUp callId → ∀ setting, opt = some setting → setting.vidCnt = 0 ∧
        ∀ lines, offer = some lines →
          ∀ line ∈ lines, sameIgnoringCase line.media "video" = true → line.port = 0
  | _ => True

theorem offeredVideo_eq_zero_iff {lines : List SdpMedia} :
    offeredVideo lines = 0 ↔
      ∀ line ∈ lines, sameIgnoringCase line.media "video" = true → line.port = 0 := by
  simp [offeredVideo, List.countP_eq_zero]

/-- The answer to an offer has no video just when the setting had none and the offer wants
none. -/
theorem onCallRxOffer_vidCnt_iff (offer : Option (List SdpMedia)) (setting : CallSetting) :
    (∀ answer, onCallRxOffer offer (some setting) = some answer → answer.vidCnt = 0) ↔
      setting.vidCnt = 0 ∧ ∀ lines, offer = some lines → offeredVideo lines = 0 := by
  cases offer with
  | none => simp [onCallRxOffer]
  | some lines =>
      by_cases accepts : 0 < offeredVideo lines ∧ setting.vidCnt = 0
      · simp only [onCallRxOffer, if_pos accepts, Option.some.injEq, forall_eq']
        omega
      · simp only [onCallRxOffer, if_neg accepts, Option.some.injEq, forall_eq']
        omega

theorem unretried_iff (phone : Phone) (input : CallInput) :
    phone.Unretried input ↔ phone.VideoWithdrawn input := by
  cases input with
  | callRxOffer callId offer opt =>
      refine imp_congr_right fun _ => ?_
      cases opt with
      | none => cases offer <;> simp [onCallRxOffer]
      | some setting =>
          rw [onCallRxOffer_vidCnt_iff]
          simp only [offeredVideo_eq_zero_iff, Option.some.injEq, forall_eq']
  | _ => exact Iff.rfl

/-- Along a run, no offer for a call that gave up on video is answered with video, exactly
when none of them offers any. -/
theorem video_unretried_iff (lib : CallLib) (inputs : List CallInput) :
    Machine.Along (step lib) Unretried start inputs ↔
      Machine.Along (step lib) VideoWithdrawn start inputs :=
  Machine.along_congr unretried_iff

/-- Call 0 sends video until its camera fails; the far end then offers video again. -/
def failedCamera : List CallInput :=
  [.account 0 true, .dial (ascii "sip:bob@example.com") true (.created 0),
    .callState 0 .confirmed (.sample 0 .confirmed []),
    .callMediaState 0 [sampleVideo] (.sample 0 .confirmed [sampleVideo]),
    .callMediaEvent 0 1 (some (.vidDevError (.library 7)))]

/-- The offer of video after the camera has failed, against a setting without video, is
answered with video. -/
theorem failedCamera_retried :
    Machine.Along (step sampleCallLib) (fun phone input => phone.Possible sampleCallLib input)
      start (failedCamera ++ [.callRxOffer 0 (some [⟨ascii "video", 4000⟩]) (some ⟨1, 0, 0⟩)]) ∧
    (run sampleCallLib start failedCamera).GaveUp 0 ∧
    onCallRxOffer (some [⟨ascii "video", 4000⟩]) (some ⟨1, 0, 0⟩) = some ⟨1, 1, 0⟩ ∧
    ¬Machine.Along (step sampleCallLib) Unretried start
      (failedCamera ++ [.callRxOffer 0 (some [⟨ascii "video", 4000⟩]) (some ⟨1, 0, 0⟩)]) := by
  have gaveUp : (run sampleCallLib start failedCamera).GaveUp 0 :=
    ⟨⟨.confirmed, some [sampleVideo], 0⟩, rfl, by decide⟩
  have answered : onCallRxOffer (some [⟨ascii "video", 4000⟩]) (some ⟨1, 0, 0⟩) =
      some ⟨1, 1, 0⟩ := by decide
  refine ⟨?_, gaveUp, answered, fun unretried => ?_⟩
  · refine ⟨trivial, ⟨rfl, by decide⟩, ?_, ?_, trivial, ?_, trivial⟩
    · exact ⟨_, rfl, Answers.sample_tell _ _ _ ⟨rfl, nofun⟩⟩
    · exact ⟨_, rfl, Answers.sample_tell _ _ _ ⟨rfl, fun _ same => Option.some.inj same⟩⟩
    · exact gaveUp.live
  · have last := (Machine.along_append.mp unretried).2.1 gaveUp _ answered
    cases last

/-! ## The watchdog -/

/-- The watchdog is scheduled for every confirmed call that sends video, as its media were
last reported, and has not given up on it. -/
def Covered (phone : Phone) : Prop :=
  ∀ callId call media, phone.calls callId = some call → call.state = .confirmed →
    call.media = some media → SendsVideo media → ¬phone.GaveUp callId →
    phone.daemon.ScheduledFor .watchdog callId

/-- At most one call at a time, device errors of the live call only, and pjsua accepts the
watchdog timer. -/
def SingleCall (phone : Phone) : CallInput → Prop
  | .dial _ _ (.created _) => phone.Idle
  | .incomingCall _ _ => phone.Idle
  | .callMediaState _ _ answers => answers.schedule .watchdog = true
  | .callMediaEvent callId _ _ => phone.Live callId
  | .expires .watchdog answers => answers.schedule .watchdog = true
  | _ => True

/-- The watchdog finds its call confirmed, and pjsua lets the callbacks that arm and disarm
it read the call's info. -/
def Timely (_ : Phone) : CallInput → Prop
  | .callState _ .disconnected answers => ∃ info, answers.info 0 = .ok info
  | .callMediaState _ _ answers => ∃ info, answers.info 0 = .ok info
  | .expires .watchdog answers => ∃ info, answers.info 0 = .ok info ∧ info.state = .confirmed
  | _ => True

/-- What carries the coverage: it holds of every live call, confirmed or not, and the latch
names no call that did not give up. -/
structure Guarded (phone : Phone) : Prop where
  single : ∀ first second, phone.Live first → phone.Live second → first = second
  valid : ∀ callId, phone.Live callId → callId ≠ invalidId
  counted : ∀ callId call, phone.calls callId = some call →
    call.removals ≤ phone.daemon.removals callId
  latched : phone.daemon.videoFailedCallId ≠ invalidId →
    phone.GaveUp phone.daemon.videoFailedCallId
  watched : ∀ callId call media, phone.calls callId = some call → call.media = some media →
    SendsVideo media → ¬phone.GaveUp callId → phone.daemon.ScheduledFor .watchdog callId

/-- Whether a call gave up is decided by the removals since its creation. -/
theorem gaveUp_congr
    (created : (after.calls callId).map LiveCall.removals =
      (phone.calls callId).map LiveCall.removals)
    (removals : after.daemon.removals callId = phone.daemon.removals callId) :
    after.GaveUp callId ↔ phone.GaveUp callId := by
  simp only [GaveUp, removals]
  cases before : phone.calls callId with
  | none =>
      rw [before, Option.map_none, Option.map_eq_none_iff] at created
      simp [created]
  | some call =>
      rw [before, Option.map_some, Option.map_eq_some_iff] at created
      obtain ⟨next, found, same⟩ := created
      simp [found, same]

/-- A step that touches the watchdog, but leaves the calls, the latch and the removals as
they are, keeps the guard if the watchdog is then where it should be. -/
theorem Guarded.of_watched {touched : List TimerName} (guarded : phone.Guarded)
    (keeps : phone.daemon.Keeps touched after.daemon) (same : after.calls = phone.calls)
    (watched : ∀ callId call media, phone.calls callId = some call → call.media = some media →
      SendsVideo media → ¬phone.GaveUp callId → after.daemon.ScheduledFor .watchdog callId) :
    after.Guarded := by
  have gaveUp : ∀ callId, after.GaveUp callId ↔ phone.GaveUp callId := fun callId =>
    gaveUp_congr (by rw [same]) (keeps.removals callId)
  constructor
  · simpa only [Live, same] using guarded.single
  · simpa only [Live, same] using guarded.valid
  · simpa only [same, keeps.removals] using guarded.counted
  · simpa only [gaveUp, keeps.latch] using guarded.latched
  · simpa only [gaveUp, same] using watched

/-- A step that keeps the latch, the removals and the watchdog keeps the guard, if no call
is new and none starts to send. -/
theorem Guarded.of_keeps {touched : List TimerName} (guarded : phone.Guarded)
    (keeps : phone.daemon.Keeps touched after.daemon) (untouched : .watchdog ∉ touched)
    (same : ∀ callId, (after.calls callId).map (fun call => (call.media, call.removals)) =
      (phone.calls callId).map fun call => (call.media, call.removals)) : after.Guarded := by
  have gaveUp : ∀ callId, after.GaveUp callId ↔ phone.GaveUp callId := by
    intro callId
    refine gaveUp_congr ?_ (keeps.removals callId)
    simpa [Function.comp_def] using congrArg (Option.map Prod.snd) (same callId)
  have live : ∀ callId, after.Live callId → phone.Live callId := by
    intro callId isLive none
    have unchanged := same callId
    rw [none, Option.map_none, Option.map_eq_none_iff] at unchanged
    exact isLive unchanged
  have found : ∀ callId call, after.calls callId = some call → ∃ before,
      phone.calls callId = some before ∧ before.media = call.media ∧
        before.removals = call.removals := by
    intro callId call foundAfter
    have unchanged := same callId
    rw [foundAfter, Option.map_some, eq_comm, Option.map_eq_some_iff] at unchanged
    obtain ⟨before, foundBefore, agree⟩ := unchanged
    exact ⟨before, foundBefore, Prod.mk.inj agree⟩
  constructor
  · intro first second liveFirst liveSecond
    exact guarded.single first second (live first liveFirst) (live second liveSecond)
  · exact fun callId isLive => guarded.valid callId (live callId isLive)
  · intro callId call foundAfter
    obtain ⟨before, foundBefore, -, sameRemovals⟩ := found callId call foundAfter
    rw [keeps.removals, ← sameRemovals]
    exact guarded.counted callId before foundBefore
  · intro latch
    rw [gaveUp, keeps.latch]
    exact guarded.latched (keeps.latch ▸ latch)
  · intro callId call media foundAfter reported sends kept
    obtain ⟨before, foundBefore, sameMedia, -⟩ := found callId call foundAfter
    refine (keeps.scheduledFor untouched).mpr (guarded.watched callId before media foundBefore ?_
      sends fun gave => kept ((gaveUp callId).mpr gave))
    rw [sameMedia, reported]

/-- A new call, with none live before, has reported no media yet and is not latched. -/
theorem Guarded.create {touched : List TimerName} {state : InvState} (guarded : phone.Guarded)
    (idle : phone.Idle) (fresh : phone.Fresh lib callId)
    (keeps : Daemon.Keeps touched { phone.daemon with callId } after.daemon)
    (calls : after.calls = phone.create callId state) : after.Guarded := by
  have only : ∀ other call, after.calls other = some call → other = callId ∧
      call = ⟨state, none, phone.daemon.removals callId⟩ := by
    intro other call found
    by_cases same : other = callId
    · subst same
      rw [calls, Phone.create, Function.update_self] at found
      exact ⟨rfl, (Option.some.inj found).symm⟩
    · rw [calls, Phone.create, Function.update_of_ne same] at found
      exact absurd (live_of_some found) (idle other)
  have isCallId : ∀ other, after.Live other → other = callId := by
    intro other live
    obtain ⟨call, found⟩ := Option.ne_none_iff_exists'.mp live
    exact (only other call found).1
  have unlatched : phone.daemon.videoFailedCallId = invalidId := by
    by_contra latch
    exact idle _ (guarded.latched latch).live
  constructor
  · intro first second liveFirst liveSecond
    rw [isCallId first liveFirst, isCallId second liveSecond]
  · exact fun other live => isCallId other live ▸ fresh.ne_invalid
  · intro other call found
    obtain ⟨rfl, rfl⟩ := only other call found
    exact (keeps.removals other).ge
  · exact fun latch => absurd (keeps.latch.trans unlatched) latch
  · intro other call media found reported
    obtain ⟨rfl, rfl⟩ := only other call found
    cases reported

/-- When the call has ended and its info could be read, nothing is left to guard. -/
theorem Guarded.ended {answers : Answers} {info : CallInfo} (guarded : phone.Guarded)
    (live : phone.Live callId) (read : answers.info 0 = .ok info)
    (ended : info.state = .disconnected) :
    (phone.step lib (.callState callId .disconnected answers)).Guarded := by
  have idle : (phone.step lib (.callState callId .disconnected answers)).Idle := by
    intro other otherLive
    obtain ⟨wasLive, different⟩ := live_moveTo.mp otherLive
    exact different rfl (guarded.single other callId wasLive live)
  have latch : (phone.step lib (.callState callId .disconnected answers)).daemon.videoFailedCallId =
      if callId = phone.daemon.videoFailedCallId then invalidId
      else phone.daemon.videoFailedCallId := by
    rw [step, Daemon.onCallState_ended callId read ended, Daemon.record_videoFailedCallId,
      (Daemon.callEnded_keeps callId _).latch, Daemon.forget_videoFailedCallId,
      (Daemon.stopRinging_keeps callId _ _).latch, Daemon.record_videoFailedCallId]
  have found : ∀ other call,
      (phone.step lib (.callState callId .disconnected answers)).calls other ≠ some call :=
    fun other call found => idle other (live_of_some found)
  constructor
  · exact fun first second liveFirst => absurd liveFirst (idle first)
  · exact fun other otherLive => absurd otherLive (idle other)
  · exact fun other call isCall => absurd isCall (found other call)
  · intro latched
    refine absurd (latch.trans ?_) latched
    by_cases isLatched : callId = phone.daemon.videoFailedCallId
    · rw [if_pos isLatched]
    · rw [if_neg isLatched]
      by_contra named
      exact isLatched (guarded.single _ _ live (guarded.latched named).live)
  · exact fun other call media isCall => absurd isCall (found other call)

/-- Giving up on the live call's video, whether it was given up before or not. -/
theorem Guarded.giveUp {daemon : Daemon} {medIdx : Nat} {status : Status} {reason : Bytes}
    (guarded : phone.Guarded) (keeps : phone.daemon.Keeps [.watchdog] daemon)
    (live : phone.Live callId) :
    Guarded ⟨daemon.giveUpOnVideo callId medIdx status reason, phone.calls⟩ := by
  have removals := Daemon.giveUpOnVideo_removals callId medIdx status reason daemon
  have gaveUp : GaveUp ⟨daemon.giveUpOnVideo callId medIdx status reason, phone.calls⟩ callId := by
    by_cases latched : callId = daemon.videoFailedCallId
    · rw [keeps.latch] at latched
      obtain ⟨call, found, more⟩ := guarded.latched (latched ▸ guarded.valid callId live)
      rw [← latched, ← keeps.removals] at more
      rw [← latched] at found
      exact ⟨call, found, lt_of_lt_of_le more ((removals callId).ge.trans' (Nat.le_add_right _ _))⟩
    · obtain ⟨call, found⟩ := Option.ne_none_iff_exists'.mp live
      refine ⟨call, found, ?_⟩
      dsimp only
      rw [removals, if_pos ⟨rfl, latched⟩, keeps.removals]
      exact Nat.lt_succ_of_le (guarded.counted callId call found)
  constructor
  · exact guarded.single
  · exact guarded.valid
  · intro other call found
    have before := guarded.counted other call found
    dsimp only
    rw [removals, keeps.removals]
    omega
  · intro _
    rwa [Daemon.giveUpOnVideo_latch]
  · intro other call media found _ _ kept
    rw [guarded.single other callId (live_of_some found) live] at kept
    exact absurd gaveUp kept

/-- A report of a call's media says nothing about the removals. -/
theorem report_removals (media : List CallMedia) (other : CallId) :
    (phone.report callId media other).map LiveCall.removals =
      (phone.calls other).map LiveCall.removals := by
  by_cases same : other = callId
  · subst same
    simp [report, Function.comp_def]
  · rw [report, Function.update_of_ne same]

/-- A report of the live call's media arms the watchdog when they send video. -/
theorem Guarded.mediaReported {answers : Answers} {media : List CallMedia} {call : LiveCall}
    {info : CallInfo} (guarded : phone.Guarded) (found : phone.calls callId = some call)
    (tells : answers.Tell (some { call with media := some media }))
    (read : answers.info 0 = .ok info) (accepted : answers.schedule .watchdog = true) :
    (phone.step lib (.callMediaState callId media answers)).Guarded := by
  have keeps := Daemon.onCallMediaState_keeps answers callId phone.daemon
  have gaveUp : ∀ other, (phone.step lib (.callMediaState callId media answers)).GaveUp other ↔
      phone.GaveUp other :=
    fun other => gaveUp_congr (report_removals media other) (keeps.removals other)
  constructor
  · intro first second liveFirst liveSecond
    exact guarded.single first second (live_report.mp liveFirst) (live_report.mp liveSecond)
  · exact fun other live => guarded.valid other (live_report.mp live)
  · intro other after foundAfter
    have counted := congrArg (Option.map LiveCall.removals) foundAfter
    rw [step, report_removals media other, Option.map_some, Option.map_eq_some_iff] at counted
    obtain ⟨before, foundBefore, same⟩ := counted
    rw [step, keeps.removals, ← same]
    exact guarded.counted other before foundBefore
  · intro latch
    rw [gaveUp, step, keeps.latch]
    exact guarded.latched (keeps.latch ▸ latch)
  · intro other after reported foundAfter isReported sends kept
    have same : other = callId := guarded.single other callId
      (live_report.mp (live_of_some foundAfter)) (live_of_some found)
    subst same
    simp only [step, report, Function.update_self, found, Option.map_some,
      Option.some.injEq] at foundAfter
    subst foundAfter
    -- The call did not give up, so it is not latched.
    have unlatched : other ≠ phone.daemon.videoFailedCallId := by
      intro latched
      have named := guarded.valid other (live_of_some found)
      rw [gaveUp] at kept
      exact kept (latched ▸ guarded.latched (latched ▸ named))
    have sendsRead : SendsVideo info.media := by
      rw [(tells.agrees read).2 reported isReported]
      exact sends
    exact Daemon.onCallMediaState_scheduledFor read sendsRead unlatched accepted

/-- The watchdog's expiry for a confirmed call: it is scheduled again unless there is no
video to watch any more, or the video is given up. -/
theorem Guarded.watchdogExpired {answers : Answers} {info : CallInfo} (guarded : phone.Guarded)
    (tells : answers.Tell (phone.calls (phone.daemon.timers .watchdog).userData))
    (read : answers.info 0 = .ok info) (confirmed : info.state = .confirmed)
    (accepted : answers.schedule .watchdog = true) :
    (phone.step lib (.expires .watchdog answers)).Guarded := by
  obtain ⟨call, found, agrees⟩ := tells 0 info read
  have live := live_of_some found
  have member : TimerName.watchdog ∈ [TimerName.watchdog] := List.mem_singleton_self _
  have cleared : Daemon.Keeps [.watchdog] phone.daemon
      ((phone.daemon.dequeueTimer .watchdog).clearScheduled .watchdog) :=
    ((Daemon.Keeps.refl _ _).dequeueTimer .watchdog member).setTimer member _
  have userData : ((phone.daemon.dequeueTimer .watchdog).timers .watchdog).userData =
      (phone.daemon.timers .watchdog).userData := by simp [Daemon.dequeueTimer]
  obtain ⟨asked, asks, ⟨unwatched, nothing⟩ | ⟨-, medIdx, seen, ticks, rescheduled | gave⟩⟩ :=
    Daemon.videoWatchdogCb_cases lib answers (phone.daemon.dequeueTimer .watchdog)
  · refine guarded.of_watched (unwatched ▸ cleared.asks asks) rfl
      fun other after media foundAfter reported sends _ => ?_
    have same := guarded.single other _ (live_of_some foundAfter) live
    subst same
    cases found.symm.trans foundAfter
    have none := nothing info read confirmed
    rw [agrees.2 media reported, findSendingVideo_eq_none_iff] at none
    exact absurd sends none
  · have counted := (cleared.asks asks).counted seen ticks
    refine guarded.of_watched (rescheduled ▸ counted.scheduleTimer member _ _) rfl
      fun other after media foundAfter _ _ _ => ?_
    have same := guarded.single other _ (live_of_some foundAfter) live
    subst same
    have timer : (asked.timers .watchdog).userData = (phone.daemon.timers .watchdog).userData := by
      rw [asks.timers_eq]
      simp [Daemon.clearScheduled, Daemon.dequeueTimer]
    simp [step, timerCb, rescheduled, Daemon.scheduleTimer, accepted, Daemon.ScheduledFor, timer]
  · rw [step, timerCb, gave, userData]
    exact guarded.giveUp ((cleared.asks asks).counted seen ticks) live

/-- A change of state that does not end the call. -/
theorem Guarded.moved {answers : Answers} {state : InvState} {call : LiveCall}
    (guarded : phone.Guarded) (tells : answers.Tell (some { call with state }))
    (goesOn : state ≠ .disconnected) :
    (phone.step lib (.callState callId state answers)).Guarded := by
  refine guarded.of_keeps (Daemon.onCallState_keeps callId fun info read => ?_) (by decide)
    fun other => ?_
  · rw [(tells.agrees read).1]
    exact goesOn
  · by_cases same : other = callId
    · subst same
      simp [step, moveTo, goesOn, Function.comp_def]
    · simp [step, moveTo, same]

/-- Every step of a single call's run that is timely keeps the guard. -/
theorem Guarded.step {input : CallInput} (guarded : phone.Guarded)
    (possible : phone.Possible lib input) (single : phone.SingleCall input)
    (timely : phone.Timely input) : (phone.step lib input).Guarded := by
  have quietly : Quiet input → (phone.step lib input).Guarded := by
    intro quiet
    obtain ⟨calls, keeps⟩ := step_quiet quiet
    exact guarded.of_keeps keeps (by decide) fun callId => by rw [calls]
  cases input with
  | answer | hangup | hangupAll | setRingTimeout | account | captureDevice | callRxOffer =>
      exact quietly trivial
  | dial uri video outcome =>
      rcases phone.step_dial_cases uri video outcome with
        ⟨-, unchanged⟩ | ⟨-, -, ⟨callId, rfl, calls, keeps⟩ | ⟨status, written, -, calls, keeps⟩⟩
      · rwa [unchanged]
      · exact guarded.create single possible keeps calls
      · have untracked : Guarded ⟨{ phone.daemon with callId := invalidId }, phone.calls⟩ :=
          ⟨guarded.single, guarded.valid, guarded.counted, guarded.latched, guarded.watched⟩
        exact untracked.of_keeps keeps (by decide) fun callId => by rw [calls]
  | incomingCall callId answers =>
      exact guarded.create single possible (Daemon.onIncomingCall_keeps answers callId _) rfl
  | callState callId state answers =>
      obtain ⟨call, found, tells⟩ := possible
      by_cases ended : state = .disconnected
      · subst ended
        obtain ⟨info, read⟩ := timely
        exact guarded.ended (live_of_some found) read (tells.agrees read).1
      · exact guarded.moved tells ended
  | callMediaState callId media answers =>
      obtain ⟨call, found, tells⟩ := possible
      obtain ⟨info, read⟩ := timely
      exact guarded.mediaReported found tells read single
  | callMediaEvent callId medIdx event =>
      match event with
      | some (.vidDevError status) => exact guarded.giveUp (.refl _ _) single
      | some .other | none => exact guarded
  | expires name answers =>
      cases name with
      | ring | report => exact quietly trivial
      | watchdog =>
          obtain ⟨info, read, confirmed⟩ := timely
          exact guarded.watchdogExpired possible.2 read confirmed single

theorem start_guarded : Phone.start.Guarded where
  single _ _ live := absurd rfl live
  valid _ live := absurd rfl live
  counted _ _ found := nomatch found
  latched latch := absurd rfl latch
  watched _ _ _ found := nomatch found

theorem Guarded.covered (guarded : phone.Guarded) : phone.Covered :=
  fun callId call media found _ => guarded.watched callId call media found

/-- In every state of a run with one call at a time in which the watchdog never expires
before its call is confirmed, the watchdog covers the call's sending video. -/
theorem watchdog_covers (lib : CallLib) (inputs : List CallInput)
    (possible : Machine.Along (step lib)
      (fun phone input => phone.Possible lib input ∧ phone.SingleCall input) start inputs)
    (timely : Machine.Along (step lib) Timely start inputs) :
    ∀ before after, inputs = before ++ after → (run lib start before).Covered := by
  rintro before after rfl
  have enabled := Machine.along_and.mpr
    ⟨(Machine.along_append.mp possible).1, (Machine.along_append.mp timely).1⟩
  refine (Machine.invariant_run (fun phone input guarded enabled => ?_) start_guarded
    enabled).covered
  exact guarded.step enabled.1.1 enabled.1.2 enabled.2

/-- Call 0 is dialled, answered at once and sends video; the watchdog ticks once. -/
def answeredCall : List CallInput :=
  [.account 0 true, .dial (ascii "sip:bob@example.com") true (.created 0),
    .callState 0 .confirmed (.sample 0 .confirmed []),
    .callMediaState 0 [sampleVideo] (.sample 0 .confirmed [sampleVideo]),
    .expires .watchdog (.sample 0 .confirmed [sampleVideo])]

/-- Call 0 is dialled and sends video while it still rings at the far end; the watchdog
ticks before the call is answered. -/
def earlyMedia : List CallInput :=
  [.account 0 true, .dial (ascii "sip:bob@example.com") true (.created 0),
    .callState 0 .early (.sample 0 .early []),
    .callMediaState 0 [sampleVideo] (.sample 0 .early [sampleVideo]),
    .expires .watchdog (.sample 0 .early [sampleVideo]),
    .callState 0 .confirmed (.sample 0 .confirmed [sampleVideo])]

/-- A call that is answered before its first tick stays covered. -/
theorem watchdog_covers_answered :
    (run sampleCallLib start answeredCall).Covered ∧
      (run sampleCallLib start answeredCall).daemon.ScheduledFor .watchdog 0 := by
  refine ⟨watchdog_covers sampleCallLib answeredCall ?_ ?_ answeredCall [] rfl, by decide⟩
  · refine ⟨⟨trivial, trivial⟩, ⟨⟨rfl, by decide⟩, fun _ live => live rfl⟩, ⟨?_, trivial⟩,
      ⟨?_, rfl⟩, ⟨⟨rfl, ?_⟩, rfl⟩, trivial⟩
    · exact ⟨_, rfl, Answers.sample_tell _ _ _ ⟨rfl, nofun⟩⟩
    · exact ⟨_, rfl, Answers.sample_tell _ _ _ ⟨rfl, fun _ same => Option.some.inj same⟩⟩
    · exact Answers.sample_tell _ _ _ ⟨rfl, fun _ same => Option.some.inj same⟩
  · exact ⟨trivial, trivial, trivial, ⟨_, rfl⟩, ⟨_, rfl, rfl⟩, trivial⟩

/-- A tick while the call still rings drops the watchdog: the call is then confirmed and
sends video that nothing watches. -/
theorem earlyMedia_not_covered :
    Machine.Along (step sampleCallLib)
      (fun phone input => phone.Possible sampleCallLib input ∧ phone.SingleCall input) start
      earlyMedia ∧
    ¬(run sampleCallLib start earlyMedia).Covered := by
  constructor
  · refine ⟨⟨trivial, trivial⟩, ⟨⟨rfl, by decide⟩, fun _ live => live rfl⟩, ⟨?_, trivial⟩,
      ⟨?_, rfl⟩, ⟨⟨rfl, ?_⟩, rfl⟩, ⟨?_, trivial⟩, trivial⟩
    · exact ⟨_, rfl, Answers.sample_tell _ _ _ ⟨rfl, nofun⟩⟩
    · exact ⟨_, rfl, Answers.sample_tell _ _ _ ⟨rfl, fun _ same => Option.some.inj same⟩⟩
    · exact Answers.sample_tell _ _ _ ⟨rfl, fun _ same => Option.some.inj same⟩
    · exact ⟨_, rfl, Answers.sample_tell _ _ _ ⟨rfl, fun _ same => Option.some.inj same⟩⟩
  · intro covered
    have unscheduled : ¬(run sampleCallLib start earlyMedia).daemon.ScheduledFor .watchdog 0 := by
      decide
    refine unscheduled (covered 0 ⟨.confirmed, some [sampleVideo], 0⟩ [sampleVideo] rfl rfl rfl
      ⟨sampleVideo, List.mem_singleton_self _, rfl, rfl, rfl⟩ ?_)
    rintro ⟨call, found, more⟩
    cases found
    exact absurd more (by decide)

end Phone
end Pjsocky
