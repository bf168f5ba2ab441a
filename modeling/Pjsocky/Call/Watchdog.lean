import Mathlib.Data.List.Induction
import Pjsocky.Call.Media

/-!
# When the watchdog gives up

`video_watchdog_cb` folds the readings of a packet counter into two counters of its own, one of
them with a threshold that depends on the other. Taken by itself that fold is a detector over
readings, and what it detects has a plain description: a tick, not the first, whose reading
does not exceed all earlier ones. Each tick of the watchdog is a step of the detector, so the
description holds of the watchdog, whatever the daemon does between two ticks.
-/

namespace Pjsocky

open Support

/-! ## The detector -/

/-- `g_video_tx_packets_seen` and `g_video_stall_ticks`. -/
structure StallCounters where
  seen : Nat
  ticks : Nat

/-- What a tick makes of the counters; without a result it gives up. A reading that failed is
`none`. -/
def StallCounters.observe (counters : StallCounters) (reading : Option Nat) :
    Option StallCounters :=
  if counters.seen < reading.getD 0 then some ⟨reading.getD 0, 0⟩
  else if (if counters.seen ≠ 0 then 1 else 2) ≤ counters.ticks + 1 then none
  else some ⟨counters.seen, counters.ticks + 1⟩

/-- The counters after some readings, as long as no tick gives up. -/
def observed (readings : List (Option Nat)) : Option StallCounters :=
  readings.foldlM StallCounters.observe ⟨0, 0⟩

/-- The highest of the readings that did not fail, 0 when there is none. -/
def highest (readings : List (Option Nat)) : Nat := (readings.filterMap id).foldl max 0

/-- A reading after the first that failed or does not exceed the earlier ones. -/
def Stalls (earlier : List (Option Nat)) (reading : Option Nat) : Prop :=
  earlier ≠ [] ∧ ∀ count, reading = some count → count ≤ highest earlier

/-- One of the readings is such a reading. -/
def Stalled (readings : List (Option Nat)) : Prop :=
  ∃ before reading after, readings = before ++ reading :: after ∧ Stalls before reading

theorem highest_snoc (readings : List (Option Nat)) (reading : Option Nat) :
    highest (readings ++ [reading]) = max (highest readings) (reading.getD 0) := by
  cases reading with
  | none => simp [highest]
  | some count => simp [highest]

theorem not_stalled_nil : ¬Stalled [] := by
  rintro ⟨before, reading, after, same, -⟩
  cases before <;> cases same

theorem stalled_snoc {readings : List (Option Nat)} {reading : Option Nat} :
    Stalled (readings ++ [reading]) ↔ Stalled readings ∨ Stalls readings reading := by
  constructor
  · rintro ⟨before, found, after, same, stalls⟩
    cases after using List.reverseRecOn with
    | nil =>
        obtain ⟨rfl, last⟩ := List.append_inj' same rfl
        cases last
        exact .inr stalls
    | append_singleton after last =>
        rw [← List.cons_append, ← List.append_assoc] at same
        obtain ⟨rfl, -⟩ := List.append_inj' same rfl
        exact .inl ⟨before, found, after, rfl, stalls⟩
  · rintro (⟨before, found, after, rfl, stalls⟩ | stalls)
    · exact ⟨before, found, after ++ [reading], by simp, stalls⟩
    · exact ⟨readings, reading, [], rfl, stalls⟩

/-- A failed reading counts as none sent. -/
theorem stalls_iff {earlier : List (Option Nat)} {reading : Option Nat} :
    Stalls earlier reading ↔ earlier ≠ [] ∧ reading.getD 0 ≤ highest earlier := by
  cases reading with
  | none => simp [Stalls]
  | some count => simp [Stalls]

/-- What the counters say as long as no reading stalled. -/
structure Counting (readings : List (Option Nat)) (counters : StallCounters) : Prop where
  seen : counters.seen = highest readings
  /-- A silent window is pending only after the first reading, and only if that was silent. -/
  ticks : counters.ticks = if readings ≠ [] ∧ highest readings = 0 then 1 else 0

/-- One reading stalls just when the detector gives up at it. -/
theorem Counting.observe {readings : List (Option Nat)} {counters : StallCounters}
    (counting : Counting readings counters) (reading : Option Nat) :
    (Stalls readings reading ∧ counters.observe reading = none) ∨
    (¬Stalls readings reading ∧ ∃ next, counters.observe reading = some next ∧
      Counting (readings ++ [reading]) next) := by
  obtain ⟨seen, ticks⟩ := counters
  obtain ⟨rfl, rfl⟩ := counting
  rw [stalls_iff, StallCounters.observe]
  by_cases grows : highest readings < reading.getD 0
  · have raised := highest_snoc readings reading
    refine .inr ⟨fun stalls => by omega, _, if_pos grows, ?_, ?_⟩
    · dsimp only
      omega
    · rw [if_neg]
      omega
  · rw [if_neg grows]
    by_cases first : readings = []
    · -- The first window may be silent.
      subst first
      have silent : highest [reading] = 0 := by
        have raised := highest_snoc [] reading
        simp only [highest, List.filterMap_nil, List.foldl_nil, List.nil_append] at grows raised ⊢
        omega
      refine .inr ⟨fun stalls => stalls.1 rfl, ⟨0, 1⟩, rfl, silent.symm, ?_⟩
      simp [silent]
    · refine .inl ⟨⟨first, by omega⟩, if_pos ?_⟩
      by_cases none : highest readings = 0
      · simp [first, none]
      · simp [none]

/-- The detector has given up just when a reading stalled. -/
theorem observed_cases (readings : List (Option Nat)) :
    (Stalled readings ∧ observed readings = none) ∨
    (¬Stalled readings ∧ ∃ counters, observed readings = some counters ∧
      Counting readings counters) := by
  induction readings using List.reverseRecOn with
  | nil =>
      exact .inr ⟨not_stalled_nil, ⟨0, 0⟩, rfl, rfl, rfl⟩
  | append_singleton readings reading ih =>
      rw [stalled_snoc, observed, List.foldlM_append, ← observed]
      obtain ⟨stalled, none⟩ | ⟨steady, counters, isSome, counting⟩ := ih
      · rw [none]
        exact .inl ⟨.inl stalled, rfl⟩
      · rw [isSome]
        obtain ⟨stalls, none⟩ | ⟨goesOn, next, isNext, counted⟩ := counting.observe reading
        · exact .inl ⟨.inr stalls, by simp [none]⟩
        · exact .inr ⟨not_or.mpr ⟨steady, goesOn⟩, next, by simp [isNext], counted⟩

/-! ## The watchdog as the detector -/

/-- The transmit counter of a reading that did not fail. -/
def transmitted (counters : Except Failure RtpCounters) : Option Nat :=
  counters.toOption.map RtpCounters.tx

namespace Daemon

variable {daemon : Daemon} {answers : Answers} {callId : CallId} {medIdx : Nat}
variable {counters : Except Failure RtpCounters} {lib : CallLib}

def stallCounters (daemon : Daemon) : StallCounters :=
  ⟨daemon.videoTxPacketsSeen, daemon.videoStallTicks⟩

/-- What a tick does with the detector's answer: the timer is scheduled again with the new
counters, or the video is given up. -/
def conclude (answers : Answers) (callId : CallId) (medIdx : Nat) (daemon : Daemon) :
    Option StallCounters → Daemon
  | some next =>
      { daemon with videoTxPacketsSeen := next.seen,
                    videoStallTicks := next.ticks }.scheduleTimer answers .watchdog
        videoWatchdogMsec
  | none =>
      { daemon with videoStallTicks := daemon.videoStallTicks + 1 }.giveUpOnVideo callId medIdx
        .success (ascii "the video capture device stopped producing frames")

/-- A silent window is a step of the detector at which nothing grew. -/
theorem silentWindow_eq (answers : Answers) (callId : CallId) (medIdx : Nat) (daemon : Daemon)
    {reading : Option Nat} (silent : ¬daemon.videoTxPacketsSeen < reading.getD 0) :
    daemon.silentWindow answers callId medIdx =
      daemon.conclude answers callId medIdx (daemon.stallCounters.observe reading) := by
  have observed : daemon.stallCounters.observe reading = if _ then none else some _ :=
    if_neg silent
  rw [observed]
  by_cases enough : (if daemon.stallCounters.seen ≠ 0 then 1 else 2) ≤
      daemon.stallCounters.ticks + 1
  · rw [if_pos enough]
    exact if_pos enough
  · rw [if_neg enough]
    exact if_neg enough

/-- The verdict is the detector's. -/
theorem judgeVideo_eq (answers : Answers) (callId : CallId) (medIdx : Nat)
    (counters : Except Failure RtpCounters) (daemon : Daemon) :
    daemon.judgeVideo answers callId medIdx counters =
      daemon.conclude answers callId medIdx
        (daemon.stallCounters.observe (transmitted counters)) := by
  cases counters with
  | error status =>
      apply silentWindow_eq
      exact Nat.not_lt_zero _
  | ok counters =>
      by_cases grows : daemon.videoTxPacketsSeen < counters.tx
      · have counted : daemon.stallCounters.observe (transmitted (.ok counters)) =
            some ⟨counters.tx, 0⟩ := if_pos grows
        rw [counted, judgeVideo, if_pos grows]
        rfl
      · rw [judgeVideo, if_neg grows]
        apply silentWindow_eq
        exact grows

/-- What is read of a stream does not depend on the daemon. -/
theorem getRtpCounters_answer (lib : CallLib) (answers : Answers) (reading : Nat) (callId : CallId)
    (type : MediaType) (daemon other : Daemon) :
    (daemon.getRtpCounters lib answers reading callId type).1 =
      (other.getRtpCounters lib answers reading callId type).1 := by
  by_cases valid : lib.isValidCallId callId = true
  · cases read : answers.info reading with
    | error status => simp [getRtpCounters, getInfo, valid, read]
    | ok info =>
        cases found : info.media.findIdx? fun stream =>
            stream.type = type && stream.status = .active with
        | none => simp [getRtpCounters, getInfo, valid, read, found]
        | some medIdx => simp [getRtpCounters, getInfo, valid, read, found]
  · simp [getRtpCounters, getInfo, valid]

theorem Asks.stallCounters_eq {before after : Daemon} (asks : Asks callId before after) :
    after.stallCounters = before.stallCounters := by
  obtain ⟨added, rfl, -⟩ := asks
  rfl

theorem scheduleTimer_stallCounters (name : TimerName) (msec : Nat) :
    (daemon.scheduleTimer answers name msec).stallCounters = daemon.stallCounters := by
  unfold scheduleTimer
  dsimp only
  split
  · rfl
  · rfl

theorem scheduleTimer_getLast (name : TimerName) (msec : Nat) :
    (daemon.scheduleTimer answers name msec).log.getLast? =
      some (.scheduleTimer name msec (daemon.timers name).inHeap) := by
  unfold scheduleTimer
  dsimp only
  split
  · exact List.getLast?_concat
  · exact List.getLast?_concat

/-- Giving up leaves the call's id in the timer. -/
theorem giveUpOnVideo_userData (medIdx : Nat) (status : Status) (reason : Bytes) :
    ((daemon.giveUpOnVideo callId medIdx status reason).timers .watchdog).userData =
      (daemon.timers .watchdog).userData := by
  unfold giveUpOnVideo cancelVideoWatchdog cancelTimer
  dsimp only
  split
  · rfl
  · split
    · simp
    · rfl

end Daemon

/-! ## Ticks -/

/-- A tick of the watchdog: the daemon as the timer expires, and what pjsua answers. -/
structure Tick where
  daemon : Daemon
  answers : Answers

namespace Tick

variable (lib : CallLib) (callId : CallId) (tick : Tick)

/-- The daemon after the tick. -/
def after : Daemon := tick.daemon.videoWatchdogCb lib tick.answers

/-- The transmit counter that the tick reads. -/
def reading : Option Nat :=
  transmitted (tick.daemon.getRtpCounters lib tick.answers 1 callId .video).1

/-- The call is confirmed and sends video. -/
def Sending : Prop :=
  ∃ info, tick.answers.info 0 = .ok info ∧ info.state = .confirmed ∧ SendsVideo info.media

/-- pjsua is asked to remove the video. -/
def GivesUp : Prop := tick.daemon.removals callId < (tick.after lib).removals callId

/-- The last thing pjsua is asked for is the next tick. -/
def Reschedules : Prop :=
  ∃ inHeap, (tick.after lib).log.getLast? =
    some (.scheduleTimer .watchdog videoWatchdogMsec inHeap)

end Tick

/-- What the watchdog of a call goes by is as it was. -/
structure Daemon.SameWatch (callId : CallId) (before after : Daemon) : Prop where
  userData : (after.timers .watchdog).userData = (before.timers .watchdog).userData
  counters : after.stallCounters = before.stallCounters
  latch : after.videoFailedCallId = callId ↔ before.videoFailedCallId = callId

/-- Ticks of a call's watchdog, one after the other: each finds the call confirmed and sending,
and what happens between two of them neither arms the watchdog again nor gives up on the
video. -/
def Ticks (lib : CallLib) (callId : CallId) : Daemon → List Tick → Prop
  | _, [] => True
  | daemon, tick :: rest =>
      daemon.SameWatch callId tick.daemon ∧ tick.Sending ∧ Ticks lib callId (tick.after lib) rest

/-- What holds of the daemon after these readings. -/
structure Watched (callId : CallId) (readings : List (Option Nat)) (daemon : Daemon) : Prop where
  userData : (daemon.timers .watchdog).userData = callId
  latch : daemon.videoFailedCallId = callId ↔ Stalled readings
  counters : ∀ counters, observed readings = some counters → daemon.stallCounters = counters

namespace Watched

variable {lib : CallLib} {callId : CallId} {readings : List (Option Nat)} {daemon : Daemon}
variable {tick : Tick}

theorem of_same {after : Daemon} (watched : Watched callId readings daemon)
    (same : daemon.SameWatch callId after) : Watched callId readings after where
  userData := same.userData.trans watched.userData
  latch := same.latch.trans watched.latch
  counters counters isSome := same.counters.trans (watched.counters counters isSome)

/-- A tick is the detector's verdict on its reading, after some questions. -/
theorem after_eq (lib : CallLib) (watched : Watched callId readings tick.daemon)
    (sending : tick.Sending) :
    ∃ asked medIdx, tick.daemon.Keeps [.watchdog] asked ∧
      (asked.timers .watchdog).userData = callId ∧
      tick.after lib = asked.conclude tick.answers callId medIdx
        (tick.daemon.stallCounters.observe (tick.reading lib callId)) := by
  obtain ⟨info, read, confirmed, sends⟩ := sending
  cases found : findSendingVideo info.media with
  | none => exact (findSendingVideo_eq_none_iff.mp found sends).elim
  | some medIdx =>
      have first : Daemon.Asks callId (tick.daemon.clearScheduled .watchdog)
          ((tick.daemon.clearScheduled .watchdog).record (.getInfo callId)) :=
        (Daemon.Asks.refl _ _).record rfl
      have asks := first.getRtpCounters lib tick.answers 1 .video
      have cleared := (Daemon.Keeps.refl [.watchdog] tick.daemon).setTimer
        (List.mem_singleton_self _) { tick.daemon.timers .watchdog with scheduled := false }
      refine ⟨_, medIdx, cleared.asks asks, ?_, ?_⟩
      · rw [asks.timers_eq]
        simpa [Daemon.clearScheduled] using watched.userData
      · rw [Tick.after, Daemon.videoWatchdogCb_sending lib tick.daemon read confirmed found,
          watched.userData]
        dsimp only
        rw [Daemon.judgeVideo_eq, asks.stallCounters_eq, Tick.reading,
          Daemon.getRtpCounters_answer lib tick.answers 1 callId .video tick.daemon]
        rfl

/-- The detector goes on: the next tick is scheduled. -/
theorem goesOn {counters next : StallCounters} (watched : Watched callId readings tick.daemon)
    (sending : tick.Sending) (steady : ¬Stalled (readings ++ [tick.reading lib callId]))
    (isSome : observed readings = some counters)
    (isNext : counters.observe (tick.reading lib callId) = some next) :
    Watched callId (readings ++ [tick.reading lib callId]) (tick.after lib) ∧
      ¬tick.GivesUp lib callId ∧ tick.Reschedules lib := by
  obtain ⟨asked, medIdx, kept, userData, leaves⟩ := watched.after_eq lib sending
  rw [watched.counters counters isSome, isNext, Daemon.conclude] at leaves
  have keeps := (kept.counted next.seen next.ticks).scheduleTimer (List.mem_singleton_self _)
    tick.answers videoWatchdogMsec
  rw [← leaves] at keeps
  have unlatched : tick.daemon.videoFailedCallId ≠ callId := by
    intro latched
    exact steady (stalled_snoc.mpr (.inl (watched.latch.mp latched)))
  refine ⟨⟨?_, ?_, ?_⟩, ?_, ?_⟩
  · rw [leaves, Daemon.scheduleTimer_userData]
    exact userData
  · rw [keeps.latch]
    exact iff_of_false unlatched steady
  · intro after isAfter
    rw [observed, List.foldlM_append, ← observed, isSome] at isAfter
    simp only [Option.bind_eq_bind, Option.bind_some, List.foldlM_cons, isNext, List.foldlM_nil,
      Option.pure_def, Option.some.injEq] at isAfter
    rw [leaves, Daemon.scheduleTimer_stallCounters, ← isAfter]
    rfl
  · rw [Tick.GivesUp, keeps.removals]
    exact Nat.lt_irrefl _
  · exact ⟨_, leaves ▸ Daemon.scheduleTimer_getLast .watchdog videoWatchdogMsec⟩

/-- The detector gives up: so does the watchdog, if it has not before. -/
theorem stops {counters : StallCounters} (watched : Watched callId readings tick.daemon)
    (sending : tick.Sending) (steady : ¬Stalled readings)
    (stalls : Stalls readings (tick.reading lib callId))
    (isSome : observed readings = some counters)
    (isNone : counters.observe (tick.reading lib callId) = none) :
    Watched callId (readings ++ [tick.reading lib callId]) (tick.after lib) ∧
      tick.GivesUp lib callId := by
  obtain ⟨asked, medIdx, kept, userData, leaves⟩ := watched.after_eq lib sending
  rw [watched.counters counters isSome, isNone, Daemon.conclude] at leaves
  have stalled := stalled_snoc.mpr (.inr stalls)
  have unlatched : asked.videoFailedCallId ≠ callId := by
    rw [kept.latch]
    intro latched
    exact steady (watched.latch.mp latched)
  refine ⟨⟨?_, ?_, ?_⟩, ?_⟩
  · rw [leaves, Daemon.giveUpOnVideo_userData]
    exact userData
  · rw [leaves, Daemon.giveUpOnVideo_latch]
    exact iff_of_true rfl stalled
  · intro after isAfter
    rw [observed, List.foldlM_append, ← observed, isSome] at isAfter
    simp [isNone] at isAfter
  · have removed := Daemon.giveUpOnVideo_removals callId medIdx .success
      (ascii "the video capture device stopped producing frames")
      { asked with videoStallTicks := asked.videoStallTicks + 1 } callId
    rw [if_pos ⟨rfl, unlatched.symm⟩, ← leaves] at removed
    have same : asked.removals callId = tick.daemon.removals callId := kept.removals callId
    have counted : (tick.after lib).removals callId = asked.removals callId + 1 := removed
    rw [Tick.GivesUp]
    omega

/-- After a tick that gave up, no other does. -/
theorem stopped (lib : CallLib) (watched : Watched callId readings tick.daemon)
    (sending : tick.Sending) (stalled : Stalled readings) :
    Watched callId (readings ++ [tick.reading lib callId]) (tick.after lib) ∧
      ¬tick.GivesUp lib callId := by
  obtain ⟨asked, medIdx, kept, userData, leaves⟩ := watched.after_eq lib sending
  have latched : asked.videoFailedCallId = callId := by
    rw [kept.latch]
    exact watched.latch.mpr stalled
  have keeps : tick.daemon.Keeps [.watchdog] (tick.after lib) ∧
      ((tick.after lib).timers .watchdog).userData = callId := by
    rw [leaves]
    cases tick.daemon.stallCounters.observe (tick.reading lib callId) with
    | some next =>
        refine ⟨(kept.counted next.seen next.ticks).scheduleTimer (List.mem_singleton_self _) _ _,
          ?_⟩
        rw [Daemon.conclude, Daemon.scheduleTimer_userData]
        exact userData
    | none =>
        rw [Daemon.conclude, Daemon.giveUpOnVideo, if_pos latched.symm]
        exact ⟨kept.counted _ _, userData⟩
  refine ⟨⟨keeps.2, ?_, ?_⟩, ?_⟩
  · rw [keeps.1.latch]
    exact iff_of_true (watched.latch.mpr stalled) (stalled_snoc.mpr (.inl stalled))
  · intro after isAfter
    obtain ⟨-, isNone⟩ | ⟨steady, -⟩ := observed_cases readings
    · rw [observed, List.foldlM_append, ← observed, isNone] at isAfter
      cases isAfter
    · exact (steady stalled).elim
  · rw [Tick.GivesUp, keeps.1.removals]
    exact Nat.lt_irrefl _

/-- What one tick does: it gives up exactly at the first reading that stalls, and asks for the
next tick as long as none has. -/
theorem step (lib : CallLib) (watched : Watched callId readings tick.daemon)
    (sending : tick.Sending) :
    Watched callId (readings ++ [tick.reading lib callId]) (tick.after lib) ∧
    (tick.GivesUp lib callId ↔ ¬Stalled readings ∧ Stalls readings (tick.reading lib callId)) ∧
    (¬Stalled (readings ++ [tick.reading lib callId]) → tick.Reschedules lib) := by
  obtain ⟨stalled, -⟩ | ⟨steady, counters, isSome, counting⟩ := observed_cases readings
  · obtain ⟨next, keeps⟩ := watched.stopped lib sending stalled
    refine ⟨next, iff_of_false keeps fun first => first.1 stalled, fun none => ?_⟩
    exact (none (stalled_snoc.mpr (.inl stalled))).elim
  · obtain ⟨stalls, isNone⟩ | ⟨grows, next, isNext, -⟩ :=
      counting.observe (tick.reading lib callId)
    · obtain ⟨after, givesUp⟩ := watched.stops sending steady stalls isSome isNone
      refine ⟨after, iff_of_true givesUp ⟨steady, stalls⟩, fun none => ?_⟩
      exact (none (stalled_snoc.mpr (.inr stalls))).elim
    · have still : ¬Stalled (readings ++ [tick.reading lib callId]) := by
        rw [stalled_snoc]
        exact not_or.mpr ⟨steady, grows⟩
      obtain ⟨after, keeps, asks⟩ := watched.goesOn sending still isSome isNext
      exact ⟨after, iff_of_false keeps fun first => grows first.2, fun _ => asks⟩

/-- And what a row of ticks does. -/
theorem row {before after : List Tick} (watched : Watched callId readings daemon)
    (ticks : Ticks lib callId daemon (before ++ tick :: after)) :
    let earlier := readings ++ before.map (Tick.reading lib callId)
    (tick.GivesUp lib callId ↔ ¬Stalled earlier ∧ Stalls earlier (tick.reading lib callId)) ∧
    (¬Stalled (earlier ++ [tick.reading lib callId]) → tick.Reschedules lib) := by
  induction before generalizing readings daemon with
  | nil =>
      obtain ⟨same, sending, -⟩ := ticks
      simpa using ((watched.of_same same).step lib sending).2
  | cons first before ih =>
      obtain ⟨same, sending, rest⟩ := ticks
      have next := ((watched.of_same same).step lib sending).1
      simpa using ih next rest

end Watched

/-- The watchdog has just been armed. -/
theorem Daemon.armVideoWatchdog_watched (daemon : Daemon) (answers : Answers) {callId : CallId}
    {media : List CallMedia} (sends : SendsVideo media)
    (unlatched : callId ≠ daemon.videoFailedCallId) :
    Watched callId [] (daemon.armVideoWatchdog answers callId media) := by
  have latch : daemon.cancelVideoWatchdog.videoFailedCallId = daemon.videoFailedCallId :=
    ((Keeps.refl [.watchdog] daemon).cancelTimer (List.mem_singleton_self _)).latch
  have armed : ¬(findSendingVideo media = none ∨
      callId = daemon.cancelVideoWatchdog.videoFailedCallId) := by
    rintro (none | latched)
    · exact findSendingVideo_eq_none_iff.mp none sends
    · exact unlatched (latched.trans latch)
  rw [armVideoWatchdog, if_neg armed]
  have keeps := (((Keeps.refl [.watchdog] daemon.cancelVideoWatchdog).counted 0 0).initTimer
    (List.mem_singleton_self _) callId).scheduleTimer (List.mem_singleton_self _) answers
      videoWatchdogMsec
  refine ⟨armed_userData videoWatchdogMsec, ?_, ?_⟩
  · rw [keeps.latch, latch]
    exact iff_of_false unlatched.symm not_stalled_nil
  · rintro counters ⟨⟩
    rw [scheduleTimer_stallCounters]
    rfl

/-! ## The verdict -/

/-- Every reading is that of a counter which grew since the readings before it. -/
def Growing (readings : List (Option Nat)) : Prop :=
  ∀ before reading after, readings = before ++ reading :: after →
    ∃ count, reading = some count ∧ highest before < count

theorem Growing.not_stalled {readings : List (Option Nat)} (growing : Growing readings) :
    ¬Stalled readings := by
  rintro ⟨before, reading, after, same, -, silent⟩
  obtain ⟨count, isCount, grows⟩ := growing before reading after same
  have bounded := silent count isCount
  omega

/-- After the watchdog is armed, and while the call stays confirmed and sends video: a tick
gives up exactly at the first reading after the first that failed or does not exceed the earlier
ones, and every tick before asks for the next. So a counter that grows in every window is never
given up; one that grew and stops, after one silent window; one that never grew, after two. -/
theorem watchdog_gives_up_exactly (lib : CallLib) (daemon : Daemon) (answers : Answers)
    {callId : CallId} {media : List CallMedia} (sends : SendsVideo media)
    (unlatched : callId ≠ daemon.videoFailedCallId) {before after : List Tick} {tick : Tick}
    (ticks : Ticks lib callId (daemon.armVideoWatchdog answers callId media)
      (before ++ tick :: after)) :
    let earlier := before.map (Tick.reading lib callId)
    let reading := tick.reading lib callId
    (tick.GivesUp lib callId ↔ ¬Stalled earlier ∧ Stalls earlier reading) ∧
    (¬Stalled (earlier ++ [reading]) → tick.Reschedules lib) ∧
    (Growing (earlier ++ [reading]) → ¬tick.GivesUp lib callId) ∧
    (Growing earlier → earlier ≠ [] → (∀ count, reading = some count → count ≤ highest earlier) →
      tick.GivesUp lib callId) ∧
    (∀ first, earlier = [first] → first.getD 0 = 0 → reading.getD 0 = 0 →
      tick.GivesUp lib callId) := by
  intro earlier reading
  have verdict := (daemon.armVideoWatchdog_watched answers sends unlatched).row ticks
  have exactly : tick.GivesUp lib callId ↔ ¬Stalled earlier ∧ Stalls earlier reading := verdict.1
  refine ⟨exactly, verdict.2, fun growing givesUp => ?_, fun growing some silent => ?_, ?_⟩
  · have stalls := (exactly.mp givesUp).2
    exact growing.not_stalled (stalled_snoc.mpr (.inr stalls))
  · exact exactly.mpr ⟨growing.not_stalled, some, silent⟩
  · intro first one _ silent
    have alone : ¬Stalled ([] ++ [first]) := by
      rw [stalled_snoc]
      exact not_or.mpr ⟨not_stalled_nil, fun stalls => stalls.1 rfl⟩
    rw [exactly, stalls_iff, one, silent]
    exact ⟨alone, List.cons_ne_nil _ _, Nat.zero_le _⟩

/-- Call 0 sends video, and this many packets went out. -/
def sentAnswers (sent : Nat) : Answers :=
  { Answers.sample 0 .confirmed [sampleVideo] with streamStat := fun _ => .ok ⟨sent, 0⟩ }

/-- Its watchdog ticks twice, and nothing goes out between the ticks. -/
def firstTick : Tick :=
  ⟨Daemon.start.armVideoWatchdog (sentAnswers 0) 0 [sampleVideo], sentAnswers 5⟩

def secondTick : Tick := ⟨firstTick.after sampleCallLib, sentAnswers 5⟩

theorem secondTick_givesUp :
    Ticks sampleCallLib 0 firstTick.daemon [firstTick, secondTick] ∧
      secondTick.GivesUp sampleCallLib 0 := by
  have sends : SendsVideo [sampleVideo] := ⟨sampleVideo, by simp, rfl, rfl, rfl⟩
  have same (daemon : Daemon) : daemon.SameWatch 0 daemon := ⟨rfl, rfl, Iff.rfl⟩
  have ticks : Ticks sampleCallLib 0 firstTick.daemon ([firstTick] ++ secondTick :: []) :=
    ⟨same _, ⟨_, rfl, rfl, sends⟩, same _, ⟨_, rfl, rfl, sends⟩, trivial⟩
  have verdict :=
    watchdog_gives_up_exactly sampleCallLib .start (sentAnswers 0) sends (by decide) ticks
  have growing : Growing [some 5] := by
    rintro before reading after same
    cases before with
    | nil =>
        cases same
        exact ⟨5, rfl, by decide⟩
    | cons head before => cases before <;> cases same
  exact ⟨ticks, verdict.2.2.2.1 growing (by decide) (by rintro count ⟨⟩; decide)⟩

end Pjsocky
