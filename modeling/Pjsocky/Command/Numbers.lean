import Mathlib.Algebra.Order.AbsoluteValue.Basic
import Mathlib.Algebra.Order.Ring.Rat
import Mathlib.Tactic.Linarith
import Mathlib.Tactic.NormNum
import Pjsocky.Command.Media
import Pjsocky.Support.SignificantBits

/-!
# The packet counters of `call.get_info`

Every number leaves the daemon through `pjsocky_json_add_number`, which takes a `float`, so a
client reads an integer to 24 significant bits. A packet counter may have more. What a client
asks of two readings of a counter, whether anything was sent and whether anything is being
sent, is still answered.
-/

namespace Pjsocky

open Support

theorem toFloat_natCast (value : Nat) : toFloat value = roundBits 24 value := by
  unfold toFloat
  dsimp only
  rw [Int.natAbs_natCast]
  split
  · rename_i small
    rw [roundBits_small small, Int.cast_natCast]
  · rename_i large
    have positive : 0 < value := by omega
    rw [Int.sign_natCast_of_ne_zero positive.ne', Int.cast_one, one_mul]
    rfl

/-! ## One reading -/

/-- `read` is what a client reads of the counter `count`. -/
structure Approximates (count : Nat) (read : ℚ) : Prop where
  /-- It reads zero just when nothing was counted. -/
  idle : read = 0 ↔ count = 0
  /-- It is one part in `2 ^ 24` off at most. -/
  near : |read - count| * 2 ^ 24 ≤ count
  /-- It is the count itself when that fits, and is never below `2 ^ 24` otherwise. -/
  exactly : read = count ↔ FitsBits 24 count
  large : read < 2 ^ 24 ↔ count < 2 ^ 24

theorem toFloat_natCast_lt (value : Nat) :
    toFloat value < 2 ^ 24 ↔ value < 2 ^ 24 := by
  rw [toFloat_natCast]
  constructor
  · intro below
    by_contra! large
    have kept : roundBits 24 (2 ^ 24) = 2 ^ 24 :=
      (roundBits_eq_self_iff (by decide)).mpr ⟨1, 24, by decide, rfl⟩
    have above := roundBits_mono 24 large
    rw [kept] at above
    exact absurd below (not_lt.mpr (by exact_mod_cast above))
  · intro small
    rw [roundBits_small small]
    exact_mod_cast small

theorem toFloat_approximates (count : Nat) : Approximates count (toFloat count) where
  idle := by
    rw [toFloat_natCast, Nat.cast_eq_zero]
    have bounds := roundBits_error (by decide : 0 < 24) count
    omega
  near := by
    obtain ⟨above, below⟩ := roundBits_error (by decide : 0 < 24) count
    have above' : (2 : ℚ) ^ 24 * roundBits 24 count ≤ 2 ^ 24 * count + count := by
      exact_mod_cast above
    have below' : (2 : ℚ) ^ 24 * count ≤ 2 ^ 24 * roundBits 24 count + count := by
      exact_mod_cast below
    rw [toFloat_natCast, ← le_div_iff₀ (by norm_num), abs_le]
    constructor
    · linarith
    · linarith
  exactly := by
    rw [toFloat_natCast, Nat.cast_inj, roundBits_eq_self_iff (by decide)]
  large := toFloat_natCast_lt count

/-! ## Two readings -/

theorem toFloat_natCast_mono {before after : Nat} (le : before ≤ after) :
    toFloat before ≤ toFloat after := by
  rw [toFloat_natCast, toFloat_natCast]
  exact_mod_cast roundBits_mono 24 le

/-- What two readings of a counter say of the packets in between: a greater one that there were
some, and the same one below `2 ^ 24` that there were none. -/
structure Compared (before after : Nat) (first second : ℚ) : Prop where
  kept : before ≤ after → first ≤ second
  flowed : first < second → before < after
  still : first = second → first < 2 ^ 24 → before = after

theorem toFloat_compared (before after : Nat) :
    Compared before after (toFloat before) (toFloat after) where
  kept := toFloat_natCast_mono
  flowed := by
    intro less
    by_contra! le
    exact absurd less (not_lt.mpr (toFloat_natCast_mono le))
  still := by
    intro same small
    have below := (toFloat_natCast_lt before).mp small
    have after' := (toFloat_natCast_lt after).mp (same ▸ small)
    rw [toFloat_natCast, toFloat_natCast, Nat.cast_inj, roundBits_small below,
      roundBits_small after'] at same
    exact same

/-! ## The answers -/

/-- A counter of `call.get_info`: the key it is sent under, the type of media it is of, when
the info that finds its stream is read, and which of the two of the stream it is. -/
structure Counter where
  key : String
  type : MediaType
  reading : Nat
  of : RtpCounters → Nat

/-- The counters `cmd_call_get_info` adds. -/
def callCounters : List Counter :=
  [⟨"audio_tx_packets", .audio, 1, RtpCounters.tx⟩,
    ⟨"audio_rx_packets", .audio, 1, RtpCounters.rx⟩,
    ⟨"video_tx_packets", .video, 2, RtpCounters.tx⟩,
    ⟨"video_rx_packets", .video, 2, RtpCounters.rx⟩]

/-- `count` is what the first active stream of the counter's type has counted. -/
def Counter.Counts (counter : Counter) (answers : Answers) (count : Nat) : Prop :=
  ∃ info medIdx counters, answers.info counter.reading = .ok info ∧
    FirstActive counter.type info.media medIdx ∧ answers.streamStat medIdx = .ok counters ∧
    counter.of counters = count

/-- A client reads a number under a key of a result. -/
def Reads (result : Members) (key : String) (read : ℚ) : Prop :=
  jsonFind (.obj result) key = some (.num read)

/-- Nothing is read from a bare answer. -/
theorem not_reads_nil (key : String) (read : ℚ) : ¬Reads [] key read := by
  intro found
  cases found

/-- What is read under the keys of a type is what was read for it. -/
theorem reads_counted {keys : MediaKeys} {result : Members}
    {counters : Except Failure RtpCounters} (read : ℚ)
    (counted : ∀ values, counters = .ok values → Counted keys result values)
    (uncounted : ∀ status, counters = .error status → Uncounted keys result) :
    (Reads result keys.tx read → ∃ values, counters = .ok values ∧ read = toFloat values.tx) ∧
    (Reads result keys.rx read → ∃ values, counters = .ok values ∧ read = toFloat values.rx) := by
  cases counters with
  | error status =>
      obtain ⟨noTx, noRx⟩ := uncounted status rfl
      constructor
      · intro found
        cases noTx.symm.trans found
      · intro found
        cases noRx.symm.trans found
  | ok values =>
      obtain ⟨tx, rx⟩ := counted values rfl
      constructor
      · intro found
        have same := tx.symm.trans found
        rw [Option.some_inj, Json.num.injEq] at same
        exact ⟨values, rfl, same.symm⟩
      · intro found
        have same := rx.symm.trans found
        rw [Option.some_inj, Json.num.injEq] at same
        exact ⟨values, rfl, same.symm⟩

/-- A number under the key of a counter is one that was read for its type. -/
theorem reads_counter {counter : Counter} (isCounter : counter ∈ callCounters) {info : CallInfo}
    {audio video : Except Failure RtpCounters} {read : ℚ}
    (found : Reads (callGetInfoMembers info audio video) counter.key read) :
    ∃ values, read = toFloat (counter.of values) ∧
      ((counter.type = .audio ∧ counter.reading = 1 ∧ audio = .ok values) ∨
        (counter.type = .video ∧ counter.reading = 2 ∧ video = .ok values)) := by
  let result := callGetInfoMembers info audio video
  have ofAudio : (Reads result _ read → _) ∧ (Reads result _ read → _) :=
    reads_counted read callGetInfoMembers_audio.1 callGetInfoMembers_audio.2
  have ofVideo : (Reads result _ read → _) ∧ (Reads result _ read → _) :=
    reads_counted read callGetInfoMembers_video.1 callGetInfoMembers_video.2
  simp only [callCounters, List.mem_cons, List.not_mem_nil, or_false] at isCounter
  obtain rfl | rfl | rfl | rfl := isCounter
  · obtain ⟨values, ok, same⟩ := ofAudio.1 found
    exact ⟨values, same, .inl ⟨rfl, rfl, ok⟩⟩
  · obtain ⟨values, ok, same⟩ := ofAudio.2 found
    exact ⟨values, same, .inl ⟨rfl, rfl, ok⟩⟩
  · obtain ⟨values, ok, same⟩ := ofVideo.1 found
    exact ⟨values, same, .inr ⟨rfl, rfl, ok⟩⟩
  · obtain ⟨values, ok, same⟩ := ofVideo.2 found
    exact ⟨values, same, .inr ⟨rfl, rfl, ok⟩⟩

namespace Daemon

/-- The counters that are read are those of the first active stream. -/
theorem getRtpCounters_ok {lib : CallLib} {answers : Answers} {reading : Nat} {callId : CallId}
    {type : MediaType} {daemon : Daemon} {values : RtpCounters}
    (ok : (daemon.getRtpCounters lib answers reading callId type).1 = .ok values) :
    ∃ info medIdx, answers.info reading = .ok info ∧ FirstActive type info.media medIdx ∧
      answers.streamStat medIdx = .ok values := by
  unfold getRtpCounters at ok
  dsimp only at ok
  split at ok
  · cases ok
  · rename_i info read
    have answered : answers.info reading = .ok info := by
      unfold getInfo at read
      split at read
      · cases read
      · exact read
    split at ok
    · cases ok
    · rename_i medIdx found
      exact ⟨info, medIdx, answered, findIdx?_eq_some_iff_firstActive.mp found, ok⟩

/-- Every counter in an answer is one that was read, as it is told. -/
theorem cmdCallGetInfo_counter {build : Build} {outcomes : Outcomes} {params : Option JsonElem}
    {daemon : Daemon} {counter : Counter} (isCounter : counter ∈ callCounters) {read : ℚ}
    (found : Reads (daemon.cmdCallGetInfo build outcomes params).1.result counter.key read) :
    ∃ count, counter.Counts outcomes.answers count ∧ read = toFloat (count : Nat) := by
  unfold cmdCallGetInfo at found
  dsimp only at found
  split at found
  · cases not_reads_nil _ _ found
  · split at found
    · cases not_reads_nil _ _ found
    · obtain ⟨values, same, ⟨type, reading, ok⟩ | ⟨type, reading, ok⟩⟩ :=
        reads_counter isCounter found
      · obtain ⟨info, medIdx, answered, first, counted⟩ := getRtpCounters_ok ok
        exact ⟨_, ⟨info, medIdx, values, reading ▸ answered, type ▸ first, counted, rfl⟩, same⟩
      · obtain ⟨info, medIdx, answered, first, counted⟩ := getRtpCounters_ok ok
        exact ⟨_, ⟨info, medIdx, values, reading ▸ answered, type ▸ first, counted, rfl⟩, same⟩

end Daemon

/-- For every two `call.get_info` requests, whatever the states of the daemon and the calls they
are about, and every counter that both answers have: each number read is what the first active
stream of that type has counted, as `Approximates` says, and the two compare as the counts do. -/
theorem counters_told (build : Build) (outcomes later : Outcomes)
    (params laterParams : Option JsonElem) (daemon laterDaemon : Daemon) {counter : Counter}
    (isCounter : counter ∈ callCounters) {first second : ℚ}
    (read : Reads (daemon.cmdCallGetInfo build outcomes params).1.result counter.key first)
    (reread : Reads (laterDaemon.cmdCallGetInfo build later laterParams).1.result counter.key
      second) :
    ∃ before after, counter.Counts outcomes.answers before ∧ counter.Counts later.answers after ∧
      Approximates before first ∧ Approximates after second ∧
      Compared before after first second := by
  obtain ⟨before, counted, rfl⟩ := Daemon.cmdCallGetInfo_counter isCounter read
  obtain ⟨after, recounted, rfl⟩ := Daemon.cmdCallGetInfo_counter isCounter reread
  exact ⟨before, after, counted, recounted, toFloat_approximates before, toFloat_approximates after,
    toFloat_compared before after⟩

/-- What `pjsua` answers about call 0 when its video stream has sent `sent` packets. -/
def sendingOutcomes (sent : Nat) : Outcomes :=
  { Outcomes.sample with answers :=
      { Answers.sample 0 .confirmed Daemon.heldVideo with streamStat := fun _ => .ok ⟨sent, 0⟩ } }

/-- `2 ^ 24 + 1` packets are told to be one less, which is still more than before. -/
theorem counters_told_large :
    ∃ before after, Approximates after (2 ^ 24) ∧ Compared before after (2 ^ 24 - 1) (2 ^ 24) := by
  have first : toFloat ((2 ^ 24 - 1 : Nat) : Int) = 2 ^ 24 - 1 := by
    decide +kernel
  have second : toFloat ((2 ^ 24 + 1 : Nat) : Int) = 2 ^ 24 := by
    decide +kernel
  obtain ⟨before, after, -, -, -, near, compared⟩ := counters_told (sampleBuild [])
    (sendingOutcomes (2 ^ 24 - 1)) (sendingOutcomes (2 ^ 24 + 1)) (some Daemon.infoParams)
    (some Daemon.infoParams) .start .start
    (.tail _ (.tail _ (.head _)) : ⟨"video_tx_packets", .video, 2, RtpCounters.tx⟩ ∈ callCounters)
    (congrArg (some ∘ Json.num) first)
    (congrArg (some ∘ Json.num) second)
  exact ⟨before, after, near, compared⟩

end Pjsocky
