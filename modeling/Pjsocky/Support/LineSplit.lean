import Mathlib.Data.List.Basic

/-!
# Splitting a stream at a separator

`completeLines` is the reference splitter: cut at each separator, drop it, and
keep only what a separator ended. `unfinished` is the rest after the last
separator. `completeLines_append` and `unfinished_append` are what makes the
result independent of how the stream arrives: a reader needs to keep only the
unfinished tail. `firstOverflow` is the first position of a stream at which the
unfinished tail has grown to a limit.
-/

namespace Support.LineSplit

variable {α : Type} [DecidableEq α]

/-- The lines that a separator ends, without it, in order. -/
def completeLines (separator : α) (stream : List α) : List (List α) :=
  (stream.splitOn separator).dropLast

/-- What follows the last separator. -/
def unfinished (separator : α) (stream : List α) : List α :=
  (stream.splitOn separator).getLastD []

variable {separator : α}

theorem completeLines_of_not_mem {stream : List α} (absent : separator ∉ stream) :
    completeLines separator stream = [] := by
  simp [completeLines, List.splitOn_eq_singleton absent]

theorem unfinished_of_not_mem {stream : List α} (absent : separator ∉ stream) :
    unfinished separator stream = stream := by
  simp [unfinished, List.splitOn_eq_singleton absent]

@[simp] theorem completeLines_nil : completeLines separator ([] : List α) = [] :=
  completeLines_of_not_mem (List.not_mem_nil)

@[simp] theorem unfinished_nil : unfinished separator ([] : List α) = [] :=
  unfinished_of_not_mem (List.not_mem_nil)

/-- A separator ends the line before it and nothing else. -/
theorem completeLines_cut {line : List α} (absent : separator ∉ line) (rest : List α) :
    completeLines separator (line ++ separator :: rest) =
      line :: completeLines separator rest := by
  have nonempty : rest.splitOn separator ≠ [] := List.splitOn_ne_nil separator rest
  simp only [completeLines, List.splitOn_append_cons_self, List.splitOn_eq_singleton absent,
    List.singleton_append]
  exact List.dropLast_cons_of_ne_nil nonempty

theorem unfinished_cut (stream rest : List α) :
    unfinished separator (stream ++ separator :: rest) = unfinished separator rest := by
  have nonempty : rest.splitOn separator ≠ [] := List.splitOn_ne_nil separator rest
  simp only [unfinished, List.splitOn_append_cons_self, List.getLastD_eq_getLast?,
    List.getLast?_append, List.getLast?_eq_some_getLast nonempty, Option.some_or]

/-- Cut a stream that has a separator at its first one. -/
theorem exists_cut {stream : List α} (member : separator ∈ stream) :
    ∃ line rest, separator ∉ line ∧ stream = line ++ separator :: rest := by
  induction stream with
  | nil => simp at member
  | cons head tail ih =>
      by_cases same : head = separator
      · exact ⟨[], tail, by simp, by simp [same]⟩
      · have later : separator ∈ tail := by
          rcases List.mem_cons.mp member with here | later
          · exact absurd here.symm same
          · exact later
        obtain ⟨line, rest, absent, rfl⟩ := ih later
        exact ⟨head :: line, rest, by simp [absent, Ne.symm same], rfl⟩

/-- Splitting consumes lines one at a time, down to a stream with no separator. -/
theorem cut_induction (separator : α) {motive : List α → Prop}
    (tail : ∀ stream, separator ∉ stream → motive stream)
    (cut : ∀ line rest, separator ∉ line → motive rest → motive (line ++ separator :: rest))
    (stream : List α) : motive stream := by
  induction size : stream.length using Nat.strongRecOn generalizing stream with
  | _ size ih =>
      by_cases member : separator ∈ stream
      · obtain ⟨line, rest, absent, rfl⟩ := exists_cut member
        refine cut line rest absent (ih rest.length ?_ rest rfl)
        rw [← size]
        simp only [List.length_append, List.length_cons]
        omega
      · exact tail stream member

theorem not_mem_unfinished (separator : α) (stream : List α) :
    separator ∉ unfinished separator stream := by
  induction stream using cut_induction separator with
  | tail stream absent => rwa [unfinished_of_not_mem absent]
  | cut line rest _ ih => rwa [unfinished_cut]

theorem length_unfinished_le (separator : α) (stream : List α) :
    (unfinished separator stream).length ≤ stream.length := by
  induction stream using cut_induction separator with
  | tail stream absent => exact Nat.le_of_eq (congrArg List.length (unfinished_of_not_mem absent))
  | cut line rest _ ih =>
      rw [unfinished_cut]
      simp only [List.length_append, List.length_cons]
      omega

/-- The lines of a stream that arrives in two parts: those of the first part,
then those of its unfinished tail followed by the second part. -/
theorem completeLines_append (separator : α) (first second : List α) :
    completeLines separator (first ++ second) =
      completeLines separator first ++
        completeLines separator (unfinished separator first ++ second) := by
  induction first using cut_induction separator with
  | tail first absent =>
      rw [completeLines_of_not_mem absent, unfinished_of_not_mem absent, List.nil_append]
  | cut line rest absent ih =>
      rw [List.append_assoc, List.cons_append, completeLines_cut absent, completeLines_cut absent,
        unfinished_cut, ih, List.cons_append]

theorem unfinished_append (separator : α) (first second : List α) :
    unfinished separator (first ++ second) =
      unfinished separator (unfinished separator first ++ second) := by
  induction first using cut_induction separator with
  | tail first absent => rw [unfinished_of_not_mem absent]
  | cut line rest absent ih =>
      rw [List.append_assoc, List.cons_append, unfinished_cut, unfinished_cut, ih]

/-- The first position at which `limit` elements have followed the last
separator. -/
def firstOverflow (separator : α) (limit : Nat) (stream : List α) : Option Nat :=
  (List.range (stream.length + 1)).find? fun position =>
    decide (limit ≤ (unfinished separator (stream.take position)).length)

/-- The part of a stream before its first overflow: all of it if there is none. -/
def admitted (separator : α) (limit : Nat) (stream : List α) : List α :=
  stream.take ((firstOverflow separator limit stream).getD stream.length)

variable {limit : Nat}

theorem firstOverflow_eq_none {stream : List α} :
    firstOverflow separator limit stream = none ↔
      ∀ position ≤ stream.length,
        (unfinished separator (stream.take position)).length < limit := by
  simp [firstOverflow, Nat.lt_succ_iff]

theorem admitted_of_none {stream : List α}
    (fits : firstOverflow separator limit stream = none) :
    admitted separator limit stream = stream := by
  simp [admitted, fits]

theorem firstOverflow_eq_some {stream : List α} {position : Nat}
    (inside : position ≤ stream.length)
    (reached : limit ≤ (unfinished separator (stream.take position)).length)
    (before : ∀ earlier < position,
      (unfinished separator (stream.take earlier)).length < limit) :
    firstOverflow separator limit stream = some position := by
  rw [firstOverflow, List.find?_range_eq_some]
  refine ⟨by simpa using reached, by simpa [Nat.lt_succ_iff] using inside, ?_⟩
  intro earlier isEarlier
  simpa using before earlier isEarlier

/-- A chunk that, with the unfinished tail before it, is no longer than the
limit can overflow only at its own end. -/
theorem length_unfinished_take_lt {stream chunk : List α} {count : Nat}
    (room : (unfinished separator stream).length + chunk.length ≤ limit)
    (early : count < chunk.length) :
    (unfinished separator (stream ++ chunk.take count)).length < limit := by
  rw [unfinished_append]
  have bound := length_unfinished_le separator
    (unfinished separator stream ++ chunk.take count)
  simp only [List.length_append, List.length_take] at bound
  omega

/-- Within such a chunk every position before its end is still below the limit. -/
theorem length_unfinished_lt_of_chunk {stream chunk : List α} (rest : List α)
    (fits : firstOverflow separator limit stream = none)
    (room : (unfinished separator stream).length + chunk.length ≤ limit)
    {position : Nat} (early : position < stream.length + chunk.length) :
    (unfinished separator ((stream ++ chunk ++ rest).take position)).length < limit := by
  by_cases old : position ≤ stream.length
  · rw [List.append_assoc, List.take_append_of_le_length old]
    exact firstOverflow_eq_none.mp fits position old
  · obtain ⟨count, rfl⟩ := Nat.exists_eq_add_of_le (Nat.le_of_not_le old)
    have inChunk : count < chunk.length := by omega
    rw [List.append_assoc, List.take_length_add_append,
      List.take_append_of_le_length (Nat.le_of_lt inChunk)]
    exact length_unfinished_take_lt room inChunk

/-- A chunk keeps the stream below the limit when its own end is. -/
theorem firstOverflow_append_eq_none {stream chunk : List α}
    (fits : firstOverflow separator limit stream = none)
    (room : (unfinished separator stream).length + chunk.length ≤ limit)
    (below : (unfinished separator (stream ++ chunk)).length < limit) :
    firstOverflow separator limit (stream ++ chunk) = none := by
  rw [firstOverflow_eq_none]
  intro position inside
  rcases Nat.lt_or_eq_of_le inside with early | last
  · have below := length_unfinished_lt_of_chunk [] fits room
      (by simpa using early : position < stream.length + chunk.length)
    simpa using below
  · rw [last, List.take_length]
    exact below

/-- A chunk whose end reaches the limit is where the stream overflows,
whatever follows it. -/
theorem firstOverflow_append_eq_some {stream chunk : List α} (rest : List α)
    (fits : firstOverflow separator limit stream = none)
    (room : (unfinished separator stream).length + chunk.length ≤ limit)
    (reached : limit ≤ (unfinished separator (stream ++ chunk)).length) :
    firstOverflow separator limit (stream ++ chunk ++ rest) =
      some (stream ++ chunk).length := by
  apply firstOverflow_eq_some
  · simp
  · rwa [List.take_left]
  · intro earlier isEarlier
    exact length_unfinished_lt_of_chunk rest fits room (by simpa using isEarlier)

/-- Lines that were each ended by a separator come back, and splitting goes on after them. -/
theorem completeLines_lines {lines : List (List α)} (absent : ∀ line ∈ lines, separator ∉ line)
    (rest : List α) :
    completeLines separator (lines.flatMap (· ++ [separator]) ++ rest) =
      lines ++ completeLines separator rest := by
  induction lines with
  | nil => rfl
  | cons line lines ih =>
      have first := absent line List.mem_cons_self
      have others := ih fun other member => absent other (List.mem_cons_of_mem _ member)
      rw [List.flatMap_cons, List.append_assoc, List.append_assoc, List.singleton_append,
        completeLines_cut first, others, List.cons_append]

theorem unfinished_lines (lines : List (List α)) (rest : List α) :
    unfinished separator (lines.flatMap (· ++ [separator]) ++ rest) =
      unfinished separator rest := by
  induction lines with
  | nil => rfl
  | cons line lines ih =>
      rw [List.flatMap_cons, List.append_assoc, List.append_assoc, List.singleton_append,
        unfinished_cut, ih]

end Support.LineSplit
