import Pjsocky.Support.Words

/-!
# Reading lines through a buffer

`fgets` reads a line into a buffer of fixed size, and splits a line that does not fit. So a
program that takes every reading for a line works on the `parts` of the lines:
`filterMap_pieces` says so for any use of the readings to which the newline at the end does
not matter.
-/

namespace Support

variable {α : Type} {isNewline : α → Bool}

/-- `fgets` into a buffer of `size` characters, one of them for the terminator. -/
def fgets (isNewline : α → Bool) (size : Nat) (stream : List α) : Option (List α × List α) :=
  if stream.isEmpty then none
  else
    let window := stream.take (size - 1)
    let read := window.take (window.findIdx isNewline + 1)
    some (read, stream.drop read.length)

theorem fgets_shorter {size : Nat} {stream read rest : List α} (large : 1 < size)
    (result : fgets isNewline size stream = some (read, rest)) :
    rest.length < stream.length := by
  unfold fgets at result
  split at result
  · cases result
  · rename_i more
    cases result
    have nonempty : 0 < stream.length := by
      cases stream with
      | nil => exact absurd rfl more
      | cons => exact Nat.zero_lt_succ _
    simp only [List.length_drop, List.length_take]
    omega

/-- The successive readings of a stream. -/
def pieces (isNewline : α → Bool) (size : Nat) (large : 1 < size) (stream : List α) :
    List (List α) :=
  match _ : fgets isNewline size stream with
  | none => []
  | some (read, rest) => read :: pieces isNewline size large rest
termination_by stream.length
decreasing_by exact fgets_shorter large ‹_›

/-- A line cut into parts of `limit` characters, the last one shorter. -/
def parts (limit : Nat) : List α → List (List α)
  | [] => []
  | first :: rest => (first :: rest).take limit :: parts limit (rest.drop (limit - 1))
termination_by line => line.length
decreasing_by simp only [List.length_drop, List.length_cons]; omega

@[simp] theorem parts_nil (limit : Nat) : parts limit ([] : List α) = [] := by
  rw [parts]

theorem parts_of_ne_nil {limit : Nat} {line : List α} (positive : 0 < limit)
    (nonempty : line ≠ []) :
    parts limit line = line.take limit :: parts limit (line.drop limit) := by
  obtain ⟨limit, rfl⟩ := Nat.exists_eq_add_of_lt positive
  cases line with
  | nil => exact absurd rfl nonempty
  | cons first rest =>
      rw [parts, Nat.zero_add, Nat.add_sub_cancel, List.drop_succ_cons]

theorem parts_of_short {limit : Nat} {line : List α} (positive : 0 < limit)
    (nonempty : line ≠ []) (short : line.length ≤ limit) : parts limit line = [line] := by
  rw [parts_of_ne_nil positive nonempty, List.take_of_length_le short,
    List.drop_eq_nil_of_le short, parts_nil]

/-- A line that fits is used as it is. -/
theorem filterMap_parts_of_short {β : Type} {use : List α → Option β} {limit : Nat}
    {line : List α} (positive : 0 < limit) (nothing : use [] = none)
    (short : line.length ≤ limit) : (parts limit line).filterMap use = (use line).toList := by
  by_cases empty : line = []
  · rw [empty, parts_nil, nothing]
    rfl
  · rw [parts_of_short positive empty short, List.filterMap_cons]
    cases use line <;> rfl

/-- The parts are the whole line. -/
theorem flatten_parts {limit : Nat} (positive : 0 < limit) (line : List α) :
    (parts limit line).flatten = line := by
  induction size : line.length using Nat.strongRecOn generalizing line with
  | _ bound ih =>
      by_cases empty : line = []
      · rw [empty, parts_nil]
        rfl
      · have shorter : (line.drop limit).length < bound := by
          have nonempty := List.length_pos_iff.mpr empty
          rw [List.length_drop]
          omega
        rw [parts_of_ne_nil positive empty, List.flatten_cons, ih _ shorter _ rfl,
          List.take_append_drop]

theorem parts_map {β : Type} (f : β → α) {limit : Nat} (positive : 0 < limit) (line : List β) :
    parts limit (line.map f) = (parts limit line).map (List.map f) := by
  induction size : line.length using Nat.strongRecOn generalizing line with
  | _ bound ih =>
      by_cases empty : line = []
      · rw [empty, parts_nil, List.map_nil, List.map_nil, parts_nil]
      · have shorter : (line.drop limit).length < bound := by
          have nonempty := List.length_pos_iff.mpr empty
          rw [List.length_drop]
          omega
        have mapped : line.map f ≠ [] := fun none => empty (List.map_eq_nil_iff.mp none)
        rw [parts_of_ne_nil positive empty, parts_of_ne_nil positive mapped, List.map_cons,
          ← ih _ shorter _ rfl, List.map_take, List.map_drop]

/-! ## Lines -/

theorem splitOnP_map {β : Type} (f : β → α) (stream : List β) :
    (stream.map f).splitOnP isNewline =
      (stream.splitOnP (isNewline ∘ f)).map (List.map f) := by
  induction stream with
  | nil => rfl
  | cons first rest ih =>
      rw [List.map_cons, List.splitOnP_cons_eq_if_modifyHead, List.splitOnP_cons_eq_if_modifyHead,
        ih, Function.comp_apply]
      split
      · rfl
      · cases rest.splitOnP (isNewline ∘ f) <;> rfl

/-- The lines are what is left of a stream without its newlines. -/
theorem flatten_splitOnP_sublist (stream : List α) :
    (stream.splitOnP isNewline).flatten.Sublist stream := by
  induction stream with
  | nil => exact .slnil
  | cons first rest ih =>
      rw [List.splitOnP_cons_eq_if_modifyHead]
      split
      · exact ih.cons first
      · cases lines : rest.splitOnP isNewline with
        | nil => exact absurd lines (List.splitOnP_ne_nil _ _)
        | cons line later =>
            rw [lines] at ih
            exact ih.cons_cons first

/-- The lines after the first do not depend on the first. -/
theorem exists_later_lines {rest : List α} (stops : Stops isNewline rest) :
    ∃ later, ∀ line : List α, (∀ x ∈ line, isNewline x = false) →
      (line ++ rest).splitOnP isNewline = line :: later := by
  cases rest with
  | nil =>
      refine ⟨[], fun line plain => ?_⟩
      rw [List.append_nil, List.splitOnP_eq_singleton plain]
  | cons newline rest =>
      refine ⟨rest.splitOnP isNewline, fun line plain => ?_⟩
      exact List.splitOnP_append_cons_of_forall_mem plain newline (stops newline rfl) rest

/-! ## Readings -/

theorem pieces_eq (size : Nat) (large : 1 < size) (stream : List α) :
    pieces isNewline size large stream =
      match fgets isNewline size stream with
      | none => []
      | some (read, rest) => read :: pieces isNewline size large rest := by
  rw [pieces]
  split <;> rename_i result <;> rw [result]

/-- A line that does not fit is read in part. -/
theorem fgets_long {size : Nat} {line : List α} (large : 1 < size)
    (plain : ∀ x ∈ line, isNewline x = false) (long : size - 1 ≤ line.length) (rest : List α) :
    fgets isNewline size (line ++ rest) =
      some (line.take (size - 1), line.drop (size - 1) ++ rest) := by
  have nonempty : (line ++ rest).isEmpty = false := by
    cases line with
    | nil => exact absurd long (by rw [List.length_nil]; omega)
    | cons => rfl
  have window : (line ++ rest).take (size - 1) = line.take (size - 1) :=
    List.take_append_of_le_length long
  have noNewline : (line.take (size - 1)).findIdx isNewline = (line.take (size - 1)).length :=
    List.findIdx_eq_length_of_false fun x member => plain x (List.mem_of_mem_take member)
  have length : (line.take (size - 1)).length = size - 1 := List.length_take_of_le long
  rw [fgets, nonempty, if_neg Bool.false_ne_true]
  dsimp only
  rw [window, noNewline, List.take_of_length_le (Nat.le_succ _), length,
    List.drop_append_of_le_length long]

/-- A line that fits is read with the newline after it. -/
theorem fgets_line {size : Nat} {line : List α} {newline : α}
    (plain : ∀ x ∈ line, isNewline x = false) (isOne : isNewline newline = true)
    (short : line.length < size - 1) (rest : List α) :
    fgets isNewline size (line ++ newline :: rest) = some (line ++ [newline], rest) := by
  have nonempty : (line ++ newline :: rest).isEmpty = false := by
    cases line <;> rfl
  obtain ⟨left, isLeft⟩ := Nat.exists_eq_add_of_lt short
  have window : (line ++ newline :: rest).take (size - 1) =
      line ++ newline :: rest.take left := by
    rw [isLeft, Nat.add_assoc, List.take_length_add_append, List.take_succ_cons]
  have atEnd : (line ++ newline :: rest.take left).findIdx isNewline = line.length := by
    rw [List.findIdx_append, List.findIdx_eq_length_of_false plain,
      if_neg (Nat.lt_irrefl _), List.findIdx_cons, isOne]
    exact Nat.zero_add _
  have read : (line ++ newline :: rest.take left).take (line.length + 1) = line ++ [newline] := by
    rw [List.take_length_add_append]
    rfl
  have dropped : (line ++ newline :: rest).drop (line ++ [newline]).length = rest := by
    rw [List.append_cons line newline rest]
    exact List.drop_left
  rw [fgets, nonempty, if_neg Bool.false_ne_true]
  dsimp only
  rw [window, atEnd, read, dropped]

/-- The last line need not end in a newline. -/
theorem fgets_last {size : Nat} {line : List α} (plain : ∀ x ∈ line, isNewline x = false)
    (nonempty : line ≠ []) (short : line.length < size - 1) :
    fgets isNewline size line = some (line, []) := by
  have notEmpty : line.isEmpty = false := by
    cases line with
    | nil => exact absurd rfl nonempty
    | cons => rfl
  rw [fgets, notEmpty, if_neg Bool.false_ne_true]
  dsimp only
  rw [List.take_of_length_le (Nat.le_of_lt short), List.findIdx_eq_length_of_false plain,
    List.take_of_length_le (Nat.le_succ _), List.drop_length]

/-- Taking every reading for a line is working on the parts of the lines. -/
theorem filterMap_pieces {β : Type} {use : List α → Option β} {size : Nat} (large : 1 < size)
    (ends : ∀ part newline, isNewline newline = true → use (part ++ [newline]) = use part)
    (nothing : use [] = none) (stream : List α) :
    (pieces isNewline size large stream).filterMap use =
      (stream.splitOnP isNewline).flatMap fun line => (parts (size - 1) line).filterMap use := by
  have positive : 0 < size - 1 := by omega
  induction count : stream.length using Nat.strongRecOn generalizing stream with
  | _ bound ih =>
      obtain ⟨plain, stops, split⟩ := run_spec isNewline stream
      generalize stream.takeWhile (!isNewline ·) = line at plain split
      generalize stream.dropWhile (!isNewline ·) = rest at stops split
      subst split
      by_cases long : size - 1 ≤ line.length
      · -- The rest of the line is read as if it were the next line.
        have nonempty : line ≠ [] := by
          intro empty
          rw [empty, List.length_nil] at long
          omega
        have shorter : (line.drop (size - 1) ++ rest).length < bound := by
          have taken := List.length_pos_iff.mpr nonempty
          simp only [List.length_append, List.length_drop] at count ⊢
          omega
        obtain ⟨later, isSplit⟩ := exists_later_lines stops
        have dropped : ∀ x ∈ line.drop (size - 1), isNewline x = false :=
          fun x member => plain x (List.mem_of_mem_drop member)
        rw [pieces_eq, fgets_long large plain long, List.filterMap_cons, ih _ shorter _ rfl,
          isSplit line plain, isSplit _ dropped, List.flatMap_cons, List.flatMap_cons,
          parts_of_ne_nil positive nonempty, List.filterMap_cons]
        split <;> rfl
      · have short : line.length < size - 1 := Nat.lt_of_not_le long
        have whole := filterMap_parts_of_short positive nothing (Nat.le_of_lt short)
        cases rest with
        | nil =>
            rw [List.append_nil, List.splitOnP_eq_singleton plain, List.flatMap_cons, whole]
            by_cases empty : line = []
            · rw [empty, nothing, pieces_eq]
              rfl
            · rw [pieces_eq, fgets_last plain empty short, List.filterMap_cons]
              rw [pieces_eq]
              cases use line <;> rfl
        | cons newline rest =>
            have isOne : isNewline newline = true := stops newline rfl
            have shorter : rest.length < bound := by
              simp only [List.length_append, List.length_cons] at count
              omega
            rw [pieces_eq, fgets_line plain isOne short, List.filterMap_cons,
              ends line newline isOne, ih rest.length shorter rest rfl,
              List.splitOnP_append_cons_of_forall_mem plain newline isOne, List.flatMap_cons,
              whole]
            cases use line <;> rfl

/-! ## The first results -/

/-- Lists in two halves that share nothing crosswise begin alike when their halves do. -/
theorem take_append_eq_iff {β : Type} {left right left' right' : List β}
    (cross : ∀ x ∈ left, x ∉ right') (cross' : ∀ x ∈ left', x ∉ right) (count : Nat) :
    (left ++ right).take count = (left' ++ right').take count ↔
      left.take count = left'.take count ∧
        right.take (count - left'.length) = right'.take (count - left'.length) := by
  induction left generalizing left' count with
  | nil =>
      cases left' with
      | nil => simp
      | cons first' rest' =>
          cases count with
          | zero => simp
          | succ count =>
              refine iff_of_false (fun same => ?_) (fun same => by cases same.1)
              rw [List.nil_append, List.cons_append, List.take_succ_cons] at same
              have taken : first' ∈ right.take (count + 1) := by
                rw [same]
                exact List.mem_cons_self
              exact cross' first' List.mem_cons_self (List.mem_of_mem_take taken)
  | cons first rest ih =>
      cases count with
      | zero => simp
      | succ count =>
          cases left' with
          | nil =>
              refine iff_of_false (fun same => ?_) (fun same => by cases same.1)
              rw [List.nil_append, List.cons_append, List.take_succ_cons] at same
              have taken : first ∈ right'.take (count + 1) := by
                rw [← same]
                exact List.mem_cons_self
              exact cross first List.mem_cons_self (List.mem_of_mem_take taken)
          | cons first' rest' =>
              have step := ih (fun x member => cross x (List.mem_cons_of_mem _ member))
                (fun x member => cross' x (List.mem_cons_of_mem _ member)) count
              rw [List.cons_append, List.cons_append, List.take_succ_cons, List.take_succ_cons,
                List.cons.injEq, step, List.take_succ_cons, List.take_succ_cons, List.cons.injEq,
                List.length_cons, Nat.add_sub_add_right, and_assoc]

/-- Where no two lines have a result in common, the first results are the intended ones when
each line gives the intended one as long as there is room for it. -/
theorem take_flatMap_eq_iff {β : Type} {use : List α → List β} {intended : List α → Option β}
    {lines : List (List α)}
    (apart : lines.Pairwise fun line later =>
      (∀ x ∈ use line, intended later ≠ some x) ∧ ∀ x ∈ use later, intended line ≠ some x)
    (count : Nat) :
    (lines.flatMap use).take count = (lines.filterMap intended).take count ↔
      ∀ before line after, lines = before ++ line :: after →
        (use line).take (count - (before.filterMap intended).length) =
          (intended line).toList.take (count - (before.filterMap intended).length) := by
  induction lines generalizing count with
  | nil =>
      refine iff_of_true rfl fun before line after split => ?_
      cases before <;> cases split
  | cons line rest ih =>
      obtain ⟨fromLine, apartRest⟩ := List.pairwise_cons.mp apart
      have consed (later : List (List α)) : (line :: later).filterMap intended =
          (intended line).toList ++ later.filterMap intended := by
        rw [List.filterMap_cons]
        cases intended line <;> rfl
      have cross : ∀ x ∈ use line, x ∉ rest.filterMap intended := by
        intro x used member
        obtain ⟨later, inRest, isIntended⟩ := List.mem_filterMap.mp member
        exact (fromLine later inRest).1 x used isIntended
      have cross' : ∀ x ∈ (intended line).toList, x ∉ rest.flatMap use := by
        intro x isIntended member
        obtain ⟨later, inRest, used⟩ := List.mem_flatMap.mp member
        exact (fromLine later inRest).2 x used (Option.mem_toList.mp isIntended)
      rw [List.flatMap_cons, consed, take_append_eq_iff cross cross', ih apartRest]
      constructor
      · rintro ⟨here, there⟩ before other after split
        cases before with
        | nil =>
            cases split
            exact here
        | cons first before =>
            cases split
            rw [consed, List.length_append, Nat.sub_add_eq]
            exact there before other after rfl
      · intro each
        refine ⟨each [] line rest rfl, fun before other after split => ?_⟩
        have later := each (line :: before) other after (by rw [split, List.cons_append])
        rwa [consed, List.length_append, Nat.sub_add_eq] at later

end Support
