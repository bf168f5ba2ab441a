import Mathlib.Data.List.Nodup
import Mathlib.Data.List.TakeWhile

/-!
# The words of a text

`words` is what a tokenizer is for: the maximal runs of elements that are not delimiters.
`strtokR` is the tokenizer of the C library, one word at a time (`words_eq_strtokR`). The
last lemmas say which words a part of a text has in common with the whole: a prefix has its
first words exactly when these lie within it (`take_words_append`).
-/

namespace Support

variable {α : Type} {isDelim : α → Bool}

/-- The maximal runs of elements that are no delimiters, in order. -/
def words (isDelim : α → Bool) (text : List α) : List (List α) :=
  (text.splitOnP isDelim).filter fun run => !run.isEmpty

/-- `strtok_r`: the next word and the text after the delimiter that ends it. -/
def strtokR (isDelim : α → Bool) (text : List α) : Option (List α × List α) :=
  let body := text.dropWhile isDelim
  if body.isEmpty then none
  else some (body.takeWhile (!isDelim ·), (body.dropWhile (!isDelim ·)).tail)

/-- A text that no word can run on into. -/
def Stops (isDelim : α → Bool) (rest : List α) : Prop :=
  ∀ next ∈ rest.head?, isDelim next = true

/-- A run without delimiters. -/
def IsWord (isDelim : α → Bool) (word : List α) : Prop :=
  word ≠ [] ∧ ∀ x ∈ word, isDelim x = false

theorem IsWord.isEmpty_eq {word : List α} (isWord : IsWord isDelim word) (rest : List α) :
    (word ++ rest).isEmpty = false := by
  cases word with
  | nil => exact absurd rfl isWord.1
  | cons first more => rfl

@[simp] theorem words_nil : words isDelim [] = [] := rfl

theorem words_cons_delim {delim : α} (isOne : isDelim delim = true) (rest : List α) :
    words isDelim (delim :: rest) = words isDelim rest := by
  have split := List.splitOnP_append_cons [] rest isOne
  rw [List.nil_append, List.splitOnP_nil] at split
  rw [words, split]
  rfl

/-- A delimiter at the end of a text does not matter. -/
theorem words_concat_delim {delim : α} (isOne : isDelim delim = true) (text : List α) :
    words isDelim (text ++ [delim]) = words isDelim text := by
  rw [words, List.splitOnP_append_cons text [] isOne, List.filter_append, List.splitOnP_nil]
  exact List.append_nil _

/-- Delimiters before a text do not matter. -/
theorem words_append_blanks {blanks : List α} (all : ∀ x ∈ blanks, isDelim x = true)
    (rest : List α) : words isDelim (blanks ++ rest) = words isDelim rest := by
  induction blanks with
  | nil => rfl
  | cons delim blanks ih =>
      rw [List.cons_append, words_cons_delim (all delim List.mem_cons_self)]
      exact ih fun x member => all x (List.mem_cons_of_mem _ member)

theorem words_blanks {blanks : List α} (all : ∀ x ∈ blanks, isDelim x = true) :
    words isDelim blanks = [] := by
  have dropped := words_append_blanks all []
  rwa [List.append_nil] at dropped

/-- A word is followed by the words after it. -/
theorem words_append_word {word rest : List α} (isWord : IsWord isDelim word)
    (stops : Stops isDelim rest) :
    words isDelim (word ++ rest) = word :: words isDelim rest := by
  have kept : (!word.isEmpty) = true := by
    have nonempty := isWord.isEmpty_eq []
    rw [List.append_nil] at nonempty
    rw [nonempty, Bool.not_false]
  cases rest with
  | nil =>
      rw [List.append_nil, words, List.splitOnP_eq_singleton isWord.2, List.filter_cons,
        if_pos kept]
      rfl
  | cons delim rest =>
      have isOne : isDelim delim = true := stops delim rfl
      rw [words_cons_delim isOne, words,
        List.splitOnP_append_cons_of_forall_mem isWord.2 delim isOne, List.filter_cons,
        if_pos kept]
      rfl

/-- The run at the start of a text, and what follows it. -/
theorem run_spec (isDelim : α → Bool) (text : List α) :
    (∀ x ∈ text.takeWhile (!isDelim ·), isDelim x = false) ∧
    Stops isDelim (text.dropWhile (!isDelim ·)) ∧
    text.takeWhile (!isDelim ·) ++ text.dropWhile (!isDelim ·) = text := by
  refine ⟨fun x member => ?_, fun next isNext => ?_, List.takeWhile_append_dropWhile⟩
  · have plain := List.mem_takeWhile_imp (p := (!isDelim ·)) member
    simpa using plain
  · have stopped := List.head?_dropWhile_not (!isDelim ·) text
    rw [Option.mem_def.mp isNext] at stopped
    simpa using stopped

/-- A word at the start of a text runs on to the next delimiter. -/
theorem words_append_run {word : List α} (isWord : IsWord isDelim word) (rest : List α) :
    words isDelim (word ++ rest) =
      (word ++ rest.takeWhile (!isDelim ·)) :: words isDelim (rest.dropWhile (!isDelim ·)) := by
  obtain ⟨plain, stops, split⟩ := run_spec isDelim rest
  have longer : IsWord isDelim (word ++ rest.takeWhile (!isDelim ·)) :=
    ⟨fun empty => isWord.1 (List.append_eq_nil_iff.mp empty).1,
      List.forall_mem_append.mpr ⟨isWord.2, plain⟩⟩
  rw [← words_append_word longer stops, List.append_assoc, split]

/-- A text has only delimiters, or a first word. -/
theorem text_cases (isDelim : α → Bool) (text : List α) :
    (∀ x ∈ text, isDelim x = true) ∨
    ∃ blanks word rest, text = blanks ++ (word ++ rest) ∧ (∀ x ∈ blanks, isDelim x = true) ∧
      IsWord isDelim word ∧ Stops isDelim rest := by
  cases found : text.dropWhile isDelim with
  | nil => exact .inl (List.dropWhile_eq_nil_iff.mp found)
  | cons first more =>
      have notDelim : isDelim first = false := by
        have stopped := List.head?_dropWhile_not isDelim text
        rwa [found] at stopped
      obtain ⟨plain, stops, split⟩ := run_spec isDelim (first :: more)
      refine .inr ⟨text.takeWhile isDelim, (first :: more).takeWhile (!isDelim ·),
        (first :: more).dropWhile (!isDelim ·), ?_, fun x => List.mem_takeWhile_imp,
        ⟨?_, plain⟩, stops⟩
      · rw [split, ← found, List.takeWhile_append_dropWhile]
      · rw [List.takeWhile_cons, notDelim]
        exact List.cons_ne_nil _ _

/-- A text is taken apart word by word, down to one without words. -/
theorem word_induction (isDelim : α → Bool) {motive : List α → Prop}
    (blank : ∀ text, (∀ x ∈ text, isDelim x = true) → motive text)
    (word : ∀ blanks word rest, (∀ x ∈ blanks, isDelim x = true) → IsWord isDelim word →
      Stops isDelim rest → motive rest → motive (blanks ++ (word ++ rest)))
    (text : List α) : motive text := by
  induction size : text.length using Nat.strongRecOn generalizing text with
  | _ size ih =>
      obtain allBlank | ⟨blanks, first, rest, rfl, allBlank, isWord, stops⟩ :=
        text_cases isDelim text
      · exact blank text allBlank
      · refine word blanks first rest allBlank isWord stops (ih rest.length ?_ rest rfl)
        have nonempty := List.length_pos_iff.mpr isWord.1
        simp only [List.length_append] at size
        omega

/-- Every word is a run of elements of the text. -/
theorem mem_words {text word : List α} (member : word ∈ words isDelim text) :
    IsWord isDelim word ∧ ∀ x ∈ word, x ∈ text := by
  induction text using word_induction isDelim with
  | blank text blank =>
      rw [words_blanks blank] at member
      cases member
  | word blanks first rest allBlank isWord stops ih =>
      rw [words_append_blanks allBlank, words_append_word isWord stops] at member
      rcases List.mem_cons.mp member with rfl | later
      · exact ⟨isWord, fun x inWord => List.mem_append_right _ (List.mem_append_left _ inWord)⟩
      · obtain ⟨isLater, inside⟩ := ih later
        exact ⟨isLater, fun x inWord =>
          List.mem_append_right _ (List.mem_append_right _ (inside x inWord))⟩

/-- `strtok_r` delivers the words one by one. -/
theorem words_eq_strtokR (text : List α) :
    words isDelim text =
      match strtokR isDelim text with
      | none => []
      | some (token, rest) => token :: words isDelim rest := by
  obtain blank | ⟨blanks, word, rest, rfl, allBlank, isWord, stops⟩ := text_cases isDelim text
  · have empty : text.dropWhile isDelim = [] := List.dropWhile_eq_nil_iff.mpr blank
    rw [words_blanks blank, strtokR, empty]
    rfl
  · have plain : ∀ x ∈ word, (!isDelim x) = true := fun x member => by simp [isWord.2 x member]
    have body : (blanks ++ (word ++ rest)).dropWhile isDelim = word ++ rest := by
      rw [List.dropWhile_append_of_pos allBlank]
      cases word with
      | nil => exact absurd rfl isWord.1
      | cons first more =>
          rw [List.cons_append, List.dropWhile_cons, isWord.2 first List.mem_cons_self]
          rfl
    have stopped : rest.takeWhile (!isDelim ·) = [] ∧ rest.dropWhile (!isDelim ·) = rest := by
      cases rest with
      | nil => exact ⟨rfl, rfl⟩
      | cons delim rest => simp [stops delim rfl]
    have token : strtokR isDelim (blanks ++ (word ++ rest)) = some (word, rest.tail) := by
      rw [strtokR, body, List.takeWhile_append_of_pos plain, List.dropWhile_append_of_pos plain,
        stopped.1, stopped.2, List.append_nil, isWord.isEmpty_eq rest]
      rfl
    rw [words_append_blanks allBlank, words_append_word isWord stops, token]
    cases rest with
    | nil => rfl
    | cons delim rest => rw [words_cons_delim (stops delim rfl), List.tail_cons]

/-! ## The words of a part -/

/-- When no element of a text is inside, its first words are inside only if it has none. -/
theorem take_words_outside {inside : α → Prop} {text : List α}
    (outside : ∀ x ∈ text, ¬inside x) (count : Nat) :
    (∀ word ∈ (words isDelim text).take count, ∀ x ∈ word, inside x) ↔
      [] = (words isDelim text).take count := by
  constructor
  · intro within
    cases taken : (words isDelim text).take count with
    | nil => rfl
    | cons word more =>
        have first : word ∈ (words isDelim text).take count := by
          rw [taken]
          exact List.mem_cons_self
        obtain ⟨⟨nonempty, -⟩, fromText⟩ := mem_words (List.mem_of_mem_take first)
        obtain ⟨x, member⟩ := List.exists_mem_of_ne_nil word nonempty
        exact absurd (within word first x member) (outside x (fromText x member))
  · intro empty
    rw [← empty]
    exact List.forall_mem_nil _

/-- The first words of a text are those of a prefix exactly when they lie within it. -/
theorem take_words_append {inside : α → Prop} {front back : List α}
    (isFront : ∀ x ∈ front, inside x) (isBack : ∀ x ∈ back, ¬inside x) (count : Nat) :
    (words isDelim front).take count = (words isDelim (front ++ back)).take count ↔
      ∀ word ∈ (words isDelim (front ++ back)).take count, ∀ x ∈ word, inside x := by
  induction front using word_induction isDelim generalizing count with
  | blank front blank =>
      rw [words_blanks blank, words_append_blanks blank, List.take_nil]
      exact (take_words_outside isBack count).symm
  | word blanks word rest allBlank isWord stops ih =>
      have wordInside : ∀ x ∈ word, inside x := fun x member =>
        isFront x (List.mem_append_right _ (List.mem_append_left _ member))
      have restInside : ∀ x ∈ rest, inside x := fun x member =>
        isFront x (List.mem_append_right _ (List.mem_append_right _ member))
      rw [List.append_assoc, List.append_assoc, words_append_blanks allBlank,
        words_append_blanks allBlank, words_append_word isWord stops]
      cases count with
      | zero => simp
      | succ count =>
          cases rest with
          | cons delim rest =>
              -- The word ends within the prefix.
              have ends : Stops isDelim (delim :: rest ++ back) := stops
              rw [words_append_word isWord ends, List.take_succ_cons, List.take_succ_cons,
                List.cons_inj_right, ih restInside count, List.forall_mem_cons]
              exact (and_iff_right wordInside).symm
          | nil =>
              -- The prefix ends with the word, which may run on.
              obtain ⟨-, -, split⟩ := run_spec isDelim back
              rw [List.nil_append, words_append_run isWord, List.take_succ_cons,
                List.take_succ_cons, List.forall_mem_cons]
              cases runsOn : back.takeWhile (!isDelim ·) with
              | nil =>
                  have same : back.dropWhile (!isDelim ·) = back := by
                    rwa [runsOn, List.nil_append] at split
                  rw [List.append_nil, same, words_nil, List.take_nil, List.cons_inj_right,
                    ← take_words_outside isBack count]
                  exact (and_iff_right wordInside).symm
              | cons next more =>
                  have outside : ¬inside next := by
                    apply isBack
                    rw [← split, runsOn]
                    exact List.mem_append_left _ List.mem_cons_self
                  refine iff_of_false ?_ ?_
                  · intro same
                    have lengths := congrArg List.length (List.cons.inj same).1
                    simp at lengths
                  · rintro ⟨within, -⟩
                    exact outside (within next (List.mem_append_right _ List.mem_cons_self))

/-- The first word starts at the first element that is no delimiter. -/
theorem words_cons_plain {first : α} (plain : isDelim first = false) (rest : List α) :
    words isDelim (first :: rest) =
      (first :: rest.takeWhile (!isDelim ·)) :: words isDelim (rest.dropWhile (!isDelim ·)) := by
  have isWord : IsWord isDelim [first] :=
    ⟨List.cons_ne_nil _ _, List.forall_mem_singleton.mpr plain⟩
  exact words_append_run isWord rest

/-- What lies before the first word is blank. -/
theorem blank_of_first {front back first : List α} {more : List (List α)}
    (isFirst : words isDelim (front ++ back) = first :: more) (outside : ∀ x ∈ first, x ∉ front) :
    ∀ x ∈ front, isDelim x = true := by
  obtain blank | ⟨blanks, word, rest, rfl, allBlank, ⟨nonempty, plain⟩, -⟩ :=
    text_cases isDelim front
  · exact blank
  · cases word with
    | nil => exact absurd rfl nonempty
    | cons head tail =>
        rw [List.append_assoc, words_append_blanks allBlank, List.append_assoc, List.cons_append,
          words_cons_plain (plain head List.mem_cons_self)] at isFirst
        refine absurd ?_ (outside head ?_)
        · exact List.mem_append_right _ (List.mem_append_left _ List.mem_cons_self)
        · rw [← (List.cons.inj isFirst).1]
          exact List.mem_cons_self

/-- Only the first word lies before the second. -/
theorem before_second {text first second : List α} {more : List (List α)}
    (isWords : words isDelim text = first :: second :: more) :
    ∃ before after, text = before ++ (second ++ after) ∧ before.filter (!isDelim ·) = first := by
  have blankFilter {blanks : List α} (all : ∀ x ∈ blanks, isDelim x = true) :
      blanks.filter (!isDelim ·) = [] :=
    List.filter_eq_nil_iff.mpr fun x member => by simp [all x member]
  obtain blank | ⟨blanks, word, rest, rfl, allBlank, isWord, stops⟩ := text_cases isDelim text
  · rw [words_blanks blank] at isWords
    cases isWords
  · rw [words_append_blanks allBlank, words_append_word isWord stops] at isWords
    obtain ⟨rfl, isRest⟩ := List.cons.inj isWords
    obtain blank | ⟨gap, next, after, rfl, allGap, isNext, nextStops⟩ := text_cases isDelim rest
    · rw [words_blanks blank] at isRest
      cases isRest
    · rw [words_append_blanks allGap, words_append_word isNext nextStops] at isRest
      obtain ⟨rfl, -⟩ := List.cons.inj isRest
      refine ⟨blanks ++ (word ++ gap), after, by simp only [List.append_assoc], ?_⟩
      have kept : word.filter (!isDelim ·) = word :=
        List.filter_eq_self.mpr fun x member => by simp [isWord.2 x member]
      rw [List.filter_append, List.filter_append, blankFilter allBlank, blankFilter allGap, kept,
        List.nil_append, List.append_nil]

/-- A part that the first words of a text lie within has the same first words. -/
theorem take_words_part {before part after first : List α} {more : List (List α)}
    (distinct : (before ++ (part ++ after)).Nodup)
    (isWords : words isDelim (before ++ (part ++ after)) = first :: more) {count : Nat}
    (within : ∀ word ∈ (first :: more).take (count + 1), ∀ x ∈ word, x ∈ part) :
    (words isDelim part).take (count + 1) = (first :: more).take (count + 1) := by
  obtain ⟨-, distinctRest, separate⟩ := List.nodup_append'.mp distinct
  have blank : ∀ x ∈ before, isDelim x = true := by
    refine blank_of_first isWords fun x inFirst inBefore => ?_
    have inPart := within first (by rw [List.take_succ_cons]; exact List.mem_cons_self) x inFirst
    exact separate inBefore (List.mem_append_left _ inPart)
  obtain ⟨-, -, disjoint⟩ := List.nodup_append'.mp distinctRest
  rw [words_append_blanks blank] at isWords
  rw [← isWords] at within ⊢
  exact (take_words_append (fun x inPart => inPart)
    (fun x inAfter inPart => disjoint inPart inAfter) (count + 1)).mpr within

/-- A part with the second word of a text, after a first word as long as that of the text, has
the same first word. -/
theorem first_word_part {before part after first first' second : List α}
    {more more' : List (List α)} (distinct : (before ++ (part ++ after)).Nodup)
    (isWords : words isDelim (before ++ (part ++ after)) = first :: second :: more)
    (ofPart : words isDelim part = first' :: second :: more')
    (sameLength : first'.length = first.length) : first' = first := by
  obtain ⟨front, back, isText, kept⟩ := before_second isWords
  obtain ⟨front', back', rfl, kept'⟩ := before_second ofPart
  have member : second ∈ words isDelim (before ++ (front' ++ (second ++ back') ++ after)) := by
    rw [isWords]
    exact List.mem_cons_of_mem _ List.mem_cons_self
  obtain ⟨⟨nonempty, -⟩, -⟩ := mem_words member
  have fronts : before ++ front' = front := by
    cases second with
    | nil => exact absurd rfl nonempty
    | cons head tail =>
        have regrouped : before ++ (front' ++ (head :: tail ++ back') ++ after) =
            before ++ front' ++ head :: (tail ++ (back' ++ after)) := by simp
        rw [regrouped] at distinct isText
        obtain ⟨-, distinctHead, separate⟩ := List.nodup_append'.mp distinct
        have notBefore : head ∉ before ++ front' := fun member =>
          separate member List.mem_cons_self
        have notAfter : head ∉ tail ++ (back' ++ after) := (List.nodup_cons.mp distinctHead).1
        exact ((List.append_cons_inj_of_notMem notBefore notAfter).mp isText).1
  rw [← fronts, List.filter_append, kept'] at kept
  have lengths := congrArg List.length kept
  rw [List.length_append, sameLength] at lengths
  have nothing : before.filter (!isDelim ·) = [] := List.length_eq_zero_iff.mp (by omega)
  rwa [nothing, List.nil_append] at kept

/-- Words are found by looking at each element only. -/
theorem words_map {β : Type} (f : β → α) (text : List β) :
    words isDelim (text.map f) = (words (isDelim ∘ f) text).map (List.map f) := by
  induction text using word_induction (isDelim ∘ f) with
  | blank text blank =>
      rw [words_blanks blank, words_blanks]
      · rfl
      · intro x member
        obtain ⟨y, inText, rfl⟩ := List.mem_map.mp member
        exact blank y inText
  | word blanks word rest allBlank isWord stops ih =>
      rw [List.map_append, List.map_append, words_append_blanks allBlank,
        words_append_word isWord stops, words_append_blanks, words_append_word, ih]
      · rfl
      · refine ⟨fun empty => isWord.1 (List.map_eq_nil_iff.mp empty), fun x member => ?_⟩
        obtain ⟨y, inWord, rfl⟩ := List.mem_map.mp member
        exact isWord.2 y inWord
      · intro next isNext
        cases rest with
        | nil => cases isNext
        | cons delim rest =>
            cases isNext
            exact stops delim rfl
      · intro x member
        obtain ⟨y, inBlanks, rfl⟩ := List.mem_map.mp member
        exact allBlank y inBlanks

end Support
