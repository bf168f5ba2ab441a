import Pjsocky.Support.JsonText

/-!
# The size of a JSON text

The text of a tree without white space is the spellings of its values and what holds them
together: names, quotes, brackets, commas and colons. `content` counts the bytes of the first
and `frame` those of the second. `blank` empties the values of a tree and leaves its shape, on
which alone the frame depends.
-/

namespace Support
namespace Json

variable {ν : Type} (format : Format ν)

namespace Format

/-- The bytes that a text takes between its quotes. -/
def textSize (text : Bytes) : Nat := (format.escaped text).length

/-- The bytes that a number takes. -/
def numberSize (value : ν) : Nat := (format.number value).length

end Format

/-- The bytes that a truth value takes. -/
def flagSize (value : Bool) : Nat := if value then 4 else 5

mutual

/-- The bytes of a tree's values. -/
def content : Json ν → Nat
  | .null => 0
  | .bool value => flagSize value
  | .num value => format.numberSize value
  | .str text => format.textSize text
  | .arr elements => contentElements elements
  | .obj members => contentMembers members

def contentElements : List (Json ν) → Nat
  | [] => 0
  | element :: rest => content element + contentElements rest

def contentMembers : List (Bytes × Json ν) → Nat
  | [] => 0
  | (_, value) :: rest => content value + contentMembers rest

end

mutual

/-- The bytes of a tree's names and punctuation. -/
def frame : Json ν → Nat
  | .null => 4
  | .bool _ => 0
  | .num _ => 0
  | .str _ => 2
  | .arr elements => 2 + frameElements elements
  | .obj members => 2 + frameMembers members

def frameElements : List (Json ν) → Nat
  | [] => 0
  | element :: rest => frame element + frameMoreElements rest

def frameMoreElements : List (Json ν) → Nat
  | [] => 0
  | element :: rest => 1 + frame element + frameMoreElements rest

def frameMembers : List (Bytes × Json ν) → Nat
  | [] => 0
  | (name, value) :: rest => 3 + format.textSize name + frame value + frameMoreMembers rest

def frameMoreMembers : List (Bytes × Json ν) → Nat
  | [] => 0
  | (name, value) :: rest => 4 + format.textSize name + frame value + frameMoreMembers rest

end

section Blank

variable (zero : ν)

mutual

/-- The tree with its values emptied. -/
def blank : Json ν → Json ν
  | .null => .null
  | .bool _ => .bool false
  | .num _ => .num zero
  | .str _ => .str []
  | .arr elements => .arr (blankElements elements)
  | .obj members => .obj (blankMembers members)

def blankElements : List (Json ν) → List (Json ν)
  | [] => []
  | element :: rest => blank element :: blankElements rest

def blankMembers : List (Bytes × Json ν) → List (Bytes × Json ν)
  | [] => []
  | (name, value) :: rest => (name, blank value) :: blankMembers rest

end

mutual

theorem blank_blank : ∀ tree : Json ν, blank zero (blank zero tree) = blank zero tree
  | .null | .bool _ | .num _ | .str _ => rfl
  | .arr elements => congrArg Json.arr (blankElements_blank elements)
  | .obj members => congrArg Json.obj (blankMembers_blank members)

theorem blankElements_blank : ∀ elements : List (Json ν),
    blankElements zero (blankElements zero elements) = blankElements zero elements
  | [] => rfl
  | element :: rest => by
      rw [blankElements, blankElements, blank_blank element, blankElements_blank rest]

theorem blankMembers_blank : ∀ members : List (Bytes × Json ν),
    blankMembers zero (blankMembers zero members) = blankMembers zero members
  | [] => rfl
  | (name, value) :: rest => by
      rw [blankMembers, blankMembers, blank_blank value, blankMembers_blank rest]

end

mutual

/-- The frame of a tree is that of its blank. -/
theorem frame_blank : ∀ tree : Json ν, frame format (blank zero tree) = frame format tree
  | .null | .bool _ | .num _ | .str _ => rfl
  | .arr elements => congrArg (2 + ·) (frameElements_blank elements)
  | .obj members => congrArg (2 + ·) (frameMembers_blank members)

theorem frameElements_blank : ∀ elements : List (Json ν),
    frameElements format (blankElements zero elements) = frameElements format elements
  | [] => rfl
  | element :: rest => by
      rw [blankElements, frameElements, frameElements, frame_blank element,
        frameMoreElements_blank rest]

theorem frameMoreElements_blank : ∀ elements : List (Json ν),
    frameMoreElements format (blankElements zero elements) = frameMoreElements format elements
  | [] => rfl
  | element :: rest => by
      rw [blankElements, frameMoreElements, frameMoreElements, frame_blank element,
        frameMoreElements_blank rest]

theorem frameMembers_blank : ∀ members : List (Bytes × Json ν),
    frameMembers format (blankMembers zero members) = frameMembers format members
  | [] => rfl
  | (name, value) :: rest => by
      rw [blankMembers, frameMembers, frameMembers, frame_blank value, frameMoreMembers_blank rest]

theorem frameMoreMembers_blank : ∀ members : List (Bytes × Json ν),
    frameMoreMembers format (blankMembers zero members) = frameMoreMembers format members
  | [] => rfl
  | (name, value) :: rest => by
      rw [blankMembers, frameMoreMembers, frameMoreMembers, frame_blank value,
        frameMoreMembers_blank rest]

end

mutual

/-- A tree has as many tokens as its blank. -/
theorem count_blank : ∀ tree : Json ν,
    (tokens format (blank zero tree)).length = (tokens format tree).length
  | .null | .bool true | .bool false | .num _ | .str _ => rfl
  | .arr elements => by
      simp only [blank, tokens, List.length_cons, List.length_append, countElements_blank elements]
  | .obj members => by
      simp only [blank, tokens, List.length_cons, List.length_append, countMembers_blank members]

theorem countElements_blank : ∀ elements : List (Json ν),
    (elementTokens format (blankElements zero elements)).length =
      (elementTokens format elements).length
  | [] => rfl
  | element :: rest => by
      simp only [blankElements, elementTokens, List.length_append, count_blank element,
        countMoreElements_blank rest]

theorem countMoreElements_blank : ∀ elements : List (Json ν),
    (moreElementTokens format (blankElements zero elements)).length =
      (moreElementTokens format elements).length
  | [] => rfl
  | element :: rest => by
      simp only [blankElements, moreElementTokens, List.length_cons, List.length_append,
        count_blank element, countMoreElements_blank rest]

theorem countMembers_blank : ∀ members : List (Bytes × Json ν),
    (memberTokens format (blankMembers zero members)).length =
      (memberTokens format members).length
  | [] => rfl
  | (name, value) :: rest => by
      simp only [blankMembers, memberTokens, List.length_cons, List.length_append,
        count_blank value, countMoreMembers_blank rest]

theorem countMoreMembers_blank : ∀ members : List (Bytes × Json ν),
    (moreMemberTokens format (blankMembers zero members)).length =
      (moreMemberTokens format members).length
  | [] => rfl
  | (name, value) :: rest => by
      simp only [blankMembers, moreMemberTokens, List.length_cons, List.length_append,
        count_blank value, countMoreMembers_blank rest]

end

end Blank

theorem Format.length_quoted (text : Bytes) :
    (format.quoted text).length = format.textSize text + 2 := by
  simp [Format.quoted, Format.textSize]

private theorem length_punctuation :
    (ascii "[").length = 1 ∧ (ascii "]").length = 1 ∧ (ascii "\x7b").length = 1 ∧
      (ascii "\x7d").length = 1 ∧ (ascii ",").length = 1 ∧ (ascii ":").length = 1 :=
  ⟨rfl, rfl, rfl, rfl, rfl, rfl⟩

mutual

/-- The text of a tree is its values and its frame. -/
theorem length_tokens : ∀ tree : Json ν,
    (tokens format tree).flatten.length = content format tree + frame format tree
  | .null | .bool true | .bool false => rfl
  | .num value => by simp [tokens, content, frame, Format.numberSize]
  | .str text => by simp [tokens, content, frame, format.length_quoted]
  | .arr elements => by
      have inside := length_elementTokens elements
      simp only [tokens, content, frame, List.flatten_cons, List.flatten_append, List.flatten_nil,
        List.length_append, List.length_nil, length_punctuation]
      omega
  | .obj members => by
      have inside := length_memberTokens members
      simp only [tokens, content, frame, List.flatten_cons, List.flatten_append, List.flatten_nil,
        List.length_append, List.length_nil, length_punctuation]
      omega

theorem length_elementTokens : ∀ elements : List (Json ν),
    (elementTokens format elements).flatten.length =
      contentElements format elements + frameElements format elements
  | [] => rfl
  | element :: rest => by
      have first := length_tokens element
      have later := length_moreElementTokens rest
      simp only [elementTokens, contentElements, frameElements, List.flatten_append,
        List.length_append]
      omega

theorem length_moreElementTokens : ∀ elements : List (Json ν),
    (moreElementTokens format elements).flatten.length =
      contentElements format elements + frameMoreElements format elements
  | [] => rfl
  | element :: rest => by
      have first := length_tokens element
      have later := length_moreElementTokens rest
      simp only [moreElementTokens, contentElements, frameMoreElements, List.flatten_cons,
        List.flatten_append, List.length_append, length_punctuation]
      omega

theorem length_memberTokens : ∀ members : List (Bytes × Json ν),
    (memberTokens format members).flatten.length =
      contentMembers format members + frameMembers format members
  | [] => rfl
  | (name, value) :: rest => by
      have first := length_tokens value
      have later := length_moreMemberTokens rest
      simp only [memberTokens, contentMembers, frameMembers, List.flatten_cons,
        List.flatten_append, List.length_append, format.length_quoted, length_punctuation]
      omega

theorem length_moreMemberTokens : ∀ members : List (Bytes × Json ν),
    (moreMemberTokens format members).flatten.length =
      contentMembers format members + frameMoreMembers format members
  | [] => rfl
  | (name, value) :: rest => by
      have first := length_tokens value
      have later := length_moreMemberTokens rest
      simp only [moreMemberTokens, contentMembers, frameMoreMembers, List.flatten_cons,
        List.flatten_append, List.length_append, format.length_quoted, length_punctuation]
      omega

end

theorem length_compact (tree : Json ν) :
    (compact format tree).length = content format tree + frame format tree :=
  length_tokens format tree

mutual

/-- A tree has the names of its blank. -/
theorem named_blank (zero : ν) : ∀ tree : Json ν, (blank zero tree).Named ↔ tree.Named
  | .null | .bool _ | .num _ | .str _ => Iff.rfl
  | .arr elements => namedElements_blank zero elements
  | .obj members => namedMembers_blank zero members

theorem namedElements_blank (zero : ν) : ∀ elements : List (Json ν),
    NamedElements (blankElements zero elements) ↔ NamedElements elements
  | [] => Iff.rfl
  | element :: rest => and_congr (named_blank zero element) (namedElements_blank zero rest)

theorem namedMembers_blank (zero : ν) : ∀ members : List (Bytes × Json ν),
    NamedMembers (blankMembers zero members) ↔ NamedMembers members
  | [] => Iff.rfl
  | (_, value) :: rest =>
      and_congr Iff.rfl (and_congr (named_blank zero value) (namedMembers_blank zero rest))

end

end Json
end Support
