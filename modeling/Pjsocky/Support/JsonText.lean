import Mathlib.Data.List.Basic

/-!
# JSON trees and their texts

`Json` is a JSON tree over an arbitrary type of numbers. A `Format` fixes how a
byte of a string and a number are spelled; `tokens` is then the token sequence of
a tree and `compact` its text without white space. `Spaced` is every text with
the same tokens and arbitrary white space around them, which is what a
pretty-printer may produce. The token classes say just enough to skip white space
without parsing: a string token is a quoted run of escape units, every other token
has neither a quote nor a blank.
-/

namespace Support

/-- Raw text. -/
abbrev Bytes := List UInt8

/-- The bytes of a literal made of ASCII characters. -/
def ascii (text : String) : Bytes := text.toList.map fun char => UInt8.ofNat char.toNat

/-- A JSON tree whose numbers are values of `ν`. -/
inductive Json (ν : Type) where
  | null
  | bool (value : Bool)
  | num (value : ν)
  | str (value : Bytes)
  | arr (elements : List (Json ν))
  | obj (members : List (Bytes × Json ν))

namespace Json

def lineFeed : UInt8 := 10
def quote : UInt8 := 34
def backslash : UInt8 := 92

/-- White space outside strings: space, tab, CR and LF. -/
def isBlank (byte : UInt8) : Bool := byte = 32 || byte = 9 || byte = 13 || byte = 10

/-- The spelling of one byte inside a string: itself, when it is neither a
control character nor a quote nor a backslash, or a backslash with its escape
character and the digits after it. -/
inductive EscapeUnit : Bytes → Prop where
  | plain (byte : UInt8) (visible : 32 ≤ byte) (notQuote : byte ≠ quote)
      (notBackslash : byte ≠ backslash) : EscapeUnit [byte]
  | pair (byte : UInt8) (digits : Bytes) (visible : 32 ≤ byte)
      (plain : ∀ digit ∈ digits, 32 ≤ digit ∧ digit ≠ quote ∧ digit ≠ backslash) :
      EscapeUnit (backslash :: byte :: digits)

/-- A token outside strings: punctuation, a literal or a number. -/
def Atom (text : Bytes) : Prop :=
  text ≠ [] ∧ ∀ byte ∈ text, byte ≠ quote ∧ isBlank byte = false

/-- How strings and numbers are spelled. -/
structure Format (ν : Type) where
  escape : UInt8 → Bytes
  number : ν → Bytes
  escapeUnit : ∀ byte, EscapeUnit (escape byte)
  numberAtom : ∀ value, Atom (number value)

namespace Format

variable {ν : Type} (format : Format ν)

/-- The content of a string token. -/
def escaped (text : Bytes) : Bytes := text.flatMap format.escape

/-- The token of a string. -/
def quoted (text : Bytes) : Bytes := quote :: (format.escaped text ++ [quote])

end Format

section Tokens

variable {ν : Type} (format : Format ν)

mutual

/-- The tokens of a tree, in order. -/
def tokens : Json ν → List Bytes
  | .null => [ascii "null"]
  | .bool true => [ascii "true"]
  | .bool false => [ascii "false"]
  | .num value => [format.number value]
  | .str text => [format.quoted text]
  | .arr elements => ascii "[" :: (elementTokens elements ++ [ascii "]"])
  | .obj members => ascii "\x7b" :: (memberTokens members ++ [ascii "\x7d"])

/-- The tokens of an array's elements, with the commas between them. -/
def elementTokens : List (Json ν) → List Bytes
  | [] => []
  | element :: rest => tokens element ++ moreElementTokens rest

/-- The tokens of the elements after the first, each with the comma before it. -/
def moreElementTokens : List (Json ν) → List Bytes
  | [] => []
  | element :: rest => ascii "," :: (tokens element ++ moreElementTokens rest)

/-- The tokens of an object's members, with the commas between them. -/
def memberTokens : List (Bytes × Json ν) → List Bytes
  | [] => []
  | (name, value) :: rest =>
      format.quoted name :: ascii ":" :: (tokens value ++ moreMemberTokens rest)

/-- The tokens of the members after the first, each with the comma before it. -/
def moreMemberTokens : List (Bytes × Json ν) → List Bytes
  | [] => []
  | (name, value) :: rest =>
      ascii "," :: format.quoted name :: ascii ":" :: (tokens value ++ moreMemberTokens rest)

end

/-- The text of a tree without white space. -/
def compact (tree : Json ν) : Bytes := (tokens format tree).flatten

end Tokens

section Named

variable {ν : Type}

mutual

/-- Every member at every depth has a name. -/
def Named : Json ν → Prop
  | .arr elements => NamedElements elements
  | .obj members => NamedMembers members
  | _ => True

def NamedElements : List (Json ν) → Prop
  | [] => True
  | element :: rest => Named element ∧ NamedElements rest

def NamedMembers : List (Bytes × Json ν) → Prop
  | [] => True
  | (name, value) :: rest => name ≠ [] ∧ Named value ∧ NamedMembers rest

end

theorem namedMembers_append {first second : List (Bytes × Json ν)} :
    NamedMembers (first ++ second) ↔ NamedMembers first ∧ NamedMembers second := by
  induction first with
  | nil => simp [NamedMembers]
  | cons member rest ih => simp [NamedMembers, ih, and_assoc]

end Named

section Numbered

variable {ν : Type} (allowed : ν → Prop)

mutual

/-- Every number at every depth is an allowed one. -/
def Numbered : Json ν → Prop
  | .num value => allowed value
  | .arr elements => NumberedElements elements
  | .obj members => NumberedMembers members
  | _ => True

def NumberedElements : List (Json ν) → Prop
  | [] => True
  | element :: rest => Numbered element ∧ NumberedElements rest

def NumberedMembers : List (Bytes × Json ν) → Prop
  | [] => True
  | (_, value) :: rest => Numbered value ∧ NumberedMembers rest

end

mutual

/-- Nothing is asked of a number. -/
theorem numbered_true : ∀ tree : Json ν, Numbered (fun _ => True) tree
  | .null => trivial
  | .bool _ => trivial
  | .num _ => trivial
  | .str _ => trivial
  | .arr elements => numberedElements_true elements
  | .obj members => numberedMembers_true members

theorem numberedElements_true :
    ∀ elements : List (Json ν), NumberedElements (fun _ => True) elements
  | [] => trivial
  | element :: rest => ⟨numbered_true element, numberedElements_true rest⟩

theorem numberedMembers_true :
    ∀ members : List (Bytes × Json ν), NumberedMembers (fun _ => True) members
  | [] => trivial
  | (_, value) :: rest => ⟨numbered_true value, numberedMembers_true rest⟩

end

variable {allowed}

mutual

def decidableNumbered (decides : ∀ value, Decidable (allowed value)) :
    (tree : Json ν) → Decidable (Numbered allowed tree)
  | .null => isTrue trivial
  | .bool _ => isTrue trivial
  | .num value => decides value
  | .str _ => isTrue trivial
  | .arr elements => decidableNumberedElements decides elements
  | .obj members => decidableNumberedMembers decides members

def decidableNumberedElements (decides : ∀ value, Decidable (allowed value)) :
    (elements : List (Json ν)) → Decidable (NumberedElements allowed elements)
  | [] => isTrue trivial
  | element :: rest =>
      @instDecidableAnd _ _ (decidableNumbered decides element)
        (decidableNumberedElements decides rest)

def decidableNumberedMembers (decides : ∀ value, Decidable (allowed value)) :
    (members : List (Bytes × Json ν)) → Decidable (NumberedMembers allowed members)
  | [] => isTrue trivial
  | (_, value) :: rest =>
      @instDecidableAnd _ _ (decidableNumbered decides value)
        (decidableNumberedMembers decides rest)

end

instance [decides : ∀ value, Decidable (allowed value)] (tree : Json ν) :
    Decidable (Numbered allowed tree) := decidableNumbered decides tree

end Numbered

/-- A text made of these tokens in this order, with white space around them. -/
inductive Spaced : List Bytes → Bytes → Prop where
  | nil {blanks : Bytes} (blank : ∀ byte ∈ blanks, isBlank byte = true) : Spaced [] blanks
  | cons {blanks token rest : Bytes} {tokens : List Bytes}
      (blank : ∀ byte ∈ blanks, isBlank byte = true) (more : Spaced tokens rest) :
      Spaced (token :: tokens) (blanks ++ token ++ rest)

theorem Spaced.length_le {tokens : List Bytes} {text : Bytes} (spaced : Spaced tokens text) :
    tokens.flatten.length ≤ text.length := by
  induction spaced with
  | nil _ => simp
  | cons _ _ ih =>
      simp only [List.flatten_cons, List.length_append]
      omega

/-- The text without white space. -/
theorem spaced_flatten (tokens : List Bytes) : Spaced tokens tokens.flatten := by
  induction tokens with
  | nil => exact .nil (by simp)
  | cons token rest ih =>
      have blank : ∀ byte ∈ ([] : Bytes), isBlank byte = true := by simp
      exact .cons blank ih

/-- A text with each token on a line of its own. -/
theorem spaced_lines (tokens : List Bytes) :
    Spaced tokens (tokens.flatMap fun token => lineFeed :: token) := by
  induction tokens with
  | nil => exact .nil (by simp)
  | cons token rest ih =>
      have blank : ∀ byte ∈ [lineFeed], isBlank byte = true := by
        intro byte member
        rw [List.mem_singleton.mp member]
        rfl
      exact .cons blank ih

/-- A token is a quoted run of escape units or an atom. -/
inductive Token : Bytes → Prop where
  | string (units : List Bytes) (escapes : ∀ unit ∈ units, EscapeUnit unit) :
      Token (quote :: (units.flatten ++ [quote]))
  | atom (text : Bytes) (isAtom : Atom text) : Token text

theorem EscapeUnit.no_lineFeed {unit : Bytes} (escapes : EscapeUnit unit) : lineFeed ∉ unit := by
  cases escapes with
  | plain byte visible _ _ =>
      intro member
      rw [← List.mem_singleton.mp member] at visible
      exact absurd visible (by decide)
  | pair byte digits visible plain =>
      intro member
      rcases List.mem_cons.mp member with impossible | later
      · exact absurd impossible (by decide)
      · rcases List.mem_cons.mp later with rfl | digit
        · exact absurd visible (by decide)
        · exact absurd (plain _ digit).1 (by decide)

/-- No token holds a line feed. -/
theorem Token.no_lineFeed {token : Bytes} (isToken : Token token) : lineFeed ∉ token := by
  cases isToken with
  | string units escapes =>
      intro member
      rcases List.mem_cons.mp member with impossible | later
      · exact absurd impossible (by decide)
      · rcases List.mem_append.mp later with inside | closing
        · obtain ⟨unit, unitMember, byteMember⟩ := List.mem_flatten.mp inside
          exact (escapes unit unitMember).no_lineFeed byteMember
        · exact absurd (List.mem_singleton.mp closing) (by decide)
  | atom text isAtom =>
      intro member
      exact absurd (isAtom.2 _ member).2 (by decide)

section Tokens

variable {ν : Type} (format : Format ν)

/-- Escaping does not shorten a text. -/
theorem Format.length_le_escaped (text : Bytes) : text.length ≤ (format.escaped text).length := by
  induction text with
  | nil => simp
  | cons byte rest ih =>
      have nonempty : 0 < (format.escape byte).length := by
        have escapes := format.escapeUnit byte
        generalize format.escape byte = unit at escapes
        cases escapes <;> simp
      simp only [Format.escaped, List.flatMap_cons, List.length_append, List.length_cons] at ih ⊢
      omega

theorem Format.quoted_token (text : Bytes) : Token (format.quoted text) := by
  have units : ∀ unit ∈ text.map format.escape, EscapeUnit unit := by
    intro unit member
    obtain ⟨byte, _, rfl⟩ := List.mem_map.mp member
    exact format.escapeUnit byte
  simpa [Format.quoted, Format.escaped, List.flatMap] using Token.string _ units

theorem atom_token_of_all (text : Bytes)
    (plain : text ≠ [] ∧ text.all (fun byte => byte ≠ quote && isBlank byte = false) = true) :
    Token text := by
  refine .atom text ⟨plain.1, fun byte member => ?_⟩
  simpa using List.all_eq_true.mp plain.2 byte member

private theorem comma_token : Token (ascii ",") := atom_token_of_all _ (by decide)
private theorem colon_token : Token (ascii ":") := atom_token_of_all _ (by decide)

mutual

/-- Every token of a tree is one of the two kinds. -/
theorem tokens_token : ∀ (tree : Json ν), ∀ token ∈ tokens format tree, Token token
  | .null => by
      intro token member
      rw [List.mem_singleton.mp member]
      exact atom_token_of_all _ (by decide)
  | .bool true => by
      intro token member
      rw [List.mem_singleton.mp member]
      exact atom_token_of_all _ (by decide)
  | .bool false => by
      intro token member
      rw [List.mem_singleton.mp member]
      exact atom_token_of_all _ (by decide)
  | .num value => by
      intro token member
      rw [List.mem_singleton.mp member]
      exact .atom _ (format.numberAtom value)
  | .str text => by
      intro token member
      rw [List.mem_singleton.mp member]
      exact format.quoted_token text
  | .arr elements => by
      intro token member
      simp only [tokens, List.mem_cons, List.mem_append, List.not_mem_nil, or_false] at member
      rcases member with rfl | inside | rfl
      · exact atom_token_of_all _ (by decide)
      · exact elementTokens_token elements token inside
      · exact atom_token_of_all _ (by decide)
  | .obj members => by
      intro token member
      simp only [tokens, List.mem_cons, List.mem_append, List.not_mem_nil, or_false] at member
      rcases member with rfl | inside | rfl
      · exact atom_token_of_all _ (by decide)
      · exact memberTokens_token members token inside
      · exact atom_token_of_all _ (by decide)

theorem elementTokens_token : ∀ (elements : List (Json ν)),
    ∀ token ∈ elementTokens format elements, Token token
  | [] => by simp [elementTokens]
  | element :: rest => by
      intro token member
      rcases List.mem_append.mp member with here | later
      · exact tokens_token element token here
      · exact moreElementTokens_token rest token later

theorem moreElementTokens_token : ∀ (elements : List (Json ν)),
    ∀ token ∈ moreElementTokens format elements, Token token
  | [] => by simp [moreElementTokens]
  | element :: rest => by
      intro token member
      simp only [moreElementTokens, List.mem_cons, List.mem_append] at member
      rcases member with rfl | here | later
      · exact comma_token
      · exact tokens_token element token here
      · exact moreElementTokens_token rest token later

theorem memberTokens_token : ∀ (members : List (Bytes × Json ν)),
    ∀ token ∈ memberTokens format members, Token token
  | [] => by simp [memberTokens]
  | (name, value) :: rest => by
      intro token member
      simp only [memberTokens, List.mem_cons, List.mem_append] at member
      rcases member with rfl | rfl | here | later
      · exact format.quoted_token name
      · exact colon_token
      · exact tokens_token value token here
      · exact moreMemberTokens_token rest token later

theorem moreMemberTokens_token : ∀ (members : List (Bytes × Json ν)),
    ∀ token ∈ moreMemberTokens format members, Token token
  | [] => by simp [moreMemberTokens]
  | (name, value) :: rest => by
      intro token member
      simp only [moreMemberTokens, List.mem_cons, List.mem_append] at member
      rcases member with rfl | rfl | rfl | here | later
      · exact comma_token
      · exact format.quoted_token name
      · exact colon_token
      · exact tokens_token value token here
      · exact moreMemberTokens_token rest token later

end

/-- A tree without white space is a single line. -/
theorem compact_no_lineFeed (tree : Json ν) : lineFeed ∉ compact format tree := by
  intro member
  obtain ⟨token, tokenMember, byteMember⟩ := List.mem_flatten.mp member
  exact (tokens_token format tree token tokenMember).no_lineFeed byteMember

end Tokens

end Json
end Support
