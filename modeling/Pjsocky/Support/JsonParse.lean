import Pjsocky.Support.JsonText

/-!
# Reading JSON texts

`lex` cuts a text into tokens and `feed` reads one token of a tree, with a stack
of the arrays and objects that are still open. Both go through their input once
and keep what they need in their state, so neither needs fuel. A `PartialReader` says
how the spellings of a `Format` are read back, those of numbers as far as they are
spelled faithfully; `parse_spaced` is then the round trip: every text with the
tokens of a tree of such numbers is read as that tree, whatever the white space
around them.
-/

namespace Support
namespace Json

/-- The bytes that are a token each: brackets, braces, comma and colon. -/
def isPunctuation (byte : UInt8) : Bool := byte ∈ ascii "[]\x7b\x7d,:"

/-- The bytes that end a literal or a number. -/
def isDelimiter (byte : UInt8) : Bool := isBlank byte || byte = quote || isPunctuation byte

/-! ## Tokens of a text -/

/-- What the lexer is in, with the bytes of the token so far. -/
inductive Lexing where
  | between
  | word (read : Bytes)
  | string (read : Bytes) (escaped : Bool)

namespace Lexing

/-- The first byte after a token, and the token it is if it is one. -/
def start (byte : UInt8) : Lexing × List Bytes :=
  if isBlank byte then (.between, [])
  else if byte = quote then (.string [quote] false, [])
  else if isPunctuation byte then (.between, [[byte]])
  else (.word [byte], [])

/-- The next byte, and the tokens that it completes. -/
def next : Lexing → UInt8 → Lexing × List Bytes
  | .between, byte => start byte
  | .word read, byte =>
      if isDelimiter byte then ((start byte).1, read :: (start byte).2)
      else (.word (read ++ [byte]), [])
  | .string read true, byte => (.string (read ++ [byte]) false, [])
  | .string read false, byte =>
      if byte = quote then (.between, [read ++ [quote]])
      else (.string (read ++ [byte]) (byte = backslash), [])

end Lexing

/-- The tokens of a text; there are none when a string is not closed. -/
def lex : Lexing → Bytes → Option (List Bytes)
  | .between, [] => some []
  | .word read, [] => some [read]
  | .string .., [] => none
  | mode, byte :: rest => (lex (mode.next byte).1 rest).map ((mode.next byte).2 ++ ·)

/-! ## Trees of a token sequence -/

/-- How the spellings of a format are read back: every text, and the numbers that the format
spells faithfully. -/
structure PartialReader {ν : Type} (format : Format ν) (spelled : ν → Prop) where
  text : Bytes → Option Bytes
  number : Bytes → Option ν
  text_escaped : ∀ content, text (format.escaped content) = some content
  number_spelled : ∀ value, spelled value → number (format.number value) = some value
  unpunctuated : ∀ value, spelled value → ∀ byte ∈ format.number value, isPunctuation byte = false
  not_literal : ∀ value, spelled value →
    format.number value ∉ [ascii "null", ascii "true", ascii "false"]

/-- How every spelling of a format is read back. -/
abbrev Reader {ν : Type} (format : Format ν) := PartialReader format fun _ => True

/-- An array or an object that is still open, with what it holds so far. -/
inductive Opened (ν : Type) where
  | arr (elements : List (Json ν))
  | obj (members : List (Bytes × Json ν)) (name : Bytes)

/-- What the next token is for. -/
inductive Parsing (ν : Type) where
  | value (stack : List (Opened ν))
  | firstElement (stack : List (Opened ν))
  | member (members : List (Bytes × Json ν)) (stack : List (Opened ν))
  | colon (members : List (Bytes × Json ν)) (name : Bytes) (stack : List (Opened ν))
  | complete (value : Json ν) (stack : List (Opened ν))

section Parser

variable {ν : Type} {format : Format ν} {spelled : ν → Prop} (reader : PartialReader format spelled)

/-- The content of a string token. -/
def PartialReader.string : Bytes → Option Bytes
  | [] => none
  | byte :: rest => if byte = quote then reader.text rest.dropLast else none

/-- A token that is a tree of its own. -/
def PartialReader.scalar (token : Bytes) : Option (Json ν) :=
  if token = ascii "null" then some .null
  else if token = ascii "true" then some (.bool true)
  else if token = ascii "false" then some (.bool false)
  else if token.head? = some quote then (reader.string token).map .str
  else (reader.number token).map .num

/-- The first token of a tree. -/
def PartialReader.begin (token : Bytes) (stack : List (Opened ν)) : Option (Parsing ν) :=
  if token = ascii "[" then some (.firstElement stack)
  else if token = ascii "\x7b" then some (.member [] stack)
  else (reader.scalar token).map (.complete · stack)

/-- One token. -/
def feed : Parsing ν → Bytes → Option (Parsing ν)
  | .value stack, token => reader.begin token stack
  | .firstElement stack, token =>
      if token = ascii "]" then some (.complete (.arr []) stack)
      else reader.begin token (.arr [] :: stack)
  | .member members stack, token =>
      -- A comma is not followed by the closing brace.
      if token = ascii "\x7d" ∧ members.isEmpty then some (.complete (.obj []) stack)
      else (reader.string token).map (.colon members · stack)
  | .colon members name stack, token =>
      if token = ascii ":" then some (.value (.obj members name :: stack)) else none
  | .complete _ [], _ => none
  | .complete value (.arr elements :: stack), token =>
      if token = ascii "," then some (.value (.arr (elements ++ [value]) :: stack))
      else if token = ascii "]" then some (.complete (.arr (elements ++ [value])) stack)
      else none
  | .complete value (.obj members name :: stack), token =>
      if token = ascii "," then some (.member (members ++ [(name, value)]) stack)
      else if token = ascii "\x7d" then some (.complete (.obj (members ++ [(name, value)])) stack)
      else none

/-- The state after some tokens. -/
def feedAll (state : Parsing ν) (tokens : List Bytes) : Option (Parsing ν) :=
  tokens.foldlM (feed reader) state

/-- The tree of a token sequence that ends with it. -/
def Parsing.tree : Parsing ν → Option (Json ν)
  | .complete root [] => some root
  | _ => none

/-- The tree that a text spells. -/
def parse (text : Bytes) : Option (Json ν) := do
  let tokens ← lex .between text
  let final ← feedAll reader (.value []) tokens
  final.tree

end Parser

/-! ## The lexer on tokens -/

/-- A text that cannot go on a literal or a number. -/
def Delimits (text : Bytes) : Prop := ∀ byte ∈ text.head?, isDelimiter byte = true

/-- A token sequence that the lexer can tell apart: after a literal or a number
comes a token that ends it. -/
inductive Lexed : List Bytes → Prop where
  | nil : Lexed []
  | string {rest : List Bytes} (units : List Bytes) (escapes : ∀ unit ∈ units, EscapeUnit unit)
      (more : Lexed rest) : Lexed ((quote :: (units.flatten ++ [quote])) :: rest)
  | punctuation {rest : List Bytes} (byte : UInt8) (punctuates : isPunctuation byte = true)
      (more : Lexed rest) : Lexed ([byte] :: rest)
  | word {rest : List Bytes} (text : Bytes) (nonempty : text ≠ [])
      (plain : ∀ byte ∈ text, isDelimiter byte = false)
      (apart : ∀ next ∈ rest.head?, next ≠ [] ∧ Delimits next) (more : Lexed rest) :
      Lexed (text :: rest)

theorem Spaced.delimits {tokens : List Bytes} {text : Bytes} (spaced : Spaced tokens text)
    (apart : ∀ next ∈ tokens.head?, next ≠ [] ∧ Delimits next) : Delimits text := by
  have ofBlank : ∀ {blanks : Bytes}, (∀ byte ∈ blanks, isBlank byte = true) →
      ∀ byte ∈ blanks.head?, isDelimiter byte = true := by
    intro blanks blank byte first
    simp [isDelimiter, blank byte (List.mem_of_mem_head? first)]
  cases spaced with
  | nil blank => exact ofBlank blank
  | @cons blanks token rest tokens blank more =>
      obtain ⟨nonempty, delimits⟩ := apart token rfl
      intro byte first
      cases blanks with
      | nil =>
          cases token with
          | nil => exact (nonempty rfl).elim
          | cons head tail => exact delimits byte first
      | cons head tail => exact ofBlank blank byte first

theorem lex_cons (mode : Lexing) (byte : UInt8) (rest : Bytes) :
    lex mode (byte :: rest) = (lex (mode.next byte).1 rest).map ((mode.next byte).2 ++ ·) := by
  cases mode <;> rfl

theorem lex_blank {blanks : Bytes} (blank : ∀ byte ∈ blanks, isBlank byte = true)
    (rest : Bytes) : lex .between (blanks ++ rest) = lex .between rest := by
  induction blanks with
  | nil => rfl
  | cons byte more ih =>
      have isBlank := blank byte List.mem_cons_self
      have later := ih fun byte member => blank byte (List.mem_cons_of_mem _ member)
      simpa [lex, Lexing.next, Lexing.start, isBlank] using later

theorem lex_punctuation {byte : UInt8} (punctuates : isPunctuation byte = true) (rest : Bytes) :
    lex .between (byte :: rest) = (lex .between rest).map ([byte] :: ·) := by
  have others :
      (ascii "[]\x7b\x7d,:").all (fun other => !(isBlank other || other = quote)) = true := by
    decide
  have started : isBlank byte = false ∧ byte ≠ quote := by
    simpa using List.all_eq_true.mp others byte (by simpa [isPunctuation] using punctuates)
  simp [lex, Lexing.next, Lexing.start, started, punctuates]

/-- A literal or a number is read to its end. -/
theorem lex_word {text : Bytes} (plain : ∀ byte ∈ text, isDelimiter byte = false)
    {rest : Bytes} (delimits : Delimits rest) (read : Bytes) :
    lex (.word read) (text ++ rest) = (lex .between rest).map ((read ++ text) :: ·) := by
  induction text generalizing read with
  | nil =>
      cases rest with
      | nil => simp [lex]
      | cons byte rest =>
          have ended : (Lexing.word read).next byte =
              ((Lexing.start byte).1, read :: (Lexing.start byte).2) :=
            if_pos (delimits byte rfl)
          rw [List.nil_append, List.append_nil, lex_cons, lex_cons, ended, Option.map_map]
          rfl
  | cons byte more ih =>
      have inside := plain byte List.mem_cons_self
      have later := ih (fun byte member => plain byte (List.mem_cons_of_mem _ member))
        (read ++ [byte])
      simpa [lex, Lexing.next, inside] using later

private theorem lex_plain {text : Bytes}
    (plain : ∀ byte ∈ text, byte ≠ quote ∧ byte ≠ backslash) (read rest : Bytes) :
    lex (.string read false) (text ++ rest) = lex (.string (read ++ text) false) rest := by
  induction text generalizing read with
  | nil => simp
  | cons byte more ih =>
      obtain ⟨notQuote, notBackslash⟩ := plain byte List.mem_cons_self
      have later := ih (fun byte member => plain byte (List.mem_cons_of_mem _ member))
        (read ++ [byte])
      simpa [lex, Lexing.next, notQuote, notBackslash] using later

/-- An escape unit leaves the lexer inside the string. -/
theorem lex_unit {unit : Bytes} (escapes : EscapeUnit unit) (read rest : Bytes) :
    lex (.string read false) (unit ++ rest) = lex (.string (read ++ unit) false) rest := by
  cases escapes with
  | plain byte visible notQuote notBackslash =>
      exact lex_plain (by simp [notQuote, notBackslash]) read rest
  | pair byte digits visible plain =>
      have distinct : backslash ≠ quote := by decide
      have later := lex_plain (fun digit member => (plain digit member).2)
        (read ++ [backslash, byte]) rest
      simpa [lex, Lexing.next, distinct] using later

theorem lex_units {units : List Bytes} (escapes : ∀ unit ∈ units, EscapeUnit unit)
    (read rest : Bytes) :
    lex (.string read false) (units.flatten ++ rest) =
      lex (.string (read ++ units.flatten) false) rest := by
  induction units generalizing read with
  | nil => simp
  | cons unit more ih =>
      rw [List.flatten_cons, List.append_assoc, lex_unit (escapes unit List.mem_cons_self),
        ih (fun unit member => escapes unit (List.mem_cons_of_mem _ member)), List.append_assoc]

theorem lex_string {units : List Bytes} (escapes : ∀ unit ∈ units, EscapeUnit unit)
    (rest : Bytes) :
    lex .between (quote :: (units.flatten ++ [quote]) ++ rest) =
      (lex .between rest).map ((quote :: (units.flatten ++ [quote])) :: ·) := by
  have opened : lex .between (quote :: (units.flatten ++ [quote]) ++ rest) =
      lex (.string [quote] false) (units.flatten ++ quote :: rest) := by
    have visible : isBlank quote = false := by decide
    simp [lex, Lexing.next, Lexing.start, visible]
  rw [opened, lex_units escapes]
  simp [lex, Lexing.next]

/-- The lexer finds the tokens of a text, whatever the white space around them. -/
theorem lex_spaced {tokens : List Bytes} (lexed : Lexed tokens) {text : Bytes}
    (spaced : Spaced tokens text) : lex .between text = some tokens := by
  induction lexed generalizing text with
  | nil =>
      cases spaced with
      | nil blank => simpa [lex] using lex_blank blank []
  | string units escapes more ih =>
      cases spaced with
      | cons blank later =>
          rw [List.append_assoc, lex_blank blank, lex_string escapes, ih later]
          rfl
  | punctuation byte punctuates more ih =>
      cases spaced with
      | cons blank later =>
          rw [List.append_assoc, lex_blank blank, List.singleton_append,
            lex_punctuation punctuates, ih later]
          rfl
  | word text nonempty plain apart more ih =>
      cases spaced with
      | cons blank later =>
          rw [List.append_assoc, lex_blank blank]
          cases text with
          | nil => exact (nonempty rfl).elim
          | cons byte tail =>
              have inside := plain byte List.mem_cons_self
              have started : Lexing.start byte = (.word [byte], []) := by
                simp only [isDelimiter, Bool.or_eq_false_iff, decide_eq_false_iff_not] at inside
                simp [Lexing.start, inside]
              have rest := lex_word
                (fun byte member => plain byte (List.mem_cons_of_mem _ member))
                (later.delimits apart) [byte]
              rw [List.cons_append, lex_cons, Lexing.next, started]
              rw [rest, ih later]
              rfl

/-! ## The tokens of a tree -/

section Tree

variable {ν : Type} {format : Format ν} {spelled : ν → Prop} (reader : PartialReader format spelled)

theorem Format.quoted_units (content : Bytes) :
    ∃ units : List Bytes, (∀ unit ∈ units, EscapeUnit unit) ∧
      format.quoted content = quote :: (units.flatten ++ [quote]) := by
  refine ⟨content.map format.escape, fun unit member => ?_, ?_⟩
  · obtain ⟨byte, -, rfl⟩ := List.mem_map.mp member
    exact format.escapeUnit byte
  · simp [Format.quoted, Format.escaped, List.flatMap]

/-- What may follow a tree: nothing, or a token that ends a word. -/
def Follows (more : List Bytes) : Prop :=
  Lexed more ∧ ∀ next ∈ more.head?, next ≠ [] ∧ Delimits next

theorem follows_nil : Follows [] := ⟨.nil, by simp⟩

theorem follows_punctuation {byte : UInt8} (punctuates : isPunctuation byte = true)
    {rest : List Bytes} (more : Lexed rest) : Follows ([byte] :: rest) := by
  refine ⟨.punctuation byte punctuates more, fun next first => ?_⟩
  cases first
  refine ⟨List.cons_ne_nil _ _, fun other same => ?_⟩
  cases same
  simp [isDelimiter, punctuates]

theorem lexed_quoted (content : Bytes) {rest : List Bytes} (more : Lexed rest) :
    Lexed (format.quoted content :: rest) := by
  obtain ⟨units, escapes, same⟩ := @Format.quoted_units ν format content
  rw [same]
  exact .string units escapes more

theorem lexed_literal {text : Bytes} (nonempty : text ≠ [])
    (plain : text.all (fun byte => !isDelimiter byte) = true) {rest : List Bytes}
    (follows : Follows rest) : Lexed (text :: rest) := by
  refine .word text nonempty (fun byte member => ?_) follows.2 follows.1
  simpa using List.all_eq_true.mp plain byte member

include reader in
theorem lexed_number {value : ν} (isSpelled : spelled value) {rest : List Bytes}
    (follows : Follows rest) : Lexed (format.number value :: rest) := by
  obtain ⟨nonempty, plain⟩ := format.numberAtom value
  refine .word _ nonempty (fun byte member => ?_) follows.2 follows.1
  obtain ⟨notQuote, notBlank⟩ := plain byte member
  simp [isDelimiter, notQuote, notBlank, reader.unpunctuated value isSpelled byte member]

mutual

/-- The lexer can tell the tokens of a tree apart, and from what follows it. -/
theorem lexed_tokens (reader : PartialReader format spelled) :
    ∀ (tree : Json ν) {more : List Bytes},
    tree.Numbered spelled → Follows more → Lexed (tokens format tree ++ more)
  | .null, _, _, follows => lexed_literal (List.cons_ne_nil _ _) (by decide) follows
  | .bool true, _, _, follows => lexed_literal (List.cons_ne_nil _ _) (by decide) follows
  | .bool false, _, _, follows => lexed_literal (List.cons_ne_nil _ _) (by decide) follows
  | .num _, _, isSpelled, follows => lexed_number reader isSpelled follows
  | .str content, _, _, follows => lexed_quoted content follows.1
  | .arr elements, more, numbered, follows => by
      rw [tokens, List.cons_append, List.append_assoc]
      refine .punctuation _ (by decide) (lexed_elementTokens reader elements numbered ?_)
      exact follows_punctuation (by decide) follows.1
  | .obj members, more, numbered, follows => by
      rw [tokens, List.cons_append, List.append_assoc]
      refine .punctuation _ (by decide) (lexed_memberTokens reader members numbered ?_)
      exact follows_punctuation (by decide) follows.1

theorem lexed_elementTokens (reader : PartialReader format spelled) :
    ∀ (elements : List (Json ν)) {more : List Bytes},
    NumberedElements spelled elements → Follows more →
      Lexed (elementTokens format elements ++ more)
  | [], _, _, follows => follows.1
  | element :: rest, more, numbered, follows => by
      rw [elementTokens, List.append_assoc]
      apply lexed_tokens reader element numbered.1
      exact follows_moreElementTokens reader rest numbered.2 follows

theorem follows_moreElementTokens (reader : PartialReader format spelled) :
    ∀ (elements : List (Json ν)) {more : List Bytes},
    NumberedElements spelled elements → Follows more →
      Follows (moreElementTokens format elements ++ more)
  | [], _, _, follows => follows
  | element :: rest, more, numbered, follows => by
      rw [moreElementTokens, List.cons_append, List.append_assoc]
      refine follows_punctuation (by decide) (lexed_tokens reader element numbered.1 ?_)
      exact follows_moreElementTokens reader rest numbered.2 follows

theorem lexed_memberTokens (reader : PartialReader format spelled) :
    ∀ (members : List (Bytes × Json ν)) {more : List Bytes},
    NumberedMembers spelled members → Follows more →
      Lexed (memberTokens format members ++ more)
  | [], _, _, follows => follows.1
  | (name, value) :: rest, more, numbered, follows => by
      rw [memberTokens, List.cons_append, List.cons_append, List.append_assoc]
      refine lexed_quoted name (.punctuation _ (by decide) ?_)
      apply lexed_tokens reader value numbered.1
      exact follows_moreMemberTokens reader rest numbered.2 follows

theorem follows_moreMemberTokens (reader : PartialReader format spelled) :
    ∀ (members : List (Bytes × Json ν)) {more : List Bytes},
    NumberedMembers spelled members → Follows more →
      Follows (moreMemberTokens format members ++ more)
  | [], _, _, follows => follows
  | (name, value) :: rest, more, numbered, follows => by
      rw [moreMemberTokens, List.cons_append, List.cons_append, List.cons_append,
        List.append_assoc]
      refine follows_punctuation (by decide) (lexed_quoted name ?_)
      refine .punctuation _ (by decide) (lexed_tokens reader value numbered.1 ?_)
      exact follows_moreMemberTokens reader rest numbered.2 follows

end

/-! ## The parser on tokens -/

theorem feedAll_cons {state next : Parsing ν} {token : Bytes}
    (read : feed reader state token = some next) (rest : List Bytes) :
    feedAll reader state (token :: rest) = feedAll reader next rest := by
  rw [feedAll, List.foldlM_cons, read]
  rfl

theorem feedAll_append {state next : Parsing ν} {first : List Bytes}
    (read : feedAll reader state first = some next) (rest : List Bytes) :
    feedAll reader state (first ++ rest) = feedAll reader next rest := by
  rw [feedAll] at read
  rw [feedAll, List.foldlM_append, read]
  rfl

/-- A string token is none of the others. -/
theorem Format.quoted_ne (content : Bytes) {token : Bytes} (other : token.head? ≠ some quote) :
    format.quoted content ≠ token := by
  rintro rfl
  exact other rfl

theorem PartialReader.string_quoted (content : Bytes) :
    reader.string (format.quoted content) = some content := by
  simp [PartialReader.string, Format.quoted, reader.text_escaped]

include reader in
theorem PartialReader.number_ne {value : ν} (isSpelled : spelled value) {byte : UInt8}
    (punctuates : isPunctuation byte = true) : format.number value ≠ [byte] := by
  intro same
  have unpunctuated := reader.unpunctuated value isSpelled byte (by simp [same])
  rw [punctuates] at unpunctuated
  cases unpunctuated

theorem PartialReader.scalar_quoted (content : Bytes) :
    reader.scalar (format.quoted content) = some (.str content) := by
  have first : (format.quoted content).head? = some quote := rfl
  rw [PartialReader.scalar, if_neg (format.quoted_ne content (by decide)),
    if_neg (format.quoted_ne content (by decide)), if_neg (format.quoted_ne content (by decide)),
    if_pos first, reader.string_quoted]
  rfl

theorem PartialReader.scalar_number {value : ν} (isSpelled : spelled value) :
    reader.scalar (format.number value) = some (.num value) := by
  have others := reader.not_literal value isSpelled
  simp only [List.mem_cons, List.not_mem_nil, or_false, not_or] at others
  have first : (format.number value).head? ≠ some quote := fun isQuote =>
    ((format.numberAtom value).2 quote (List.mem_of_mem_head? isQuote)).1 rfl
  rw [PartialReader.scalar, if_neg others.1, if_neg others.2.1, if_neg others.2.2,
    if_neg first, reader.number_spelled value isSpelled]
  rfl

/-- A scalar is a tree of one token. -/
theorem feedAll_scalar {token : Bytes} {tree : Json ν} (read : reader.scalar token = some tree)
    (notArray : token ≠ ascii "[") (notObject : token ≠ ascii "\x7b")
    (stack : List (Opened ν)) :
    feedAll reader (.value stack) [token] = some (.complete tree stack) := by
  have first : feed reader (.value stack) token = some (.complete tree stack) := by
    rw [feed, PartialReader.begin, if_neg notArray, if_neg notObject, read]
    rfl
  exact feedAll_cons reader first []

include reader in
/-- No tree begins with the closing bracket. -/
theorem tokens_head {tree : Json ν} (numbered : tree.Numbered spelled) :
    ∃ first rest, tokens format tree = first :: rest ∧ first ≠ ascii "]" := by
  cases tree with
  | null => exact ⟨_, _, rfl, by decide⟩
  | bool value => cases value <;> exact ⟨_, _, rfl, by decide⟩
  | num value => exact ⟨_, _, rfl, reader.number_ne numbered (by decide)⟩
  | str content => exact ⟨_, _, rfl, format.quoted_ne content (by decide)⟩
  | arr elements => exact ⟨_, _, rfl, by decide⟩
  | obj members => exact ⟨_, _, rfl, by decide⟩

/-- So the first element of an array is read as any other. -/
theorem feedAll_firstElement {tree : Json ν} (numbered : tree.Numbered spelled)
    (rest : List Bytes) (stack : List (Opened ν)) :
    feedAll reader (.firstElement stack) (tokens format tree ++ rest) =
      feedAll reader (.value (.arr [] :: stack)) (tokens format tree ++ rest) := by
  obtain ⟨first, more, same, notClosed⟩ := tokens_head reader numbered
  have read : feed reader (.firstElement stack) first =
      feed reader (.value (.arr [] :: stack)) first := by
    simp only [feed, if_neg notClosed]
  rw [same, List.cons_append, feedAll, feedAll, List.foldlM_cons, List.foldlM_cons, read]

theorem feed_name (members : List (Bytes × Json ν)) (name : Bytes) (stack : List (Opened ν)) :
    feed reader (.member members stack) (format.quoted name) =
      some (.colon members name stack) := by
  rw [feed, if_neg fun closed => format.quoted_ne name (by decide) closed.1,
    reader.string_quoted]
  rfl

theorem feed_colon (members : List (Bytes × Json ν)) (name : Bytes) (stack : List (Opened ν)) :
    feed reader (.colon members name stack) (ascii ":") =
      some (.value (.obj members name :: stack)) :=
  rfl

mutual

/-- The tokens of a tree are read as that tree. -/
theorem feedAll_tokens : ∀ (tree : Json ν) (stack : List (Opened ν)), tree.Numbered spelled →
    feedAll reader (.value stack) (tokens format tree) = some (.complete tree stack)
  | .null, stack, _ => feedAll_scalar reader rfl (by decide) (by decide) stack
  | .bool true, stack, _ => feedAll_scalar reader rfl (by decide) (by decide) stack
  | .bool false, stack, _ => feedAll_scalar reader rfl (by decide) (by decide) stack
  | .num value, stack, isSpelled =>
      feedAll_scalar reader (reader.scalar_number isSpelled)
        (reader.number_ne isSpelled (by decide)) (reader.number_ne isSpelled (by decide)) stack
  | .str content, stack, _ =>
      feedAll_scalar reader (reader.scalar_quoted content)
        (format.quoted_ne content (by decide)) (format.quoted_ne content (by decide)) stack
  | .arr elements, stack, numbered => by
      have opened : feed reader (.value stack) (ascii "[") = some (.firstElement stack) := rfl
      rw [tokens, feedAll_cons reader opened]
      exact feedAll_elements elements stack numbered
  | .obj members, stack, numbered => by
      have opened : feed reader (.value stack) (ascii "\x7b") = some (.member [] stack) := rfl
      rw [tokens, feedAll_cons reader opened]
      exact feedAll_members members stack numbered

theorem feedAll_elements : ∀ (elements : List (Json ν)) (stack : List (Opened ν)),
    NumberedElements spelled elements →
    feedAll reader (.firstElement stack) (elementTokens format elements ++ [ascii "]"]) =
      some (.complete (.arr elements) stack)
  | [], stack, _ => rfl
  | element :: rest, stack, numbered => by
      rw [elementTokens, List.append_assoc, feedAll_firstElement reader numbered.1,
        feedAll_append reader (feedAll_tokens element _ numbered.1),
        feedAll_moreElements rest _ _ _ numbered.2]
      rfl

theorem feedAll_moreElements : ∀ (rest : List (Json ν)) (element : Json ν)
    (elements : List (Json ν)) (stack : List (Opened ν)), NumberedElements spelled rest →
    feedAll reader (.complete element (.arr elements :: stack))
        (moreElementTokens format rest ++ [ascii "]"]) =
      some (.complete (.arr (elements ++ element :: rest)) stack)
  | [], element, elements, stack, _ => rfl
  | next :: rest, element, elements, stack, numbered => by
      have comma : feed reader (.complete element (.arr elements :: stack)) (ascii ",") =
          some (.value (.arr (elements ++ [element]) :: stack)) := rfl
      rw [moreElementTokens, List.cons_append, List.append_assoc, feedAll_cons reader comma,
        feedAll_append reader (feedAll_tokens next _ numbered.1),
        feedAll_moreElements rest _ _ _ numbered.2, List.append_assoc, List.singleton_append]

theorem feedAll_members : ∀ (members : List (Bytes × Json ν)) (stack : List (Opened ν)),
    NumberedMembers spelled members →
    feedAll reader (.member [] stack) (memberTokens format members ++ [ascii "\x7d"]) =
      some (.complete (.obj members) stack)
  | [], stack, _ => rfl
  | (name, value) :: rest, stack, numbered => by
      rw [memberTokens, List.cons_append, List.cons_append, List.append_assoc,
        feedAll_cons reader (feed_name reader [] name stack),
        feedAll_cons reader (feed_colon reader [] name stack),
        feedAll_append reader (feedAll_tokens value _ numbered.1),
        feedAll_moreMembers rest _ _ _ _ numbered.2]
      rfl

theorem feedAll_moreMembers : ∀ (rest : List (Bytes × Json ν)) (name : Bytes) (value : Json ν)
    (members : List (Bytes × Json ν)) (stack : List (Opened ν)), NumberedMembers spelled rest →
    feedAll reader (.complete value (.obj members name :: stack))
        (moreMemberTokens format rest ++ [ascii "\x7d"]) =
      some (.complete (.obj (members ++ (name, value) :: rest)) stack)
  | [], name, value, members, stack, _ => rfl
  | (next, nextValue) :: rest, name, value, members, stack, numbered => by
      have comma : feed reader (.complete value (.obj members name :: stack)) (ascii ",") =
          some (.member (members ++ [(name, value)]) stack) := rfl
      rw [moreMemberTokens, List.cons_append, List.cons_append, List.cons_append,
        List.append_assoc, feedAll_cons reader comma,
        feedAll_cons reader (feed_name reader _ next stack),
        feedAll_cons reader (feed_colon reader _ next stack),
        feedAll_append reader (feedAll_tokens nextValue _ numbered.1),
        feedAll_moreMembers rest _ _ _ _ numbered.2, List.append_assoc, List.singleton_append]

end

/-- Every text with the tokens of a tree is read as that tree. -/
theorem parse_spaced {tree : Json ν} (numbered : tree.Numbered spelled) {text : Bytes}
    (spaced : Spaced (tokens format tree) text) : parse reader text = some tree := by
  have lexed : Lexed (tokens format tree) := by
    simpa using lexed_tokens reader tree numbered follows_nil
  rw [parse, lex_spaced lexed spaced]
  change (feedAll reader (.value []) (tokens format tree)).bind Parsing.tree = some tree
  rw [feedAll_tokens reader tree [] numbered]
  rfl

end Tree

end Json
end Support
