import Pjsocky.Support.JsonParse
import Pjsocky.Framing.Message

/-!
# Compaction keeps the message

`compact_json` on any rendering of a tree, with the buffer's other cells arbitrary: what it
leaves is the tokens alone, so it is one line, a JSON reader finds the same tree in it, it does
not depend on the white space there was, and a second compaction leaves the buffer as it is.
`prettyReader` reads back what `prettyWriter` spells, as far as it is faithful: texts and
integers.
-/

namespace Pjsocky

open Support

theorem length_squeeze_le (inString escaped : Bool) (text : Bytes) :
    (squeeze inString escaped text).length ≤ text.length := by
  induction text generalizing inString escaped with
  | nil => exact Nat.le_refl _
  | cons c rest ih =>
      have later := ih (nextMode inString escaped c).1 (nextMode inString escaped c).2
      rw [squeeze, List.length_append, List.length_cons]
      split
      · rw [List.length_singleton]
        omega
      · rw [List.length_nil]
        omega

/-- A scanner that has kept everything so far and keeps what is left stores every byte where it
stands. -/
theorem foldl_compactByte_kept (count : Nat) {i : Nat} {state : CompactState}
    (level : state.out = i)
    (kept : squeeze state.inString state.escaped (state.buf.read i count) =
      state.buf.read i count) :
    let final := (List.range' i count).foldl compactByte state
    final.buf = state.buf ∧ final.out = i + count := by
  induction count generalizing i state with
  | zero => exact ⟨rfl, level⟩
  | succ count ih =>
      have head : state.buf.read i (count + 1) = state.buf i :: state.buf.read (i + 1) count := by
        rw [Nat.add_comm, Memory.read_add]
        rfl
      rw [head, squeeze] at kept
      rw [List.range'_succ, List.foldl_cons, compactByte_eq]
      simp only at kept ⊢
      split at kept
      · rename_i keeps
        have stored : state.buf.write state.out [state.buf i] = state.buf := by
          rw [level]
          exact Memory.write_read state.buf i 1
        rw [if_pos keeps, stored]
        obtain ⟨same, out⟩ := @ih (i + 1) ⟨state.buf, state.out + 1, _, _⟩ (by rw [level])
          (List.cons.inj kept).2
        refine ⟨same, ?_⟩
        rw [out]
        omega
      · have shorter := congrArg List.length kept
        have bound := length_squeeze_le (nextMode state.inString state.escaped (state.buf i)).1
          (nextMode state.inString state.escaped (state.buf i)).2 (state.buf.read (i + 1) count)
        rw [List.nil_append, List.length_cons] at shorter
        omega

/-- `compact_json` does nothing to a text that it keeps. -/
theorem compactJson_kept {buf : Memory UInt8} {len : Nat}
    (kept : squeeze false false (buf.read 0 len) = buf.read 0 len) :
    compactJson buf len = (buf, len) := by
  obtain ⟨same, out⟩ := @foldl_compactByte_kept len 0 ⟨buf, 0, false, false⟩ rfl kept
  rw [Nat.zero_add] at out
  exact Prod.ext same out

section Rendering

variable {ν : Type} {format : Json.Format ν} {tree : Json ν} {text : Bytes} {buf : Memory UInt8}

/-- `compact_json` leaves the tokens of any rendering. -/
theorem compactJson_rendering (spaced : Json.Spaced (Json.tokens format tree) text)
    (loaded : buf.read 0 text.length = text) :
    let result := compactJson buf text.length
    result.1.read 0 result.2 = Json.compact format tree := by
  intro result
  rw [read_compactJson, loaded, squeeze_spaced spaced (Json.tokens_token format tree)]
  rfl

/-- And its result is as `compact_json` leaves it. -/
theorem compactJson_again (spaced : Json.Spaced (Json.tokens format tree) text)
    (loaded : buf.read 0 text.length = text) :
    let result := compactJson buf text.length
    compactJson result.1 result.2 = result := by
  intro result
  apply compactJson_kept
  rw [compactJson_rendering spaced loaded]
  exact squeeze_spaced (Json.spaced_flatten _) (Json.tokens_token format tree)

end Rendering

/-- Compaction keeps the message and makes it one line. -/
theorem compactJson_preserves {ν : Type} {format : Json.Format ν} (reader : Json.Reader format)
    (tree : Json ν) (text : Bytes) (buf : Memory UInt8)
    (spaced : Json.Spaced (Json.tokens format tree) text)
    (loaded : buf.read 0 text.length = text) :
    let result := compactJson buf text.length
    let line := result.1.read 0 result.2
    line = (Json.tokens format tree).flatten ∧ lineFeed ∉ line ∧
    Json.parse reader line = some tree ∧
    (∀ (other : Bytes) (otherBuf : Memory UInt8),
      Json.Spaced (Json.tokens format tree) other → otherBuf.read 0 other.length = other →
      let otherResult := compactJson otherBuf other.length
      otherResult.1.read 0 otherResult.2 = line) ∧
    compactJson result.1 result.2 = result := by
  intro result line
  have compacted : line = Json.compact format tree := compactJson_rendering spaced loaded
  refine ⟨compacted, ?_, ?_, fun other otherBuf otherSpaced otherLoaded => ?_, ?_⟩
  · rw [compacted]
    exact Json.compact_no_lineFeed format tree
  · rw [compacted]
    exact Json.parse_spaced reader (Json.numbered_true tree) (Json.spaced_flatten _)
  · rw [compacted]
    exact compactJson_rendering otherSpaced otherLoaded
  · exact compactJson_again spaced loaded

section ShortEscapes

/-- The letters that `pj_json_write` puts after a backslash, each with its byte: quote,
backslash, slash, and `b`, `f`, `n`, `r` and `t` for control characters. -/
def escapeLetters : List (UInt8 × UInt8) :=
  [(34, 34), (92, 92), (47, 47), (98, 8), (102, 12), (110, 10), (114, 13), (116, 9)]

/-- How `pj_json_write` spells a byte of a string. -/
def writeEscaped (byte : UInt8) : Bytes :=
  match escapeLetters.find? (·.2 = byte) with
  | some (letter, _) => [Json.backslash, letter]
  | none => escapeByte byte

theorem writeEscaped_unit (byte : UInt8) : Json.EscapeUnit (writeEscaped byte) := by
  unfold writeEscaped
  split
  · rename_i letter target found
    have visible : escapeLetters.all (fun entry => 32 ≤ entry.1) = true := by decide
    have isVisible := List.all_eq_true.mp visible _ (List.mem_of_find?_eq_some found)
    exact .pair letter [] (by simpa using isVisible) (by simp)
  · exact escapeByte_unit byte

/-- The value of a hexadecimal digit. -/
def hexValue (digit : UInt8) : Nat := (ascii "0123456789abcdef").idxOf digit

/-- The byte that a spelling stands for, once it is complete. -/
def escapedByte : Bytes → Option UInt8
  | [byte] => if byte = Json.backslash then none else some byte
  | [_, letter] => (escapeLetters.find? (·.1 = letter)).map (·.2)
  | [_, _, _, _, high, low] => some (UInt8.ofNat (16 * hexValue high + hexValue low))
  | _ => none

/-- The bytes that the content of a string token stands for, with the spelling so far. -/
def unescape : Bytes → Bytes → Option Bytes
  | [], [] => some []
  | _ :: _, [] => none
  | unit, byte :: rest =>
      match escapedByte (unit ++ [byte]) with
      | some target => (unescape [] rest).map (target :: ·)
      | none => unescape (unit ++ [byte]) rest

theorem hexValue_hexDigit (value : Nat) : hexValue (hexDigit value) = value % 16 := by
  have digits : ∀ index < 16, hexValue ((ascii "0123456789abcdef").getD index 48) = index := by
    decide
  exact digits (value % 16) (Nat.mod_lt _ (by decide))

theorem unescape_escapeByte (byte : UInt8) (rest : Bytes) :
    unescape [] (escapeByte byte ++ rest) = (unescape [] rest).map (byte :: ·) := by
  unfold escapeByte
  split
  · rename_i plain
    simp [unescape, escapedByte, plain.2.2.2]
  · have value : UInt8.ofNat (16 * hexValue (hexDigit (byte.toNat / 16)) +
        hexValue (hexDigit byte.toNat)) = byte := by
      have bound := byte.toNat_lt
      have same : 16 * (byte.toNat / 16 % 16) + byte.toNat % 16 = byte.toNat := by omega
      rw [hexValue_hexDigit, hexValue_hexDigit, same, UInt8.ofNat_toNat]
    have notLetter : escapeLetters.find? (·.1 = 117) = none := by decide
    simp [unescape, escapedByte, notLetter, value]

theorem unescape_writeEscaped (byte : UInt8) (rest : Bytes) :
    unescape [] (writeEscaped byte ++ rest) = (unescape [] rest).map (byte :: ·) := by
  unfold writeEscaped
  split
  · rename_i letter target found
    have named : escapeLetters.all (fun entry =>
        escapeLetters.find? (·.1 = entry.1) = some entry) = true := by decide
    have lookup : escapeLetters.find? (·.1 = letter) = some (letter, target) := by
      simpa using List.all_eq_true.mp named _ (List.mem_of_find?_eq_some found)
    have isTarget : target = byte := by simpa using List.find?_some found
    simp [unescape, escapedByte, lookup, isTarget]
  · exact unescape_escapeByte byte rest

/-- A spelling of bytes that is undone byte by byte is undone. -/
theorem unescape_flatMap {escape : UInt8 → Bytes}
    (undone : ∀ byte rest,
      unescape [] (escape byte ++ rest) = (unescape [] rest).map (byte :: ·))
    (content : Bytes) : unescape [] (content.flatMap escape) = some content := by
  induction content with
  | nil => rfl
  | cons byte rest ih =>
      rw [List.flatMap_cons, undone, ih]
      rfl

/-- The number that decimal digits stand for. -/
def readDecimal (text : Bytes) : Option Nat :=
  if text.all (fun digit => 48 ≤ digit && digit ≤ 57) then
    some (text.foldl (fun value digit => 10 * value + hexValue digit) 0)
  else none

theorem decimal_digits (fuel value : Nat) :
    ∀ digit ∈ decimal fuel value, 48 ≤ digit ∧ digit ≤ 57 := by
  induction fuel generalizing value with
  | zero => simp [decimal]
  | succ fuel ih =>
      intro digit member
      rcases List.mem_append.mp member with high | low
      · split at high
        · cases high
        · exact ih _ digit high
      · have digits : ∀ index < 10, 48 ≤ hexDigit index ∧ hexDigit index ≤ 57 := by decide
        rw [List.mem_singleton.mp low]
        exact digits (value % 10) (Nat.mod_lt _ (by decide))

theorem foldl_decimal (fuel value : Nat) (enough : value < fuel) :
    (decimal fuel value).foldl (fun value digit => 10 * value + hexValue digit) 0 = value := by
  induction fuel generalizing value with
  | zero => omega
  | succ fuel ih =>
      rw [decimal, List.foldl_append, List.foldl_cons, List.foldl_nil, hexValue_hexDigit]
      split
      · rw [List.foldl_nil]
        omega
      · rw [ih (value / 10) (by omega)]
        omega

theorem readDecimal_decimal (value : Nat) :
    readDecimal (decimal (value + 1) value) = some value := by
  have digits : (decimal (value + 1) value).all (fun digit => 48 ≤ digit && digit ≤ 57) = true := by
    rw [List.all_eq_true]
    intro digit member
    simpa using decimal_digits _ _ digit member
  rw [readDecimal, if_pos digits, foldl_decimal _ _ (Nat.lt_succ_self value)]

/-- The spellings of `pj_json_write`, with natural numbers for the numbers. -/
def shortFormat : Json.Format Nat where
  escape := writeEscaped
  number value := decimal (value + 1) value
  escapeUnit := writeEscaped_unit
  numberAtom value := ⟨by simp [decimal], decimal_plain _ _⟩

/-- No digit is punctuation. -/
theorem isPunctuation_digit {digit : UInt8} (low : 48 ≤ digit) (high : digit ≤ 57) :
    Json.isPunctuation digit = false := by
  have others : (ascii "[]\x7b\x7d,:").all (fun other => !(48 ≤ other && other ≤ 57)) = true := by
    decide
  have notDigit : digit ∉ ascii "[]\x7b\x7d,:" := by
    intro punctuates
    have outside := List.all_eq_true.mp others digit punctuates
    simp [low, high] at outside
  simpa [Json.isPunctuation] using notDigit

/-- And how they are read back. -/
def shortReader : Json.Reader shortFormat where
  text := unescape []
  number := readDecimal
  text_escaped := unescape_flatMap unescape_writeEscaped
  number_spelled value _ := readDecimal_decimal value
  unpunctuated value _ byte member :=
    isPunctuation_digit (decimal_digits _ _ byte member).1 (decimal_digits _ _ byte member).2
  not_literal value _ member := by
    have letters : ∀ literal ∈ [ascii "null", ascii "true", ascii "false"],
        ∃ letter ∈ literal, ¬(48 ≤ letter ∧ letter ≤ 57) := by decide
    obtain ⟨letter, inside, notDigit⟩ := letters _ member
    exact notDigit (decimal_digits _ _ letter inside)

/-- A message with an escaped quote, a blank, and a backslash before the closing quote. -/
def pathMessage : Json Nat :=
  .obj [(ascii "path", .str (ascii "a \"b\\")), (ascii "id", .num 12)]

theorem pathMessage_compacted :
    let text := (Json.tokens shortFormat pathMessage).flatMap fun token => Json.lineFeed :: token
    let result := compactJson (Memory.write (fun _ => 0) 0 text) text.length
    let line := result.1.read 0 result.2
    line = ascii "\x7b\"path\":\"a \\\"b\\\\\",\"id\":12\x7d" ∧
      Json.parse shortReader line = some pathMessage ∧
      compactJson result.1 result.2 = result := by
  intro text result line
  obtain ⟨tokens, -, parsed, -, again⟩ :=
    compactJson_preserves shortReader pathMessage text _ (Json.spaced_lines _)
      (Memory.read_write_self _ _ text)
  exact ⟨tokens.trans (by decide), parsed, again⟩

end ShortEscapes

section IntegerReader

/-- The integer that a minus sign, or none, and decimal digits stand for. -/
def readInteger (text : Bytes) : Option ℚ :=
  if text.head? = some 45 then
    (readDecimal text.tail).map fun value : Nat => ((-(value : Int) : Int) : ℚ)
  else (readDecimal text).map fun value : Nat => ((value : Int) : ℚ)

/-- `prettyWriter` spells a number by its numerator, so it spells the integers. -/
def Integral (value : ℚ) : Prop := value.den = 1

instance (value : ℚ) : Decidable (Integral value) := inferInstanceAs (Decidable (value.den = 1))

theorem spellNumber_bytes (value : ℚ) :
    ∀ byte ∈ spellNumber value, byte = 45 ∨ 48 ≤ byte ∧ byte ≤ 57 := by
  intro byte member
  rcases List.mem_append.mp member with sign | digits
  · split at sign
    · exact .inl (List.mem_singleton.mp sign)
    · cases sign
  · exact .inr (decimal_digits _ _ byte digits)

theorem readInteger_spellNumber {value : ℚ} (integral : Integral value) :
    readInteger (spellNumber value) = some value := by
  have whole : ((value.num : Int) : ℚ) = value := Rat.den_eq_one_iff value |>.mp integral
  unfold spellNumber readInteger
  by_cases negative : value.num < 0
  · have magnitude : -(value.num.natAbs : Int) = value.num := by omega
    rw [if_pos negative, List.singleton_append, List.head?_cons, if_pos rfl, List.tail_cons,
      readDecimal_decimal, Option.map_some, magnitude, whole]
  · have magnitude : (value.num.natAbs : Int) = value.num := by omega
    have unsigned : (decimal (value.num.natAbs + 1) value.num.natAbs).head? ≠ some 45 := by
      intro first
      have digit := decimal_digits _ _ 45 (List.mem_of_mem_head? first)
      exact absurd digit.1 (by decide)
    rw [if_neg negative, List.nil_append, if_neg unsigned, readDecimal_decimal, Option.map_some,
      magnitude, whole]

/-- How the texts and the integers that `prettyWriter` spells are read back. -/
def prettyReader : Json.PartialReader prettyWriter.format Integral where
  text := unescape []
  number := readInteger
  text_escaped := unescape_flatMap unescape_escapeByte
  number_spelled _ integral := readInteger_spellNumber integral
  unpunctuated value _ byte member := by
    rcases spellNumber_bytes value byte member with rfl | digit
    · decide
    · exact isPunctuation_digit digit.1 digit.2
  not_literal value _ member := by
    have letters : ∀ literal ∈ [ascii "null", ascii "true", ascii "false"],
        ∃ letter ∈ literal, ¬(letter = 45 ∨ 48 ≤ letter ∧ letter ≤ 57) := by decide
    obtain ⟨letter, inside, other⟩ := letters _ member
    exact other (spellNumber_bytes value letter inside)

end IntegerReader

end Pjsocky
