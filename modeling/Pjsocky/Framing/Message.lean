import Mathlib.Data.Rat.Defs
import Pjsocky.Framing.Output

/-!
# Writing JSON messages

`compactJson` is `compact_json` of `framing.c`, in place on the scratch buffer.
`squeeze` is the text it leaves: what a scanner with the two mode flags keeps. On
any rendering of a tree with white space between its tokens that is the compact
text (`squeeze_spaced`), which has no line feed; so `writeJson` puts a prefix of
one line on the socket, and all of it exactly when it succeeds.
-/

namespace Pjsocky

open Support

/-- `pj_json_elem`, with the number the parser delivered or the daemon stored. -/
abbrev JsonElem := Json ℚ

/-- `pj_json_write`, as far as the daemon relies on it: the text it renders for a
tree has the tree's tokens in order, and it fails when this text does not fit the
buffer, of which it keeps `reserve` bytes for itself. -/
structure JsonWriter where
  format : Json.Format ℚ
  render : JsonElem → Bytes
  reserve : Nat
  spaced : ∀ elem, elem.Named → Json.Spaced (Json.tokens format elem) (render elem)

namespace JsonWriter

variable (writer : JsonWriter)

/-- Whether the rendering fits a buffer of `size` bytes. -/
def Fits (elem : JsonElem) (size : Nat) : Prop :=
  (writer.render elem).length + writer.reserve ≤ size

instance (elem : JsonElem) (size : Nat) : Decidable (writer.Fits elem size) :=
  inferInstanceAs (Decidable (_ ≤ _))

/-- `pj_json_write` into a buffer of `size` bytes. -/
def write (elem : JsonElem) (size : Nat) : Option Bytes :=
  if writer.Fits elem size then some (writer.render elem) else none

/-- The line of a message: its compact text and a line feed. -/
def line (elem : JsonElem) : Bytes := Json.compact writer.format elem ++ [lineFeed]

end JsonWriter

/-- The local variables of `compact_json`. -/
structure CompactState where
  buf : Memory UInt8
  out : Nat
  inString : Bool
  escaped : Bool

/-- One iteration of `compact_json`, at index `i`. -/
def compactByte (state : CompactState) (i : Nat) : CompactState :=
  let c := state.buf i
  let kept := { state with buf := state.buf.write state.out [c], out := state.out + 1 }
  if state.inString then
    if state.escaped then { kept with escaped := false }
    else if c = Json.backslash then { kept with escaped := true }
    else if c = Json.quote then { kept with inString := false }
    else kept
  else if c = Json.quote then { kept with inString := true }
  else if Json.isBlank c then state
  else kept

/-- `compact_json`: the buffer it leaves and the number of bytes kept. -/
def compactJson (buf : Memory UInt8) (len : Nat) : Memory UInt8 × Nat :=
  let final := (List.range' 0 len).foldl compactByte ⟨buf, 0, false, false⟩
  (final.buf, final.out)

/-- `pjsocky_framing_write_json`; the scratch buffer's old content is overwritten. -/
def writeJson (writer : JsonWriter) (timeoutMsec : Nat) (elem : JsonElem) (scratchSize : Nat)
    (env : WriteEnv) : SendResult :=
  match writer.write elem scratchSize with
  | none => ⟨.etoobig, [], []⟩
  | some text =>
      let (buf, compactLen) := compactJson (Memory.write (fun _ => 0) 0 text) text.length
      writeLine timeoutMsec (buf.read 0 compactLen) env

/-- The bytes the scanner keeps: all of a string, and outside strings all but
white space. -/
def keeps (inString : Bool) (c : UInt8) : Bool :=
  inString || c = Json.quote || !Json.isBlank c

/-- The two mode flags after a byte. -/
def nextMode : (inString escaped : Bool) → UInt8 → Bool × Bool
  | true, true, _ => (true, false)
  | true, false, c => (c ≠ Json.quote, c = Json.backslash)
  | false, escaped, c => (c = Json.quote, escaped)

/-- The text a scanner in the given mode keeps. -/
def squeeze : (inString escaped : Bool) → Bytes → Bytes
  | _, _, [] => []
  | inString, escaped, c :: rest =>
      let mode := nextMode inString escaped c
      (if keeps inString c then [c] else []) ++ squeeze mode.1 mode.2 rest

/-- One iteration stores the byte or not, and moves the flags. -/
theorem compactByte_eq (state : CompactState) (i : Nat) :
    compactByte state i =
      let c := state.buf i
      let mode := nextMode state.inString state.escaped c
      if keeps state.inString c then
        ⟨state.buf.write state.out [c], state.out + 1, mode.1, mode.2⟩
      else ⟨state.buf, state.out, mode.1, mode.2⟩ := by
  obtain ⟨buf, out, inString, escaped⟩ := state
  have distinct : Json.backslash ≠ Json.quote := by decide
  cases inString <;> cases escaped <;>
    by_cases isQuote : buf i = Json.quote <;>
    by_cases isBackslash : buf i = Json.backslash <;>
    by_cases blank : Json.isBlank (buf i) <;>
    simp_all [compactByte, keeps, nextMode]

/-- The loop appends what it keeps of the cells it reads: it never overwrites a
cell it has yet to read. -/
private theorem foldl_compactByte (count : Nat) {i : Nat} {state : CompactState}
    (behind : state.out ≤ i) :
    let final := (List.range' i count).foldl compactByte state
    final.buf.read 0 final.out =
      state.buf.read 0 state.out ++
        squeeze state.inString state.escaped (state.buf.read i count) := by
  induction count generalizing i state with
  | zero => simp [squeeze]
  | succ count ih =>
      have head : state.buf.read i (count + 1) = state.buf i :: state.buf.read (i + 1) count := by
        rw [Nat.add_comm, Memory.read_add]
        rfl
      rw [List.range'_succ, List.foldl_cons, compactByte_eq, head, squeeze]
      simp only
      split
      · have stored : (state.buf.write state.out [state.buf i]).read 0 (state.out + 1) =
            state.buf.read 0 state.out ++ [state.buf i] := by
          rw [Memory.read_add, Memory.read_write_disjoint _ (Or.inl (by omega)), Nat.zero_add]
          exact congrArg _ (Memory.read_write_self _ _ [state.buf i])
        have ahead : (state.buf.write state.out [state.buf i]).read (i + 1) count =
            state.buf.read (i + 1) count :=
          Memory.read_write_disjoint _ (Or.inr (by simp; omega))
        rw [ih (Nat.succ_le_succ behind)]
        simp only [stored, ahead, List.append_assoc]
      · rw [List.nil_append]
        apply ih
        exact Nat.le_succ_of_le behind

/-- `compact_json` leaves what the scanner keeps of the buffer. -/
theorem read_compactJson (buf : Memory UInt8) (len : Nat) :
    (compactJson buf len).1.read 0 (compactJson buf len).2 =
      squeeze false false (buf.read 0 len) := by
  simpa [compactJson] using @foldl_compactByte len 0 ⟨buf, 0, false, false⟩ (Nat.le_refl _)

theorem squeeze_blank {blanks : Bytes} (blank : ∀ byte ∈ blanks, Json.isBlank byte = true)
    (rest : Bytes) : squeeze false false (blanks ++ rest) = squeeze false false rest := by
  induction blanks with
  | nil => rfl
  | cons byte more ih =>
      have isBlank := blank byte List.mem_cons_self
      have notQuote : byte ≠ Json.quote := by
        rintro rfl
        exact absurd isBlank (by decide)
      have later := ih fun byte member => blank byte (List.mem_cons_of_mem _ member)
      simpa [squeeze, keeps, nextMode, isBlank, notQuote] using later

theorem squeeze_atom {text : Bytes} (isAtom : Json.Atom text) (rest : Bytes) :
    squeeze false false (text ++ rest) = text ++ squeeze false false rest := by
  have plain := isAtom.2
  clear isAtom
  induction text with
  | nil => rfl
  | cons byte more ih =>
      obtain ⟨notQuote, notBlank⟩ := plain byte List.mem_cons_self
      have later := ih fun byte member => plain byte (List.mem_cons_of_mem _ member)
      simpa [squeeze, keeps, nextMode, notBlank, notQuote] using later

private theorem squeeze_plain {text : Bytes}
    (plain : ∀ byte ∈ text, byte ≠ Json.quote ∧ byte ≠ Json.backslash) (rest : Bytes) :
    squeeze true false (text ++ rest) = text ++ squeeze true false rest := by
  induction text with
  | nil => rfl
  | cons byte more ih =>
      obtain ⟨notQuote, notBackslash⟩ := plain byte List.mem_cons_self
      have later := ih fun byte member => plain byte (List.mem_cons_of_mem _ member)
      simpa [squeeze, keeps, nextMode, notQuote, notBackslash] using later

/-- An escape unit is kept and leaves the scanner inside the string. -/
theorem squeeze_unit {unit : Bytes} (escapes : Json.EscapeUnit unit) (rest : Bytes) :
    squeeze true false (unit ++ rest) = unit ++ squeeze true false rest := by
  cases escapes with
  | plain byte visible notQuote notBackslash =>
      exact squeeze_plain (by simp [notQuote, notBackslash]) rest
  | pair byte digits visible plain =>
      have distinct : Json.backslash ≠ Json.quote := by decide
      have digitsKept := squeeze_plain (fun digit member => (plain digit member).2) rest
      simp [squeeze, keeps, nextMode, distinct, digitsKept]

theorem squeeze_token {token : Bytes} (isToken : Json.Token token) (rest : Bytes) :
    squeeze false false (token ++ rest) = token ++ squeeze false false rest := by
  cases isToken with
  | atom text isAtom => exact squeeze_atom isAtom rest
  | string units escapes =>
      have inside : ∀ rest, squeeze true false (units.flatten ++ rest) =
          units.flatten ++ squeeze true false rest := by
        induction units with
        | nil => exact fun _ => rfl
        | cons unit more ih =>
            intro rest
            have later := ih fun unit member => escapes unit (List.mem_cons_of_mem _ member)
            rw [List.flatten_cons, List.append_assoc,
              squeeze_unit (escapes unit List.mem_cons_self), later, List.append_assoc]
      have opened : squeeze false false (Json.quote :: (units.flatten ++ Json.quote :: rest)) =
          Json.quote :: squeeze true false (units.flatten ++ Json.quote :: rest) := by
        simp [squeeze, keeps, nextMode]
      have closed : squeeze true false (Json.quote :: rest) =
          Json.quote :: squeeze false false rest := by
        have distinct : Json.quote ≠ Json.backslash := by decide
        simp [squeeze, keeps, nextMode, distinct]
      rw [List.cons_append, List.append_assoc, List.singleton_append, opened, inside, closed]
      simp

/-- Compaction of any rendering gives the tokens alone. -/
theorem squeeze_spaced {tokens : List Bytes} {text : Bytes} (spaced : Json.Spaced tokens text)
    (areTokens : ∀ token ∈ tokens, Json.Token token) :
    squeeze false false text = tokens.flatten := by
  induction spaced with
  | nil blank => simpa [squeeze] using squeeze_blank blank []
  | @cons blanks token rest tokens blank more ih =>
      have later := ih fun token member => areTokens token (List.mem_cons_of_mem _ member)
      rw [List.append_assoc, squeeze_blank blank,
        squeeze_token (areTokens token List.mem_cons_self), later, List.flatten_cons]

section WriteJson

variable {writer : JsonWriter} {timeoutMsec scratchSize : Nat} {elem : JsonElem} {env : WriteEnv}

/-- A message that fits is written as its compact text. -/
theorem writeJson_fits (named : elem.Named) (fits : writer.Fits elem scratchSize) :
    writeJson writer timeoutMsec elem scratchSize env =
      writeLine timeoutMsec (Json.compact writer.format elem) env := by
  have text : ∀ text : Bytes,
      (compactJson (Memory.write (fun _ => 0) 0 text) text.length).1.read 0
        (compactJson (Memory.write (fun _ => 0) 0 text) text.length).2 =
      squeeze false false text := by
    intro text
    have compacted := read_compactJson (Memory.write (fun _ => 0) 0 text) text.length
    rwa [Memory.read_write_self] at compacted
  rw [writeJson, JsonWriter.write, if_pos fits]
  simp only [text]
  rw [squeeze_spaced (writer.spaced elem named) (Json.tokens_token writer.format elem)]
  rfl

theorem writeJson_tooBig (large : ¬ writer.Fits elem scratchSize) :
    writeJson writer timeoutMsec elem scratchSize env = ⟨.etoobig, [], []⟩ := by
  rw [writeJson, JsonWriter.write, if_neg large]

/-- How many bytes of a message's line go out. -/
def sentBytes (writer : JsonWriter) (timeoutMsec : Nat) (elem : JsonElem) (scratchSize : Nat)
    (env : WriteEnv) : Nat :=
  if writer.Fits elem scratchSize then
    env.taken timeoutMsec (Json.compact writer.format elem).length
  else 0

/-- A write moves the bytes of the line that go out, and succeeds exactly when that
is all of it. -/
theorem writeJson_sent (named : elem.Named) :
    let result := writeJson writer timeoutMsec elem scratchSize env
    let sent := sentBytes writer timeoutMsec elem scratchSize env
    result.accepted = (writer.line elem).take sent ∧
      (result.status = .success ↔ sent = (writer.line elem).length) := by
  by_cases fits : writer.Fits elem scratchSize
  · rw [writeJson_fits named fits, sentBytes, if_pos fits, JsonWriter.line, List.length_append]
    exact writeLine_taken _ env
  · rw [writeJson_tooBig fits, sentBytes, if_neg fits]
    simp [JsonWriter.line]

/-- A healthy socket takes all of a message that fits and nothing of one that does
not. -/
theorem sentBytes_healthy (healthy : env.Healthy timeoutMsec) :
    sentBytes writer timeoutMsec elem scratchSize env =
      if writer.Fits elem scratchSize then (writer.line elem).length else 0 := by
  simp [sentBytes, healthy.taken_eq, JsonWriter.line]

/-- A message whose compact text is longer than the buffer does not fit. -/
theorem not_fits_of_compact (named : elem.Named)
    (large : scratchSize < (Json.compact writer.format elem).length) :
    ¬ writer.Fits elem scratchSize := by
  intro fits
  have shorter := (writer.spaced elem named).length_le
  rw [JsonWriter.Fits] at fits
  rw [Json.compact] at large
  omega

end WriteJson

section PrettyWriter

/-- A hexadecimal digit. -/
def hexDigit (value : Nat) : UInt8 := (ascii "0123456789abcdef").getD (value % 16) 48

/-- Printable ASCII as it is, every other byte, quotes and backslashes as `\u00XX`. -/
def escapeByte (byte : UInt8) : Bytes :=
  if 32 ≤ byte ∧ byte < 127 ∧ byte ≠ Json.quote ∧ byte ≠ Json.backslash then [byte]
  else Json.backslash :: 117 ::
    [48, 48, hexDigit (byte.toNat / 16), hexDigit byte.toNat]

/-- The decimal digits of a number, with fuel for one digit more than it has. -/
def decimal : Nat → Nat → Bytes
  | 0, _ => []
  | fuel + 1, value =>
      (if value < 10 then [] else decimal fuel (value / 10)) ++ [hexDigit (value % 10)]

theorem hexDigit_plain (value : Nat) :
    32 ≤ hexDigit value ∧ hexDigit value ≠ Json.quote ∧ hexDigit value ≠ Json.backslash ∧
      Json.isBlank (hexDigit value) = false := by
  have digits : ∀ index < 16, let digit := (ascii "0123456789abcdef").getD index 48
      32 ≤ digit ∧ digit ≠ Json.quote ∧ digit ≠ Json.backslash ∧ Json.isBlank digit = false := by
    decide
  exact digits (value % 16) (Nat.mod_lt _ (by decide))

theorem escapeByte_unit (byte : UInt8) : Json.EscapeUnit (escapeByte byte) := by
  unfold escapeByte
  split
  · rename_i plain
    exact .plain byte plain.1 plain.2.2.1 plain.2.2.2
  · refine .pair 117 _ (by decide) fun digit member => ?_
    simp only [List.mem_cons, List.not_mem_nil, or_false] at member
    rcases member with rfl | rfl | rfl | rfl
    · decide
    · decide
    · exact ⟨(hexDigit_plain _).1, (hexDigit_plain _).2.1, (hexDigit_plain _).2.2.1⟩
    · exact ⟨(hexDigit_plain _).1, (hexDigit_plain _).2.1, (hexDigit_plain _).2.2.1⟩

theorem decimal_plain (fuel value : Nat) :
    ∀ byte ∈ decimal fuel value, byte ≠ Json.quote ∧ Json.isBlank byte = false := by
  induction fuel generalizing value with
  | zero => simp [decimal]
  | succ fuel ih =>
      intro byte member
      rcases List.mem_append.mp member with high | low
      · split at high
        · cases high
        · exact ih _ byte high
      · rw [List.mem_singleton.mp low]
        exact ⟨(hexDigit_plain _).2.1, (hexDigit_plain _).2.2.2⟩

/-- Integers in decimal; other numbers do not occur in the daemon's messages. -/
def spellNumber (value : ℚ) : Bytes :=
  (if value.num < 0 then [45] else []) ++ decimal (value.num.natAbs + 1) value.num.natAbs

theorem spellNumber_atom (value : ℚ) : Json.Atom (spellNumber value) := by
  refine ⟨by simp [spellNumber, decimal], fun byte member => ?_⟩
  rcases List.mem_append.mp member with sign | digits
  · split at sign
    · rw [List.mem_singleton.mp sign]
      decide
    · cases sign
  · exact decimal_plain _ _ byte digits

/-- A pretty-printer: each token on a line of its own, and one byte kept for a
terminator. -/
def prettyWriter : JsonWriter where
  format := ⟨escapeByte, spellNumber, escapeByte_unit, spellNumber_atom⟩
  render elem := (Json.tokens ⟨escapeByte, spellNumber, escapeByte_unit, spellNumber_atom⟩
    elem).flatMap fun token => Json.lineFeed :: token
  reserve := 1
  spaced _ _ := Json.spaced_lines _

end PrettyWriter

end Pjsocky
