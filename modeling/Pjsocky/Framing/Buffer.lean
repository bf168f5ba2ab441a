import Pjsocky.Base
import Pjsocky.Support.LineSplit
import Pjsocky.Support.Memory

/-!
# The receive buffer

`Framing` is `pjsocky_framing_t` and the operations are those of `framing.c` on
its buffer. Data moves only in `fill`; `extractLine` stores a terminator in place
of the line feed and advances `start`. The lemmas speak about `unconsumed`, the
bytes between `start` and `start + len`.
-/

namespace Pjsocky

open Support Support.LineSplit

/-- `PJSOCKY_MAX_LINE`. -/
def maxLine : Nat := 8192

/-- The byte that ends a line. -/
def lineFeed : UInt8 := Json.lineFeed

/-- `pjsocky_framing_t`. -/
structure Framing where
  sock : Nat
  writeTimeoutMsec : Nat
  /-- Offset of the first unconsumed byte. -/
  start : Nat
  /-- Bytes buffered from `start` on. -/
  len : Nat
  buf : Memory UInt8

/-- What `pj_sock_recv` answers. -/
inductive RecvOutcome where
  | received (bytes : Bytes)
  | failed (status : Failure)

/-- A returned line: where it stands in the buffer and how long it is. -/
structure LineRef where
  offset : Nat
  length : Nat
deriving DecidableEq, Repr

/-- What `pjsocky_framing_extract_line` returns. -/
inductive Extracted where
  | line (ref : LineRef)
  | pending
  | tooBig
deriving DecidableEq, Repr

namespace Framing

/-- `pjsocky_framing_init`; the buffer keeps whatever it held. -/
def init (framing : Framing) (sock writeTimeoutMsec : Nat) : Framing :=
  { framing with sock, writeTimeoutMsec, start := 0, len := 0 }

/-- The reclaiming step at the head of `pjsocky_framing_fill`. -/
def reclaim (framing : Framing) : Framing :=
  if 0 < framing.start then
    { framing with
      buf := if 0 < framing.len then framing.buf.move 0 framing.start framing.len else framing.buf
      start := 0 }
  else framing

/-- `pjsocky_framing_fill`. The kernel stores at most the `recv_len` bytes it was
asked for. -/
def fill (framing : Framing) (outcome : RecvOutcome) : Status × Framing :=
  let framing := framing.reclaim
  let recvLen := maxLine - framing.len
  -- Buffer already full with no newline: `extractLine` will report it.
  if recvLen = 0 then (.success, framing)
  else match outcome with
    | .failed status => (if isWouldBlock status then .epending else status.1, framing)
    | .received bytes =>
        let stored := bytes.take recvLen
        if stored.length = 0 then (.eeof, framing)
        else (.success,
          { framing with
            buf := framing.buf.write framing.len stored
            len := framing.len + stored.length })

/-- `pjsocky_framing_extract_line`. -/
def extractLine (framing : Framing) : Extracted × Framing :=
  match framing.buf.find framing.start framing.len lineFeed with
  | none =>
      if maxLine ≤ framing.len then (.tooBig, { framing with len := 0, start := 0 })
      else (.pending, framing)
  | some lineLen =>
      let consumed := lineLen + 1
      let len := framing.len - consumed
      (.line ⟨framing.start, lineLen⟩,
        { framing with
          buf := framing.buf.write (framing.start + lineLen) [0]
          start := if len = 0 then 0 else framing.start + consumed
          len })

/-- The buffered bytes no line has taken yet. -/
def unconsumed (framing : Framing) : Bytes := framing.buf.read framing.start framing.len

/-- The bytes of a returned line. -/
def line (framing : Framing) (ref : LineRef) : Bytes := framing.buf.read ref.offset ref.length

/-- The buffered bytes stay inside the array. -/
def InBounds (framing : Framing) : Prop := framing.start + framing.len ≤ maxLine

/-- The framing states of one connection: those that `init`, `fill` and
`extractLine` produce. -/
inductive Reachable : Framing → Prop where
  | init (stale : Framing) (sock writeTimeoutMsec : Nat) :
      Reachable (stale.init sock writeTimeoutMsec)
  | fill {framing : Framing} (outcome : RecvOutcome) (prior : Reachable framing) :
      Reachable (framing.fill outcome).2
  | extractLine {framing : Framing} (prior : Reachable framing) :
      Reachable framing.extractLine.2

variable {framing : Framing}

@[simp] theorem length_unconsumed (framing : Framing) :
    framing.unconsumed.length = framing.len := by
  simp [unconsumed]

@[simp] theorem init_unconsumed (framing : Framing) (sock writeTimeoutMsec : Nat) :
    (framing.init sock writeTimeoutMsec).unconsumed = [] := by
  simp [unconsumed, init]

@[simp] theorem reclaim_start (framing : Framing) : framing.reclaim.start = 0 := by
  unfold reclaim
  split
  · rfl
  · omega

@[simp] theorem reclaim_len (framing : Framing) : framing.reclaim.len = framing.len := by
  unfold reclaim
  split <;> rfl

@[simp] theorem reclaim_sock (framing : Framing) : framing.reclaim.sock = framing.sock := by
  unfold reclaim
  split <;> rfl

@[simp] theorem reclaim_writeTimeoutMsec (framing : Framing) :
    framing.reclaim.writeTimeoutMsec = framing.writeTimeoutMsec := by
  unfold reclaim
  split <;> rfl

/-- A fill reclaims, and may then append what it received within the buffer. -/
theorem fill_cases (framing : Framing) (outcome : RecvOutcome) :
    (framing.fill outcome).2 = framing.reclaim ∨
      ∃ stored : Bytes, framing.len + stored.length ≤ maxLine ∧
        (framing.fill outcome).2 =
          { framing.reclaim with
            buf := framing.reclaim.buf.write framing.len stored
            len := framing.len + stored.length } := by
  simp only [fill, reclaim_len]
  split
  · exact .inl rfl
  · rename_i room
    cases outcome with
    | failed status => exact .inl rfl
    | received bytes =>
        simp only
        split
        · exact .inl rfl
        · exact .inr ⟨bytes.take (maxLine - framing.len), by rw [List.length_take]; omega, rfl⟩

@[simp] theorem fill_sock (framing : Framing) (outcome : RecvOutcome) :
    (framing.fill outcome).2.sock = framing.sock := by
  rcases framing.fill_cases outcome with same | ⟨stored, -, appended⟩
  · rw [same, reclaim_sock]
  · rw [appended]
    exact reclaim_sock framing

@[simp] theorem fill_writeTimeoutMsec (framing : Framing) (outcome : RecvOutcome) :
    (framing.fill outcome).2.writeTimeoutMsec = framing.writeTimeoutMsec := by
  rcases framing.fill_cases outcome with same | ⟨stored, -, appended⟩
  · rw [same, reclaim_writeTimeoutMsec]
  · rw [appended]
    exact reclaim_writeTimeoutMsec framing

@[simp] theorem extractLine_sock (framing : Framing) :
    framing.extractLine.2.sock = framing.sock := by
  unfold extractLine
  split
  · split <;> rfl
  · rfl

@[simp] theorem extractLine_writeTimeoutMsec (framing : Framing) :
    framing.extractLine.2.writeTimeoutMsec = framing.writeTimeoutMsec := by
  unfold extractLine
  split
  · split <;> rfl
  · rfl

/-- Reclaiming keeps the unconsumed bytes. -/
@[simp] theorem reclaim_unconsumed (framing : Framing) :
    framing.reclaim.unconsumed = framing.unconsumed := by
  by_cases moved : 0 < framing.start
  · by_cases holds : 0 < framing.len
    · simp [reclaim, unconsumed, moved, holds]
    · have empty : framing.len = 0 := by omega
      simp [unconsumed, empty]
  · simp [reclaim, moved]

/-- A would-block read changes nothing that is buffered. -/
theorem fill_wouldBlock {status : Failure} (blocked : isWouldBlock status = true)
    (room : framing.len < maxLine) :
    framing.fill (.failed status) = (.epending, framing.reclaim) := by
  have notFull : maxLine - framing.len ≠ 0 := by omega
  simp [fill, notFull, blocked]

/-- A read of a chunk that fits appends it to the unconsumed bytes. -/
theorem fill_received {chunk : Bytes} (nonempty : chunk ≠ [])
    (room : framing.len + chunk.length ≤ maxLine) :
    ∃ filled, framing.fill (.received chunk) = (.success, filled) ∧
      filled.unconsumed = framing.unconsumed ++ chunk := by
  have size : 0 < chunk.length := List.length_pos_iff.mpr nonempty
  have notFull : maxLine - framing.len ≠ 0 := by omega
  have whole : chunk.take (maxLine - framing.len) = chunk := List.take_of_length_le (by omega)
  refine ⟨{ framing.reclaim with
      buf := framing.reclaim.buf.write framing.len chunk
      len := framing.len + chunk.length }, ?_, ?_⟩
  · simp [fill, notFull, whole, nonempty]
  have kept : (framing.reclaim.buf.write framing.len chunk).read 0 framing.len =
      framing.unconsumed := by
    rw [Memory.read_write_disjoint _ (Or.inl (by omega)), ← reclaim_unconsumed, unconsumed,
      reclaim_start, reclaim_len]
  simp [unconsumed, Memory.read_add, kept]

/-- Without a line feed nothing is extracted. -/
theorem extractLine_pending (absent : lineFeed ∉ framing.unconsumed)
    (room : framing.len < maxLine) : framing.extractLine = (.pending, framing) := by
  have notFound : framing.buf.find framing.start framing.len lineFeed = none :=
    Memory.find_eq_none.mpr absent
  have small : ¬ maxLine ≤ framing.len := by omega
  simp [extractLine, notFound, small]

theorem extractLine_tooBig (absent : lineFeed ∉ framing.unconsumed)
    (full : maxLine ≤ framing.len) :
    framing.extractLine = (.tooBig, { framing with len := 0, start := 0 }) := by
  have notFound : framing.buf.find framing.start framing.len lineFeed = none :=
    Memory.find_eq_none.mpr absent
  simp [extractLine, notFound, full]

/-- With a line feed the bytes before it are returned as a line and those after
it stay unconsumed. -/
theorem extractLine_line {text rest : Bytes} (absent : lineFeed ∉ text)
    (content : framing.unconsumed = text ++ lineFeed :: rest) :
    ∃ ref extracted, framing.extractLine = (.line ref, extracted) ∧
      extracted.line ref = text ∧ extracted.unconsumed = rest ∧
      extracted.len < framing.len := by
  have found : framing.buf.find framing.start framing.len lineFeed = some text.length :=
    Memory.find_eq_some content absent
  have size : framing.len = text.length + (1 + rest.length) := by
    rw [← length_unconsumed, content]
    simp
    omega
  -- The terminator is stored between the line and the bytes after it.
  have parts : framing.buf.read framing.start text.length = text ∧
      framing.buf.read (framing.start + text.length + 1) rest.length = rest := by
    have whole : framing.buf.read framing.start (text.length + (1 + rest.length)) =
        text ++ lineFeed :: rest := by
      rw [← size]
      exact content
    rw [Memory.read_add, Memory.read_add] at whole
    have split := List.append_inj whole (by simp)
    refine ⟨split.1, ?_⟩
    have tail := List.append_inj split.2
      (by simp : _ = ([lineFeed] : Bytes).length)
    exact tail.2
  refine ⟨⟨framing.start, text.length⟩, { framing with
      buf := framing.buf.write (framing.start + text.length) [0]
      start := if framing.len - (text.length + 1) = 0 then 0
        else framing.start + (text.length + 1)
      len := framing.len - (text.length + 1) }, ?_, ?_, ?_, ?_⟩
  · simp only [extractLine, found]
  · rw [line, Memory.read_write_disjoint _ (Or.inl (by simp))]
    exact parts.1
  · have left : framing.len - (text.length + 1) = rest.length := by omega
    by_cases empty : rest = []
    · simp [unconsumed, left, empty]
    · have notZero : rest.length ≠ 0 := by simpa using empty
      simp only [unconsumed, left, notZero, if_false, ← Nat.add_assoc]
      rw [Memory.read_write_disjoint _ (Or.inr (by simp))]
      exact parts.2
  · simp only
    omega

theorem fill_inBounds (outcome : RecvOutcome) (bounded : framing.InBounds) :
    (framing.fill outcome).2.InBounds := by
  have inside : framing.len ≤ maxLine := Nat.le_trans (Nat.le_add_left _ _) bounded
  rcases framing.fill_cases outcome with same | ⟨stored, room, appended⟩
  · simpa [same, InBounds] using inside
  · simpa [appended, InBounds] using room

theorem extractLine_inBounds (bounded : framing.InBounds) :
    framing.extractLine.2.InBounds := by
  unfold InBounds at bounded
  unfold extractLine
  split
  · split
    · simp [InBounds]
    · exact bounded
  · rename_i lineLen found
    have inside : lineLen < framing.len := Memory.find_lt found
    simp only [InBounds]
    split <;> omega

/-- `start + len` never passes the size of the buffer. -/
theorem Reachable.inBounds (reachable : Reachable framing) : framing.InBounds := by
  induction reachable with
  | init stale sock writeTimeoutMsec => simp [InBounds, Framing.init]
  | fill outcome _ ih => exact fill_inBounds outcome ih
  | extractLine _ ih => exact extractLine_inBounds ih

end Framing
end Pjsocky
