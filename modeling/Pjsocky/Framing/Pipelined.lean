import Mathlib.Order.CompletePartialOrder
import Mathlib.Order.Interval.Set.Disjoint
import Pjsocky.Framing.Buffer
import Pjsocky.Support.Machine

/-!
# Lines that are still in use

A returned line points into the receive buffer, and the next extraction stores its
terminator into the same buffer. `Pipelined` remembers what was returned since the last
fill, to say that these lines stay as they were: the bytes of a line, with the terminator
after them, lie before everything that is still unconsumed.
-/

namespace Pjsocky

open Support

/-- The addresses of a returned line and of the terminator after it. -/
def LineRef.range (ref : LineRef) : Set Nat := Set.Ico ref.offset (ref.offset + ref.length + 1)

/-- The addresses of the unconsumed bytes. -/
def Framing.range (framing : Framing) : Set Nat :=
  Set.Ico framing.start (framing.start + framing.len)

/-- One operation on a receive buffer. -/
inductive FramingOp where
  /-- `pjsocky_framing_init`. -/
  | init (sock writeTimeoutMsec : Nat)
  /-- `pjsocky_framing_fill`. -/
  | fill (outcome : RecvOutcome)
  /-- `pjsocky_framing_extract_line`. -/
  | extractLine

/-- A receive buffer with the lines returned since data was last moved in it. -/
structure Pipelined where
  framing : Framing
  /-- The buffer as the last `fill`, or `init`, has left it. -/
  filled : Framing
  /-- The lines returned since then, each with the bytes it had when it was extracted. -/
  returned : List (LineRef × Bytes)

namespace Pipelined

/-- No line has been returned yet. -/
def fresh (framing : Framing) : Pipelined := ⟨framing, framing, []⟩

def step (state : Pipelined) : FramingOp → Pipelined
  | .init sock writeTimeoutMsec => fresh (state.framing.init sock writeTimeoutMsec)
  | .fill outcome => fresh (state.framing.fill outcome).2
  | .extractLine =>
      match state.framing.extractLine with
      | (.line ref, framing) =>
          { state with framing, returned := state.returned ++ [(ref, framing.line ref)] }
      | (_, framing) => { state with framing }

/-- The state after a list of operations. -/
abbrev run : Pipelined → List FramingOp → Pipelined := Machine.run step

/-- Every line returned since the last fill is as it was extracted, and no extraction has
touched a byte that is still unconsumed. -/
structure Intact (state : Pipelined) : Prop where
  lines : ∀ returned ∈ state.returned, state.framing.line returned.1 = returned.2 ∧
    state.framing.buf (returned.1.offset + returned.1.length) = 0
  apart : state.returned.Pairwise fun first second => Disjoint first.1.range second.1.range
  consumed : ∀ returned ∈ state.returned, Disjoint returned.1.range state.framing.range
  unaltered : ∀ address ∈ state.framing.range,
    state.framing.buf address = state.filled.buf address

end Pipelined

/-- What `extractLine` does: it returns a line of the unconsumed bytes and terminates it, or
it leaves the buffer's content alone. -/
theorem Framing.extractLine_cases (framing : Framing) :
    (∃ lineLen next, framing.extractLine = (.line ⟨framing.start, lineLen⟩, next) ∧
      lineLen < framing.len ∧ next.buf = framing.buf.write (framing.start + lineLen) [0] ∧
      next.len = framing.len - (lineLen + 1) ∧
      (0 < next.len → next.start = framing.start + (lineLen + 1))) ∨
    framing.extractLine = (.pending, framing) ∨
    framing.extractLine = (.tooBig, { framing with len := 0, start := 0 }) := by
  unfold extractLine
  split
  · split
    · exact .inr (.inr rfl)
    · exact .inr (.inl rfl)
  · rename_i lineLen found
    refine .inl ⟨lineLen, _, rfl, Memory.find_lt found, rfl, rfl, fun left => ?_⟩
    exact if_neg (Nat.ne_of_gt left)

namespace Pipelined

variable {state : Pipelined}

/-- Where the returned lines are: one after the other, and before the unconsumed bytes as
long as there are any. -/
structure Layout (state : Pipelined) : Prop where
  lines : ∀ returned ∈ state.returned, state.framing.line returned.1 = returned.2 ∧
    state.framing.buf (returned.1.offset + returned.1.length) = 0
  ordered : state.returned.Pairwise fun first second =>
    first.1.offset + first.1.length + 1 ≤ second.1.offset
  before : 0 < state.framing.len → ∀ returned ∈ state.returned,
    returned.1.offset + returned.1.length + 1 ≤ state.framing.start
  unaltered : ∀ address ∈ state.framing.range,
    state.framing.buf address = state.filled.buf address

namespace Layout

theorem fresh (framing : Framing) : (Pipelined.fresh framing).Layout where
  lines := List.forall_mem_nil _
  ordered := .nil
  before _ := List.forall_mem_nil _
  unaltered _ _ := rfl

theorem extractLine (layout : state.Layout) : (state.step .extractLine).Layout := by
  obtain ⟨lineLen, next, extracted, inside, buf, len, start⟩ | same | discarded :=
    state.framing.extractLine_cases
  · have before := layout.before (by omega)
    let ref : LineRef := ⟨state.framing.start, lineLen⟩
    have stepped : state.step .extractLine =
        { state with framing := next, returned := state.returned ++ [(ref, next.line ref)] } := by
      rw [step, extracted]
    -- The terminator is stored after every line returned before.
    have old (returned) (member : returned ∈ state.returned) :
        next.line returned.1 = returned.2 ∧
          next.buf (returned.1.offset + returned.1.length) = 0 := by
      obtain ⟨text, terminated⟩ := layout.lines returned member
      have earlier := before returned member
      rw [Framing.line, buf, Memory.read_write_disjoint _ (Or.inl (by omega)),
        Memory.write_outside _ (Or.inl (by omega))]
      exact ⟨text, terminated⟩
    have terminated : next.buf (state.framing.start + lineLen) = 0 := by
      have stored := Memory.read_write_self state.framing.buf (state.framing.start + lineLen) [0]
      rw [buf]
      simpa [Memory.read] using stored
    rw [stepped]
    refine ⟨?_, ?_, ?_, ?_⟩
    · refine List.forall_mem_append.mpr ⟨old, ?_⟩
      exact List.forall_mem_singleton.mpr ⟨rfl, terminated⟩
    · refine List.pairwise_append.mpr ⟨layout.ordered, List.pairwise_singleton _ _, ?_⟩
      intro first member second isNew
      rw [List.mem_singleton.mp isNew]
      exact before first member
    · intro left
      have next_start : next.start = state.framing.start + (lineLen + 1) := start left
      refine List.forall_mem_append.mpr ⟨fun returned member => ?_, ?_⟩
      · have earlier := before returned member
        dsimp only
        omega
      · refine List.forall_mem_singleton.mpr ?_
        change state.framing.start + lineLen + 1 ≤ next.start
        omega
    · intro address member
      obtain ⟨lower, upper⟩ : next.start ≤ address ∧ address < next.start + next.len := member
      have next_start : next.start = state.framing.start + (lineLen + 1) := start (by omega)
      have outside : state.framing.start + lineLen + 1 ≤ address := by omega
      calc next.buf address
          = state.framing.buf address := by
            rw [buf, Memory.write_outside _ (Or.inr outside)]
        _ = state.filled.buf address := layout.unaltered address ⟨by omega, by omega⟩
  · rw [step, same]
    exact layout
  · rw [step, discarded]
    refine ⟨layout.lines, layout.ordered, fun left => absurd left (Nat.lt_irrefl 0), ?_⟩
    rintro address ⟨lower, upper⟩
    exact absurd upper (Nat.not_lt.mpr lower)

theorem step (layout : state.Layout) (op : FramingOp) : (state.step op).Layout := by
  cases op with
  | init sock writeTimeoutMsec => exact fresh _
  | fill outcome => exact fresh _
  | extractLine => exact layout.extractLine

/-- Ranges that follow each other share no address. -/
theorem disjoint_of_le {low middle start high : Nat} (earlier : middle ≤ start) :
    Disjoint (Set.Ico low middle) (Set.Ico start high) := by
  rw [Set.Ico_disjoint_Ico]
  omega

theorem intact (layout : state.Layout) : state.Intact where
  lines := layout.lines
  apart := by
    refine layout.ordered.imp fun {first second} earlier => ?_
    exact disjoint_of_le earlier
  consumed := by
    intro returned member
    by_cases left : 0 < state.framing.len
    · exact disjoint_of_le (layout.before left returned member)
    · have empty : state.framing.range = ∅ := Set.Ico_eq_empty (by omega)
      rw [empty]
      exact Set.disjoint_empty _
  unaltered := layout.unaltered

end Layout

/-- Whatever is done with a receive buffer, the lines returned since its last fill stay as
they were extracted. -/
theorem lines_stay_intact (stale : Framing) (sock writeTimeoutMsec : Nat)
    (ops : List FramingOp) : (run (fresh (stale.init sock writeTimeoutMsec)) ops).Intact := by
  have layout : (run (fresh (stale.init sock writeTimeoutMsec)) ops).Layout :=
    Machine.invariant_always (fun _ op layout => layout.step op) (.fresh _) ops
  exact layout.intact

end Pipelined
end Pjsocky
