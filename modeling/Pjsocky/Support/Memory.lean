import Mathlib.Data.List.Basic

/-!
# Flat memories

A memory gives the content of every address. `read`, `write`, `move` and `find`
are the block operations of a C library on it: reading a range, storing bytes,
`memmove` and `memchr`. Each lemma says what one operation leaves at the range
another one reads, so that clients never reason about single addresses.
-/

namespace Support

/-- The content of every address. -/
abbrev Memory (α : Type) := Nat → α

namespace Memory

variable {α : Type}

/-- The `count` cells from `base` on. -/
def read (memory : Memory α) (base count : Nat) : List α :=
  (List.range count).map fun offset => memory (base + offset)

/-- Store `data` from `base` on. -/
def write (memory : Memory α) (base : Nat) (data : List α) : Memory α := fun address =>
  if base ≤ address then data[address - base]?.getD (memory address) else memory address

/-- Copy `count` cells from `source` to `target`; the ranges may overlap. -/
def move (memory : Memory α) (target source count : Nat) : Memory α :=
  memory.write target (memory.read source count)

/-- Offset from `base` of the first of the `count` cells that holds `value`. -/
def find [DecidableEq α] (memory : Memory α) (base count : Nat) (value : α) : Option Nat :=
  (memory.read base count).idxOf? value

@[simp] theorem length_read (memory : Memory α) (base count : Nat) :
    (memory.read base count).length = count := by
  simp [read]

@[simp] theorem read_zero (memory : Memory α) (base : Nat) : memory.read base 0 = [] := rfl

theorem getElem_read (memory : Memory α) {base count offset : Nat}
    (inside : offset < (memory.read base count).length) :
    (memory.read base count)[offset] = memory (base + offset) := by
  simp [read]

/-- Reading two adjacent ranges is reading their union. -/
theorem read_add (memory : Memory α) (base first second : Nat) :
    memory.read base (first + second) =
      memory.read base first ++ memory.read (base + first) second := by
  simp [read, List.range_add, Nat.add_assoc]

/-- A range is determined by its cells. -/
theorem read_congr {left right : Memory α} {base count : Nat}
    (same : ∀ offset < count, left (base + offset) = right (base + offset)) :
    left.read base count = right.read base count := by
  apply List.map_congr_left
  intro offset member
  exact same offset (List.mem_range.mp member)

theorem write_outside (memory : Memory α) {base address : Nat} {data : List α}
    (outside : address < base ∨ base + data.length ≤ address) :
    memory.write base data address = memory address := by
  unfold write
  split
  · have past : data.length ≤ address - base := by omega
    simp [List.getElem?_eq_none past]
  · rfl

/-- A stored block reads back. -/
@[simp] theorem read_write_self (memory : Memory α) (base : Nat) (data : List α) :
    (memory.write base data).read base data.length = data := by
  apply List.ext_getElem
  · simp
  · intro offset inside bounded
    rw [getElem_read]
    simp [write, bounded]

/-- Storing what a range holds changes nothing. -/
theorem write_read (memory : Memory α) (base count : Nat) :
    memory.write base (memory.read base count) = memory := by
  ext address
  by_cases inside : base ≤ address ∧ address < base + count
  · have bounded : address - base < (memory.read base count).length := by
      rw [length_read]
      omega
    have same : base + (address - base) = address := by omega
    rw [write, if_pos inside.1, List.getElem?_eq_getElem bounded, getElem_read, same]
    rfl
  · apply write_outside
    rw [length_read]
    omega

/-- A store leaves every disjoint range as it was. -/
theorem read_write_disjoint (memory : Memory α) {base start count : Nat} {data : List α}
    (disjoint : start + count ≤ base ∨ base + data.length ≤ start) :
    (memory.write base data).read start count = memory.read start count := by
  apply read_congr
  intro offset inside
  apply write_outside
  omega

/-- Moving a block down or up leaves its content at the target. -/
@[simp] theorem read_move (memory : Memory α) (target source count : Nat) :
    (memory.move target source count).read target count = memory.read source count := by
  have stored := read_write_self memory target (memory.read source count)
  rwa [length_read] at stored

variable [DecidableEq α]

theorem find_eq_none {memory : Memory α} {base count : Nat} {value : α} :
    memory.find base count value = none ↔ value ∉ memory.read base count :=
  List.idxOf?_eq_none_iff

/-- The found cell is the one right after the longest run without the value. -/
theorem find_eq_some {memory : Memory α} {base count : Nat} {value : α} {before after : List α}
    (content : memory.read base count = before ++ value :: after) (absent : value ∉ before) :
    memory.find base count value = some before.length := by
  rw [find, content, List.idxOf?, List.findIdx?_append]
  have none : before.findIdx? (· == value) = none := List.idxOf?_eq_none_iff.mpr absent
  simp [none, List.findIdx?_cons]

theorem find_lt {memory : Memory α} {base count offset : Nat} {value : α}
    (found : memory.find base count value = some offset) : offset < count := by
  obtain ⟨inside, -⟩ := List.idxOf?_eq_some_iff.mp found
  simpa using inside

end Memory
end Support
