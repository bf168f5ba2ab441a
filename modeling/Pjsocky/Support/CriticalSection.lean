import Mathlib.Logic.Function.Basic
import Pjsocky.Support.Machine

/-!
# Code under one lock

Threads share a state. Some of their code runs under one lock, one access of the state at a
time, and accesses of different threads come in any order. `settled` lets the holder of the
lock finish; `settled_step` says that this keeps giving what the sections give when each runs
as a whole, in the order in which they took the lock. A thread may also change the state
without the lock, as long as the section under way does not notice.
-/

namespace Support

/-- Code that accesses a shared state one step at a time. -/
inductive Code (Shared Result : Type) where
  | ret (result : Result)
  /-- The state changes, and what follows depends on what it was. -/
  | access (change : Shared → Shared) (next : Shared → Code Shared Result)

namespace Code

variable {Shared Result Other : Type}

/-- The code as a whole, with nothing in between. -/
def run : Code Shared Result → Shared → Result × Shared
  | .ret result, shared => (result, shared)
  | .access change next, shared => (next shared).run (change shared)

/-- One piece of code after another. -/
def bind (first : Code Shared Result) (later : Result → Code Shared Other) : Code Shared Other :=
  match first with
  | .ret result => later result
  | .access change next => .access change fun shared => (next shared).bind later

@[simp] theorem run_ret (result : Result) (shared : Shared) :
    (ret result : Code Shared Result).run shared = (result, shared) := rfl

@[simp] theorem run_access (change : Shared → Shared) (next : Shared → Code Shared Result)
    (shared : Shared) : (access change next).run shared = (next shared).run (change shared) := rfl

theorem run_bind (first : Code Shared Result) (later : Result → Code Shared Other)
    (shared : Shared) :
    (first.bind later).run shared = (later (first.run shared).1).run (first.run shared).2 := by
  induction first generalizing shared with
  | ret result => rfl
  | access change next ih => exact ih shared (change shared)

/-- The code does not notice a change of the state made before it instead of after it. -/
def Independent (code : Code Shared Result) (change : Shared → Shared) (shared : Shared) :
    Prop :=
  code.run (change shared) = ((code.run shared).1, change (code.run shared).2)

end Code

/-- The sections that threads run under the lock, and the changes they make without it. -/
structure Sections (Call Own Shared Result : Type) where
  code : Call → Code Shared Result
  change : Own → Shared → Shared

namespace Sections

variable {Thread Call Own Shared Result : Type} [DecidableEq Thread]
variable (sections : Sections Call Own Shared Result)

/-- Where a thread is. -/
inductive Place (Call Shared Result : Type) where
  | outside
  | waiting (call : Call)
  /-- It holds the lock, and has this left to do. -/
  | inside (rest : Code Shared Result)

/-- What a thread did, as one piece. -/
inductive Deed (Thread Call Own : Type) where
  | called (thread : Thread) (call : Call)
  | apart (own : Own)

structure State (Thread Call Own Shared Result : Type) where
  shared : Shared
  holder : Option Thread
  place : Thread → Place Call Shared Result
  /-- The calls in the order in which they took the lock, with the changes made apart. -/
  deeds : List (Deed Thread Call Own)
  /-- What the calls returned, in this order. -/
  returned : List (Thread × Result)

/-- One step of one thread. -/
inductive Input (Thread Call Own : Type) where
  | call (thread : Thread) (call : Call)
  | acquire (thread : Thread)
  | access (thread : Thread)
  | release (thread : Thread)
  | apart (own : Own)

def start (shared : Shared) : State Thread Call Own Shared Result :=
  ⟨shared, none, fun _ => .outside, [], []⟩

/-- A step; one that the thread cannot take changes nothing. -/
def step (state : State Thread Call Own Shared Result) :
    Input Thread Call Own → State Thread Call Own Shared Result
  | .call thread call =>
      match state.place thread with
      | .outside => { state with place := Function.update state.place thread (.waiting call) }
      | _ => state
  | .acquire thread =>
      match state.holder, state.place thread with
      | none, .waiting call =>
          { state with
            holder := some thread
            place := Function.update state.place thread (.inside (sections.code call))
            deeds := state.deeds ++ [.called thread call] }
      | _, _ => state
  | .access thread =>
      match state.place thread with
      | .inside (.access change next) =>
          { state with
            shared := change state.shared
            place := Function.update state.place thread (.inside (next state.shared)) }
      | _ => state
  | .release thread =>
      match state.place thread with
      | .inside (.ret result) =>
          { state with
            holder := none
            place := Function.update state.place thread .outside
            returned := state.returned ++ [(thread, result)] }
      | _ => state
  | .apart own =>
      { state with
        shared := sections.change own state.shared
        deeds := state.deeds ++ [.apart own] }

/-- The state after a list of steps. -/
abbrev run : State Thread Call Own Shared Result → List (Input Thread Call Own) →
    State Thread Call Own Shared Result := Machine.run (step sections)

/-- What a deed comes to when nothing happens in between: what has been returned, and the
shared state. -/
def whole (results : List (Thread × Result) × Shared) :
    Deed Thread Call Own → List (Thread × Result) × Shared
  | .called thread call =>
      let ran := (sections.code call).run results.2
      (results.1 ++ [(thread, ran.1)], ran.2)
  | .apart own => (results.1, sections.change own results.2)

/-- Deeds one after the other. -/
abbrev serial : List (Thread × Result) × Shared → List (Deed Thread Call Own) →
    List (Thread × Result) × Shared := Machine.run (whole sections)

/-- What is returned and left behind once the holder of the lock has finished. -/
def settled (state : State Thread Call Own Shared Result) : List (Thread × Result) × Shared :=
  match state.holder with
  | none => (state.returned, state.shared)
  | some thread =>
      match state.place thread with
      | .inside rest =>
          let ran := rest.run state.shared
          (state.returned ++ [(thread, ran.1)], ran.2)
      | _ => (state.returned, state.shared)

/-- Just the holder of the lock is inside. -/
def Exclusive (state : State Thread Call Own Shared Result) : Prop :=
  ∀ thread, (∃ rest, state.place thread = .inside rest) ↔ state.holder = some thread

/-- A change made without the lock goes unnoticed by the section under way. -/
def Unnoticed (state : State Thread Call Own Shared Result) : Input Thread Call Own → Prop
  | .apart own =>
      ∀ thread rest, state.place thread = .inside rest →
        rest.Independent (sections.change own) state.shared
  | _ => True

variable {sections} {state : State Thread Call Own Shared Result}

omit [DecidableEq Thread] in
theorem exclusive_start (shared : Shared) :
    Exclusive (start shared : State Thread Call Own Shared Result) := by
  intro thread
  simp [start]

omit [DecidableEq Thread] in
/-- Only the lock's holder is inside. -/
theorem Exclusive.holder (exclusive : Exclusive state) {thread : Thread}
    {rest : Code Shared Result} (inside : state.place thread = .inside rest) :
    state.holder = some thread :=
  (exclusive thread).mp ⟨rest, inside⟩

/-- A thread that stays outside or inside leaves the lock as it is. -/
private theorem Exclusive.move (exclusive : Exclusive state) {thread : Thread}
    {place : Place Call Shared Result}
    (same : (∃ rest, place = .inside rest) ↔ ∃ rest, state.place thread = .inside rest)
    (shared : Shared) (deeds : List (Deed Thread Call Own))
    (returned : List (Thread × Result)) :
    Exclusive (⟨shared, state.holder, Function.update state.place thread place, deeds, returned⟩ :
      State Thread Call Own Shared Result) := by
  intro other
  by_cases isThread : other = thread
  · subst isThread
    simp only [Function.update_self]
    exact same.trans (exclusive other)
  · simp only [Function.update_of_ne isThread]
    exact exclusive other

/-- No step lets two threads inside. -/
theorem Exclusive.step (exclusive : Exclusive state) (input : Input Thread Call Own) :
    Exclusive (step sections state input) := by
  cases input with
  | call thread call =>
      unfold Sections.step
      dsimp only
      split
      · rename_i outside
        exact exclusive.move (by simp [outside]) _ _ _
      · exact exclusive
  | acquire thread =>
      unfold Sections.step
      dsimp only
      split
      · rename_i free waiting
        intro other
        by_cases isThread : other = thread
        · simp [isThread]
        · have apart := exclusive other
          rw [free] at apart
          simp only [Function.update_of_ne isThread, apart, Option.some.injEq]
          exact iff_of_false (by simp) (Ne.symm isThread)
      · exact exclusive
  | access thread =>
      unfold Sections.step
      dsimp only
      split
      · rename_i inside
        exact exclusive.move (by simp [inside]) _ _ _
      · exact exclusive
  | release thread =>
      unfold Sections.step
      dsimp only
      split
      · rename_i result inside
        have holds := exclusive.holder inside
        intro other
        by_cases isThread : other = thread
        · simp [isThread]
        · have apart := exclusive other
          rw [holds] at apart
          simp only [Function.update_of_ne isThread, apart, Option.some.injEq]
          exact iff_of_false (Ne.symm isThread) (by simp)
      · exact exclusive
  | apart own => exact exclusive

omit [DecidableEq Thread] in
theorem settled_free (free : state.holder = none) :
    settled state = (state.returned, state.shared) := by
  rw [settled, free]

omit [DecidableEq Thread] in
theorem settled_held {thread : Thread} {rest : Code Shared Result}
    (holds : state.holder = some thread) (inside : state.place thread = .inside rest) :
    settled state =
      (state.returned ++ [(thread, (rest.run state.shared).1)], (rest.run state.shared).2) := by
  rw [settled, holds]
  dsimp only
  rw [inside]

/-- What another thread's place is does not matter. -/
private theorem settled_move {thread : Thread} {place : Place Call Shared Result}
    (exclusive : Exclusive state) (notInside : ∀ rest, state.place thread ≠ .inside rest) :
    settled { state with place := Function.update state.place thread place } = settled state := by
  have notHolder : state.holder ≠ some thread := by
    intro holds
    obtain ⟨rest, inside⟩ := (exclusive thread).mpr holds
    exact notInside rest inside
  cases holds : state.holder with
  | none => exact (settled_free rfl).trans (settled_free holds).symm
  | some holder =>
      obtain ⟨rest, inside⟩ := (exclusive holder).mpr holds
      have other : holder ≠ thread := fun same => notHolder (same ▸ holds)
      refine (settled_held rfl ?_).trans (settled_held holds inside).symm
      exact (Function.update_of_ne other _ _).trans inside

/-- A step that no section under way notices settles the deeds that it adds. -/
theorem settled_step (exclusive : Exclusive state) (input : Input Thread Call Own)
    (unnoticed : Unnoticed sections state input) {first : List (Thread × Result) × Shared}
    (so : settled state = serial sections first state.deeds) :
    settled (step sections state input) =
      serial sections first (step sections state input).deeds := by
  cases input with
  | call thread call =>
      unfold Sections.step
      dsimp only
      split
      · rename_i outside
        rw [settled_move exclusive (by simp [outside])]
        exact so
      · exact so
  | acquire thread =>
      unfold Sections.step
      dsimp only
      split
      · rename_i call free waiting
        have ran : whole sections (settled state) (.called thread call) =
            (state.returned ++ [(thread, ((sections.code call).run state.shared).1)],
              ((sections.code call).run state.shared).2) := by
          rw [settled_free free]
          rfl
        rw [serial, Machine.run_append, ← serial, ← so]
        exact (settled_held rfl (Function.update_self ..)).trans ran.symm
      · exact so
  | access thread =>
      unfold Sections.step
      dsimp only
      split
      · rename_i change next inside
        have holds := exclusive.holder inside
        rw [← so, settled_held holds inside]
        exact settled_held holds (Function.update_self ..)
      · exact so
  | release thread =>
      unfold Sections.step
      dsimp only
      split
      · rename_i result inside
        rw [← so, settled_held (exclusive.holder inside) inside]
        exact settled_free rfl
      · exact so
  | apart own =>
      have later : settled (step sections state (.apart own)) =
          whole sections (settled state) (.apart own) := by
        cases holds : state.holder with
        | none =>
            rw [settled_free holds, settled_free (by exact holds)]
            rfl
        | some thread =>
            obtain ⟨rest, inside⟩ := (exclusive thread).mpr holds
            rw [settled_held holds inside, settled_held (by exact holds) (by exact inside)]
            change (state.returned ++ [(thread, (rest.run (sections.change own state.shared)).1)],
              (rest.run (sections.change own state.shared)).2) = _
            rw [unnoticed thread rest inside]
            rfl
      rw [later, so]
      exact (Machine.run_append (whole sections) first state.deeds [.apart own]).symm

end Sections
end Support
