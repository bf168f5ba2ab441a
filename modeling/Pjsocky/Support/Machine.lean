import Mathlib.Data.List.Basic
import Mathlib.Data.List.Induction

/-!
# Runs of an input-driven machine

A machine takes one input at a time; the input carries whatever the environment
decides at that step. `run` is the state after a list of inputs and `Along` says
that a condition on the state and the input holds at every step of a run.
`invariant_run` is the induction that every safety result uses, and
`invariant_iff_along` the exact form of it: when each step keeps the invariant
just under some condition, the whole run keeps it just when every step meets it.
`emits_run` puts what the steps append to a log together for the run.
-/

namespace Support.Machine

variable {State Input : Type} (step : State → Input → State)

/-- The state after a list of inputs. -/
def run (state : State) (inputs : List Input) : State := inputs.foldl step state

@[simp] theorem run_nil (state : State) : run step state [] = state := rfl

@[simp] theorem run_cons (state : State) (input : Input) (rest : List Input) :
    run step state (input :: rest) = run step (step state input) rest := rfl

theorem run_append (state : State) (first second : List Input) :
    run step state (first ++ second) = run step (run step state first) second :=
  List.foldl_append

/-- Inputs that change nothing one by one change nothing together. -/
theorem run_idle {step : State → Input → State} {state : State} {inputs : List Input}
    (idle : ∀ input ∈ inputs, step state input = state) : run step state inputs = state := by
  induction inputs with
  | nil => rfl
  | cons input rest ih =>
      rw [run_cons, idle input List.mem_cons_self]
      exact ih fun other member => idle other (List.mem_cons_of_mem _ member)

/-- The inputs of a run, each with the state it leads to. -/
def trace (state : State) : List Input → List (Input × State)
  | [] => []
  | input :: rest => (input, step state input) :: trace (step state input) rest

theorem trace_append (state : State) (first second : List Input) :
    trace step state (first ++ second) =
      trace step state first ++ trace step (run step state first) second := by
  induction first generalizing state with
  | nil => rfl
  | cons input rest ih => exact congrArg _ (ih (step state input))

/-- What a run has been through after a number of steps depends on these steps only. -/
theorem take_trace (count : Nat) (state : State) (inputs : List Input) :
    (trace step state inputs).take count = trace step state (inputs.take count) := by
  induction count generalizing state inputs with
  | zero => rfl
  | succ count ih =>
      cases inputs with
      | nil => rfl
      | cons input rest => exact congrArg _ (ih (step state input) rest)

/-- `condition` holds of the state and the input at every step of the run. -/
def Along (condition : State → Input → Prop) (state : State) : List Input → Prop
  | [] => True
  | input :: rest => condition state input ∧ Along condition (step state input) rest

instance decidableAlong (condition : State → Input → Prop)
    [holds : ∀ state input, Decidable (condition state input)] (state : State) :
    (inputs : List Input) → Decidable (Along step condition state inputs)
  | [] => isTrue trivial
  | input :: rest =>
      have := decidableAlong condition (step state input) rest
      inferInstanceAs (Decidable (condition state input ∧ _))

variable {step} {condition other : State → Input → Prop} {invariant : State → Prop}

theorem along_append {state : State} {first second : List Input} :
    Along step condition state (first ++ second) ↔
      Along step condition state first ∧ Along step condition (run step state first) second := by
  induction first generalizing state with
  | nil => simp [Along]
  | cons input rest ih => simp [Along, ih, and_assoc]

theorem along_and {state : State} {inputs : List Input} :
    Along step (fun state input => condition state input ∧ other state input) state inputs ↔
      Along step condition state inputs ∧ Along step other state inputs := by
  induction inputs generalizing state with
  | nil => simp [Along]
  | cons input rest ih => simp only [Along, ih, and_assoc, and_left_comm]

theorem along_congr (same : ∀ state input, condition state input ↔ other state input)
    {state : State} {inputs : List Input} :
    Along step condition state inputs ↔ Along step other state inputs := by
  induction inputs generalizing state with
  | nil => exact Iff.rfl
  | cons input rest ih => exact and_congr (same state input) ih

/-- A condition that always holds, holds along every run. -/
theorem along_of_forall (always : ∀ state input, condition state input) (state : State)
    (inputs : List Input) : Along step condition state inputs := by
  induction inputs generalizing state with
  | nil => trivial
  | cons input rest ih => exact ⟨always state input, ih (step state input)⟩

/-- What every step preserves, a run preserves. -/
theorem invariant_always
    (preserved : ∀ state input, invariant state → invariant (step state input))
    {state : State} (holds : invariant state) (inputs : List Input) :
    invariant (run step state inputs) := by
  induction inputs generalizing state with
  | nil => exact holds
  | cons input rest ih => exact ih (preserved state input holds)

/-- What every step preserves under a condition, a run meeting it preserves. -/
theorem invariant_run
    (preserved : ∀ state input, invariant state → condition state input →
      invariant (step state input))
    {state : State} {inputs : List Input} (holds : invariant state)
    (meets : Along step condition state inputs) : invariant (run step state inputs) := by
  induction inputs generalizing state with
  | nil => exact holds
  | cons input rest ih => exact ih (preserved state input holds meets.1) meets.2

/-- What the invariant and the condition give at one step, holds along the run. -/
theorem along_of_invariant
    (preserved : ∀ state input, invariant state → condition state input →
      invariant (step state input))
    (gives : ∀ state input, invariant state → condition state input → other state input)
    {state : State} {inputs : List Input} (holds : invariant state)
    (meets : Along step condition state inputs) : Along step other state inputs := by
  induction inputs generalizing state with
  | nil => trivial
  | cons input rest ih =>
      exact ⟨gives state input holds meets.1, ih (preserved state input holds meets.1) meets.2⟩

/-- The same for a relation between the inputs taken so far and the state they lead to. -/
theorem invariant_traced {traced : List Input → State → Prop} {start : State}
    (preserved : ∀ before input, traced before (run step start before) →
      condition (run step start before) input →
      traced (before ++ [input]) (step (run step start before) input))
    {inputs : List Input} (holds : traced [] start)
    (meets : Along step condition start inputs) : traced inputs (run step start inputs) := by
  induction inputs using List.reverseRecOn with
  | nil => exact holds
  | append_singleton before input ih =>
      obtain ⟨earlier, last, -⟩ := along_append.mp meets
      rw [run_append]
      exact preserved before input (ih earlier) last

/-- When each enabled step keeps the invariant exactly under a condition, the
invariant holds in every state of a run exactly when every step of it meets the
condition. -/
theorem invariant_iff_along
    (exactly : ∀ state input, invariant state → other state input →
      (invariant (step state input) ↔ condition state input))
    {state : State} {inputs : List Input} (holds : invariant state)
    (enabled : Along step other state inputs) :
    (∀ before after, inputs = before ++ after → invariant (run step state before)) ↔
      Along step condition state inputs := by
  induction inputs generalizing state with
  | nil =>
      refine ⟨fun _ => trivial, fun _ before after same => ?_⟩
      obtain ⟨rfl, rfl⟩ := List.append_eq_nil_iff.mp same.symm
      exact holds
  | cons input rest ih =>
      have first := exactly state input holds enabled.1
      constructor
      · intro always
        have next : invariant (step state input) := always [input] rest rfl
        refine ⟨first.mp next, (ih next enabled.2).mp fun before after same => ?_⟩
        exact always (input :: before) after (by rw [same, List.cons_append])
      · rintro ⟨here, later⟩ before after same
        cases before with
        | nil => exact holds
        | cons head before =>
            obtain ⟨rfl, restSame⟩ := List.cons.inj same
            exact (ih (first.mpr here) enabled.2).mpr later before after restSame

/-- What a run puts out, step by step. -/
inductive Emits {Output : Type} (step : State → Input → State)
    (emits : State → Input → List Output → Prop) :
    State → List Input → List Output → Prop
  | nil (state : State) : Emits step emits state [] []
  | cons {state : State} {input : Input} {rest : List Input} {first later : List Output}
      (here : emits state input first) (after : Emits step emits (step state input) rest later) :
      Emits step emits state (input :: rest) (first ++ later)

/-- When every step appends to a log what it puts out, a run appends what it puts out. -/
theorem emits_run {Output : Type} {emits : State → Input → List Output → Prop}
    (log : State → List Output)
    (each : ∀ state input, ∃ output, emits state input output ∧
      log (step state input) = log state ++ output) (state : State) (inputs : List Input) :
    ∃ outputs, Emits step emits state inputs outputs ∧
      log (run step state inputs) = log state ++ outputs := by
  induction inputs generalizing state with
  | nil => exact ⟨[], .nil state, (List.append_nil _).symm⟩
  | cons input rest ih =>
      obtain ⟨first, here, grown⟩ := each state input
      obtain ⟨later, after, ended⟩ := ih (step state input)
      refine ⟨first ++ later, .cons here after, ?_⟩
      rw [run_cons, ended, grown, List.append_assoc]

end Support.Machine
