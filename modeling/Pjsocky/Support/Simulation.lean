import Pjsocky.Support.Machine

/-!
# Forward simulation

A machine is simulated by another when each of its steps is matched by a number of steps of
the other one, which may be none: the two are related before, and the other machine can get
to where they are related again. `Reaches` is that it can get there; the matching steps of a
composite step are put together with `Reaches.next`.
-/

namespace Support.Machine

variable {State Input Upper Act : Type} {step : State → Input → State} {act : Upper → Act → Upper}

/-- Some inputs take the machine from this state to one where the goal holds. -/
def Reaches (act : Upper → Act → Upper) (upper : Upper) (goal : Upper → Prop) : Prop :=
  ∃ acts, goal (run act upper acts)

namespace Reaches

variable {upper : Upper} {goal further : Upper → Prop}

/-- No step is needed where the goal holds already. -/
theorem here (holds : goal upper) : Reaches act upper goal := ⟨[], holds⟩

/-- One step is enough. -/
theorem one (input : Act) (holds : goal (act upper input)) : Reaches act upper goal :=
  ⟨[input], holds⟩

/-- From wherever the goal holds, the machine gets further. -/
theorem next (reaches : Reaches act upper goal)
    (further_of : ∀ other, goal other → Reaches act other further) :
    Reaches act upper further := by
  obtain ⟨acts, holds⟩ := reaches
  obtain ⟨more, there⟩ := further_of _ holds
  refine ⟨acts ++ more, ?_⟩
  rw [run_append]
  exact there

end Reaches

/-- When every step is matched, so is every run. -/
theorem reaches_run {related : State → Upper → Prop}
    (matched : ∀ state upper input, related state upper →
      Reaches act upper (related (step state input)))
    {state : State} {upper : Upper} (together : related state upper) (inputs : List Input) :
    Reaches act upper (related (run step state inputs)) := by
  induction inputs generalizing state upper with
  | nil => exact .here together
  | cons input rest ih => exact (matched state upper input together).next fun _ => ih

end Support.Machine
