import Pjsocky.Support.CriticalSection

/-!
# Code among others

Code runs one access at a time, and between its accesses others change the state. A proof
outline gives the code an assertion before every access, which the others keep whatever they
do, and which implies what is to hold always. `outline_run` says that in every interleaving
the assertion of the place that the code has got to holds, and `Outline.bind` puts the
outlines of two pieces together.
-/

namespace Support.Code

variable {Shared Result Other Act : Type}

/-- An assertion of an outline: the others keep it, and it implies what holds always. -/
structure Steady (rely : Shared → Shared → Prop) (always assertion : Shared → Prop) : Prop where
  kept : ∀ before after, assertion before → rely before after → assertion after
  safe : ∀ shared, assertion shared → always shared

/-- A proof outline of a piece of code, with what holds before it and what it returns. -/
inductive Outline (rely : Shared → Shared → Prop) (always : Shared → Prop)
    (post : Result → Shared → Prop) : (Shared → Prop) → Code Shared Result → Prop
  | ret {pre : Shared → Prop} {result : Result} (steady : Steady rely always pre)
      (holds : ∀ shared, pre shared → post result shared) :
      Outline rely always post pre (.ret result)
  | access {pre : Shared → Prop} {change : Shared → Shared} {next : Shared → Code Shared Result}
      (steady : Steady rely always pre) (mid : Shared → Shared → Prop)
      (moves : ∀ shared, pre shared → mid shared (change shared))
      (rest : ∀ shared, pre shared → Outline rely always post (mid shared) (next shared)) :
      Outline rely always post pre (.access change next)

namespace Outline

variable {rely : Shared → Shared → Prop} {always : Shared → Prop}
variable {post : Result → Shared → Prop} {pre stronger : Shared → Prop}
variable {code : Code Shared Result}

theorem steady (outline : Outline rely always post pre code) : Steady rely always pre := by
  cases outline with
  | ret steady _ => exact steady
  | access steady _ _ _ => exact steady

/-- More may be known before the code. -/
theorem strengthen (outline : Outline rely always post pre code)
    (steady : Steady rely always stronger) (implies : ∀ shared, stronger shared → pre shared) :
    Outline rely always post stronger code := by
  cases outline with
  | ret _ holds => exact .ret steady fun shared known => holds shared (implies shared known)
  | access _ mid moves rest =>
      exact .access steady mid (fun shared known => moves shared (implies shared known))
        fun shared known => rest shared (implies shared known)

/-- An access after which the same is known whatever the state was. -/
theorem step {change : Shared → Shared} {next : Shared → Code Shared Result}
    (mid : Shared → Prop) (steady : Steady rely always pre)
    (moves : ∀ shared, pre shared → mid (change shared))
    (rest : ∀ shared, pre shared → Outline rely always post mid (next shared)) :
    Outline rely always post pre (.access change next) :=
  .access steady (fun _ => mid) moves rest

/-- One piece of code after another. -/
theorem bind {final : Other → Shared → Prop} {later : Result → Code Shared Other}
    (first : Outline rely always post pre code)
    (second : ∀ result, Outline rely always final (post result) (later result)) :
    Outline rely always final pre (code.bind later) := by
  induction first with
  | ret steady holds => exact (second _).strengthen steady holds
  | access steady mid moves _ ih => exact .access steady mid moves ih

end Outline

/-! ## Interleavings -/

variable (act : Shared → Act → Shared)

/-- A step of the code, or of the others. -/
def interleave (state : Shared × Code Shared Result) : Option Act → Shared × Code Shared Result
  | some other => (act state.1 other, state.2)
  | none =>
      match state.2 with
      | .ret _ => state
      | .access change next => (change state.1, next state.1)

/-- What the others may do to the state. -/
def rely (allowed : Act → Prop) (before after : Shared) : Prop :=
  ∃ other, allowed other ∧ after = act before other

variable {act} {allowed : Act → Prop} {always : Shared → Prop}
variable {post : Result → Shared → Prop} {pre : Shared → Prop}

/-- In every interleaving there is an outline for what is left of the code. -/
theorem outline_run {state : Shared × Code Shared Result} {inputs : List (Option Act)}
    (outline : Outline (rely act allowed) always post pre state.2) (holds : pre state.1)
    (permitted : ∀ other, some other ∈ inputs → allowed other) :
    ∃ here, Outline (rely act allowed) always post here
        (Machine.run (interleave act) state inputs).2 ∧
      here (Machine.run (interleave act) state inputs).1 := by
  induction inputs generalizing state pre with
  | nil => exact ⟨pre, outline, holds⟩
  | cons input rest ih =>
      have later : ∀ other, some other ∈ rest → allowed other :=
        fun other member => permitted other (List.mem_cons_of_mem _ member)
      rw [Machine.run_cons]
      cases input with
      | some other =>
          have moved : rely act allowed state.1 (act state.1 other) :=
            ⟨other, permitted other List.mem_cons_self, rfl⟩
          exact @ih pre (act state.1 other, state.2) outline
            (outline.steady.kept _ _ holds moved) later
      | none =>
          obtain ⟨shared, code⟩ := state
          cases outline with
          | ret steady ends => exact @ih pre (shared, _) (.ret steady ends) holds later
          | access _ mid moves following =>
              exact @ih _ (_, _) (following shared holds) (moves shared holds) later

/-- Whatever the others do, what holds always does, and once the code has returned, what it
says of its result. -/
theorem outline_sound {shared : Shared} {code : Code Shared Result} {inputs : List (Option Act)}
    (outline : Outline (rely act allowed) always post pre code) (holds : pre shared)
    (permitted : ∀ other, some other ∈ inputs → allowed other) :
    always (Machine.run (interleave act) (shared, code) inputs).1 ∧
      ∀ result, (Machine.run (interleave act) (shared, code) inputs).2 = .ret result →
        post result (Machine.run (interleave act) (shared, code) inputs).1 := by
  obtain ⟨here, rest, known⟩ :=
    @outline_run _ _ _ _ _ _ _ _ (shared, code) _ outline holds permitted
  refine ⟨rest.steady.safe _ known, fun result returned => ?_⟩
  rw [returned] at rest
  cases rest with
  | ret _ ends => exact ends _ known

end Support.Code
