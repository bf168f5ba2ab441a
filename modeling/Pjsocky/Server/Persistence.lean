import Pjsocky.Server.Model
import Pjsocky.Support.Machine

/-!
# When the server loop ends

`pjsocky_server_run` is to return only because `stop_requested` was set. Trouble with
the connection it serves always leads back to the top of the loop; an `accept` that
fails, and a `select` that fails for another reason than a signal, do not.
-/

namespace Pjsocky

open Support

/-- An iteration whose `select` does not fail, or was interrupted, and whose `accept` does
not fail. -/
def IterationEnv.Survivable (env : IterationEnv) : Prop :=
  match env.select with
  | .failed status => status.1 = .fromOs eintr
  | .timedOut => True
  | .ready _ listen => listen = true → env.accept = none

/-- The inputs that keep a running loop running, or stop it on request. -/
def Server.Survives : Loop → LoopInput → Prop
  | .running _, .iterate env => env.Survivable
  | _, _ => True

variable {srv : Server}

/-- An iteration goes on just when neither `select` nor `accept` fails in it, whatever the
connection does. -/
theorem Server.iteration_running_iff (env : IterationEnv) (world : World) :
    (∃ next, srv.iteration env world = .running next) ↔ env.Survivable := by
  unfold iteration IterationEnv.Survivable
  cases env.select with
  | failed status =>
      by_cases interrupted : status.1 = .fromOs eintr
      · simp [interrupted]
      · simp [interrupted]
  | timedOut => simp
  | ready conn listen =>
      cases listen with
      | false => simp
      | true =>
          unfold acceptConn
          cases env.accept with
          | none => simp
          | some status => simp

/-- After the loop has returned nothing is asked of the inputs. -/
theorem Server.along_returned (status : Status) (world : World) (inputs : List LoopInput) :
    Machine.Along srv.step Server.Survives (.returned status world) inputs := by
  induction inputs with
  | nil => exact trivial
  | cons input rest ih => exact ⟨trivial, ih⟩

theorem Server.returned_after_stop_iff (world : World) (inputs : List LoopInput) :
    (∀ before after, inputs = before ++ after →
      ∀ status final, Machine.run srv.step (.running world) before = .returned status final →
        ∃ beforeClose, .stop beforeClose ∈ before) ↔
      Machine.Along srv.step Server.Survives (.running world) inputs := by
  induction inputs generalizing world with
  | nil =>
      refine ⟨fun _ => trivial, ?_⟩
      rintro - before after split status final returned
      obtain ⟨rfl, rfl⟩ := List.append_eq_nil_iff.mp split.symm
      cases returned
  | cons input rest ih =>
      cases input with
      | stop beforeClose =>
          refine iff_of_true ?_ ⟨trivial, Server.along_returned _ _ rest⟩
          intro before after split status final returned
          cases before with
          | nil => cases returned
          | cons head before =>
              obtain ⟨rfl, -⟩ := List.cons.inj split
              exact ⟨beforeClose, List.mem_cons_self⟩
      | iterate env =>
          constructor
          · intro stopped
            have survivable : env.Survivable := by
              rw [← Server.iteration_running_iff env world]
              cases ended : srv.iteration env world with
              | running next => exact ⟨next, rfl⟩
              | returned status final =>
                  obtain ⟨beforeClose, member⟩ := stopped [.iterate env] rest rfl status final ended
                  cases List.mem_singleton.mp member
            obtain ⟨next, goesOn⟩ := (Server.iteration_running_iff env world).mpr survivable
            refine ⟨survivable, ?_⟩
            rw [Server.step, goesOn]
            apply (ih next).mp
            intro before after split status final returned
            obtain ⟨beforeClose, member⟩ := stopped (.iterate env :: before) after
              (by rw [split, List.cons_append]) status final
              (by rw [Machine.run_cons, Server.step, goesOn, returned])
            exact ⟨beforeClose, (List.mem_cons.mp member).resolve_left nofun⟩
          · rintro ⟨survivable, later⟩ before after split status final returned
            obtain ⟨next, goesOn⟩ := (Server.iteration_running_iff env world).mpr survivable
            rw [Server.step, goesOn] at later
            cases before with
            | nil => cases returned
            | cons head before =>
                obtain ⟨rfl, restSplit⟩ := List.cons.inj split
                rw [Machine.run_cons, Server.step, goesOn] at returned
                obtain ⟨beforeClose, member⟩ :=
                  (ih next).mpr later before after restSplit status final returned
                exact ⟨beforeClose, List.mem_cons_of_mem _ member⟩

/-- In every run of `pjsocky_server_run` it has returned only after `stop_requested` was
set, exactly when every iteration up to then is survivable. -/
theorem returns_on_stop_iff (srv : Server) (inputs : List LoopInput) :
    (∀ before after, inputs = before ++ after →
      ∀ status final, Machine.run srv.step Server.start before = .returned status final →
        ∃ beforeClose, .stop beforeClose ∈ before) ↔
      Machine.Along srv.step Server.Survives Server.start inputs :=
  Server.returned_after_stop_iff _ inputs

/-- `ECONNABORTED`. -/
def econnaborted : Nat := 103

/-- A client connects and is gone before `accept` is called. -/
def vanishedClient : LoopInput :=
  .iterate { IterationEnv.calm (.ready false true) (.received []) with
    accept := some ⟨.fromOs econnaborted, nofun⟩ }

/-- A client that vanishes before it is accepted ends the server. -/
theorem vanishedClient_ends_server :
    (∃ status final, Machine.run (sampleServer fun _ => none).step Server.start
      [vanishedClient] = .returned status final) ∧
    ¬∃ beforeClose, LoopInput.stop beforeClose ∈ [vanishedClient] := by
  refine ⟨⟨_, _, rfl⟩, ?_⟩
  rintro ⟨beforeClose, member⟩
  cases List.mem_singleton.mp member

end Pjsocky
