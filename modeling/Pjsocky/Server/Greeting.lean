import Pjsocky.Server.Wire

/-!
# The first line of a connection

`open_conn` publishes the connection and then pushes `hello`, each under the lock but
not both under one: an event pushed in between comes first. `Prompt` says that nothing
of such an event goes out and that `hello` goes out whole; then every stream that
`open_conn` ever served starts with the `hello` line.
-/

namespace Pjsocky

open Support

/-- The line of the `hello` event. -/
def Server.helloLine (srv : Server) : Bytes := srv.lib.writer.line (Event.hello.message srv.lib)

/-- If a connection is published, nothing of an event goes out before its `hello`, which
goes out whole. -/
def OpenEnv.Prompt (srv : Server) (env : OpenEnv) : Prop :=
  env.nonblocking = none → env.pool = true →
    (∀ push ∈ env.beforeHello, push.Silent srv) ∧
      env.hello.sent srv (Event.hello.message srv.lib) = srv.helloLine.length

/-- The steps in which a connection that is opened is greeted at once. -/
def Server.Prompt (srv : Server) : Loop → LoopInput → Prop
  | .running world, .iterate env =>
      ∀ next, srv.OpensIn env world next → env.opening.Prompt srv
  | _, _ => True

/-- Every published socket's stream starts with `hello`. -/
def Greeted (srv : Server) (trace : List Obs) : Prop :=
  ∀ sock, .published sock ∈ trace → srv.helloLine <+: wire sock trace

variable {srv : Server} {world : World}

/-- What has been greeted stays so. -/
theorem Greeted.append {trace added : List Obs} (greeted : Greeted srv trace)
    (none : ∀ sock, .published sock ∉ added) : Greeted srv (trace ++ added) := by
  intro sock member
  rcases List.mem_append.mp member with old | new
  · rw [wire_append]
    exact (greeted sock old).trans (List.prefix_append _ _)
  · exact absurd new (none sock)

theorem Greeted.quiet {after : World} (greeted : Greeted srv world.trace)
    (quiet : Quiet srv.lib world after) : Greeted srv after.trace := by
  obtain ⟨added, trace, isQuiet⟩ := quiet.grows
  rw [trace]
  exact greeted.append fun sock member => isQuiet _ member

theorem Greeted.close (greeted : Greeted srv world.trace) (timed : srv.Timed world)
    (before : List Push) : Greeted srv (srv.closeConn before world).trace := by
  rw [Server.closeConn_eq]
  exact (greeted.quiet (Server.callbacks_quiet before timed)).append (by simp)

theorem Greeted.refuse (greeted : Greeted srv world.trace) (env : RefuseEnv) :
    Greeted srv (srv.refuseConn env world.nextSock world.accept).trace := by
  obtain ⟨added, refused, isAdded⟩ := srv.refuseConn_eq env world.nextSock world.accept
  rw [refused]
  refine (greeted.append (by simp)).append fun sock => ?_
  rcases isAdded with rfl | ⟨result, -, rfl⟩ <;> simp

/-- Events of which nothing goes out leave every stream as it is. -/
theorem wire_callbacks_silent (timed : srv.Timed world) {pushes : List Push}
    (silent : ∀ push ∈ pushes, push.Silent srv) (sock : Nat) :
    wire sock (srv.callbacks pushes world).trace = wire sock world.trace := by
  refine @Server.callbacks_rule srv (fun next => wire sock next.trace = wire sock world.trace)
    pushes world timed rfl fun push member next timed same => ?_
  rcases Server.eventsPush_cases timed with
    ⟨-, nothing⟩ | ⟨published, result, -, pushed, written⟩
  · rwa [nothing]
  · rw [pushed, World.record, wire_append, same]
    rw [silent push member] at written
    by_cases isSock : published = sock
    · rw [isSock, wire_wrote, written.accepted, List.take_zero, List.append_nil]
    · rw [wire_other isSock, List.append_nil]

/-- A connection that is opened promptly starts with `hello`. -/
theorem wire_openConn (single : SingleConnection srv world) {env : OpenEnv}
    (opens : env.nonblocking = none ∧ env.pool = true) (prompt : env.Prompt srv) :
    wire world.nextSock (srv.eventsPush .hello .hello env.hello
      (srv.callbacks env.beforeHello (srv.publish world.nextSock world.accept))).2.trace =
        srv.helloLine := by
  obtain ⟨silent, whole⟩ := prompt opens.1 opens.2
  have timed := srv.publish_timed world.nextSock world.accept
  have called := Server.callbacks_quiet env.beforeHello timed
  have connected := called.connected_eq.trans (srv.publish_connected _ _)
  have before : wire world.nextSock
      (srv.callbacks env.beforeHello (srv.publish world.nextSock world.accept)).trace = [] := by
    rw [wire_callbacks_silent timed silent, Server.publish_trace, wire_append,
      wire_nextSock single]
    rfl
  rcases Server.eventsPush_cases (timed.quiet called) with
    ⟨unpublished, -⟩ | ⟨sock, result, published, pushed, written⟩
  · rw [connected] at unpublished
    cases unpublished
  · rw [connected, Option.some.injEq] at published
    rw [pushed, World.record, wire_append, before, ← published, wire_wrote, written.accepted,
      whole]
    exact List.take_length

theorem Greeted.openConn (greeted : Greeted srv world.trace) (single : SingleConnection srv world)
    (inactive : world.conn.active = false) {env : OpenEnv} (prompt : env.Prompt srv) :
    Greeted srv (srv.openConn env world.nextSock world.accept).trace := by
  have unpublished : world.accept.events = .null := single.events_null inactive
  rw [Server.openConn_eq unpublished]
  split
  · rename_i opens
    have stream := wire_openConn single opens prompt
    obtain ⟨added, trace, isQuiet⟩ :=
      (@Server.greet_quiet srv env world.nextSock world.accept).grows
    intro sock member
    by_cases isNew : sock = world.nextSock
    · subst isNew
      exact stream ▸ List.prefix_refl _
    · rw [World.activate, trace, Server.publish_trace, World.accept, World.record,
        List.append_assoc, List.append_assoc] at member
      rw [World.activate, trace, Server.publish_trace, World.accept, World.record,
        List.append_assoc, List.append_assoc]
      rcases List.mem_append.mp member with old | new
      · rw [wire_append]
        exact (greeted sock old).trans (List.prefix_append _ _)
      · have notAdded : .published sock ∉ added := fun member => isQuiet _ member
        simp [isNew, notAdded] at new
  · exact (greeted.append (by simp)).append (by simp)

theorem Greeted.serveInput (greeted : Greeted srv world.trace)
    (single : SingleConnection srv world) (active : world.conn.active = true)
    (env : IterationEnv) : Greeted srv (srv.serveInput env world).trace := by
  rcases Server.serveInput_quiet env (single.connected_active active) single.timed with
    quiet | ⟨state, quiet, closed⟩
  · exact greeted.quiet quiet
  · rw [closed]
    exact (greeted.quiet quiet).close (single.timed.quiet quiet) _

/-- A step that greets promptly keeps every stream greeted. -/
theorem Greeted.step {loop : Loop} {input : LoopInput} (single : SingleConnection srv loop.world)
    (greeted : Greeted srv loop.world.trace) (prompt : srv.Prompt loop input) :
    Greeted srv (srv.step loop input).world.trace := by
  refine @Server.step_rule srv (fun world => Greeted srv world.trace) loop input greeted
    (fun world before isLoop isInput active => ?_) (fun world env isLoop isInput => ?_)
  · subst isLoop
    exact greeted.close single.timed before
  · subst isLoop isInput
    have idle : SingleConnection srv (srv.callbacks env.idle world) :=
      single.quiet (Server.callbacks_quiet env.idle single.timed)
    have greetedIdle := greeted.quiet (Server.callbacks_quiet env.idle single.timed)
    have both : SingleConnection srv (srv.iteration env world).world ∧
        Greeted srv (srv.iteration env world).world.trace := by
      refine @Server.iteration_rule srv
        (fun next => SingleConnection srv next ∧ Greeted srv next.trace) env world
        ⟨idle, greetedIdle⟩ (fun active => ?_) (fun _ next holds active => ?_)
        (fun next holds active => ?_) (fun next holds opens => ?_)
      · have activeIdle : (srv.callbacks env.idle world).conn.active = true := by
          rwa [Server.callbacks_conn]
        exact ⟨idle.serveInput activeIdle env, greetedIdle.serveInput idle activeIdle env⟩
      · exact ⟨holds.1.close active _, holds.2.close holds.1.timed _⟩
      · exact ⟨holds.1.refuse _, holds.2.refuse _⟩
      · exact ⟨holds.1.openConn opens.inactive _,
          holds.2.openConn holds.1 opens.inactive (prompt next opens)⟩
    exact both.2

/-- In every run in which each connection is greeted promptly, `hello` comes first on
every connection that `open_conn` served: at every moment its stream is a part of the
`hello` line or starts with it, and by the next top of the loop it starts with it. -/
theorem hello_first (srv : Server) (inputs : List LoopInput)
    (prompt : Machine.Along srv.step srv.Prompt Server.start inputs) (sock : Nat) :
    let trace := (Machine.run srv.step Server.start inputs).world.trace
    .published sock ∈ trace →
      srv.helloLine <+: wire sock trace ∧
        ∀ early late, trace = early ++ late →
          wire sock early <+: srv.helloLine ∨ srv.helloLine <+: wire sock early := by
  have both : SingleConnection srv (Machine.run srv.step Server.start inputs).world ∧
      Greeted srv (Machine.run srv.step Server.start inputs).world.trace := by
    refine @Machine.invariant_run _ _ srv.step srv.Prompt
      (fun loop => SingleConnection srv loop.world ∧ Greeted srv loop.world.trace)
      (fun loop input holds prompt => ⟨holds.1.step input, holds.2.step holds.1 prompt⟩) _ _
      ⟨.start, by intro sock member; cases member⟩ prompt
  intro trace published
  have greeted := both.2 sock published
  refine ⟨greeted, fun early late split => ?_⟩
  have isPrefix : wire sock early <+: wire sock trace := by
    rw [split, wire_append]
    exact List.prefix_append _ _
  exact List.prefix_or_prefix_of_prefix isPrefix greeted

/-- Whether the socket is handed to the event module. -/
def Obs.publishes (sock : Nat) : Obs → Bool
  | .published other => other = sock
  | _ => false

theorem Obs.publishes_iff {sock : Nat} {obs : Obs} :
    obs.publishes sock = true ↔ obs = .published sock := by
  cases obs with
  | published other => simp [Obs.publishes]
  | _ => exact iff_of_false Bool.false_ne_true nofun

theorem hello_first_answered :
    let srv := sampleServer (parsePing (ascii "1"))
    let trace := (Machine.run srv.step Server.start answeredClient).world.trace
    Machine.Along srv.step srv.Prompt Server.start answeredClient ∧
      srv.helloLine <+: wire 0 trace ∧
        ∀ early late, trace = early ++ late →
          wire 0 early <+: srv.helloLine ∨ srv.helloLine <+: wire 0 early := by
  intro srv trace
  have greets : (OpenEnv.mk none true [] [] .open).Prompt srv :=
    fun _ _ => ⟨List.forall_mem_nil _, by decide +kernel⟩
  have prompts (env : IterationEnv) (opening : env.opening = ⟨none, true, [], [], .open⟩)
      (loop : Loop) : srv.Prompt loop (.iterate env) := by
    cases loop with
    | returned => trivial
    | running world => exact fun _ _ => opening ▸ greets
  have prompt : Machine.Along srv.step srv.Prompt Server.start answeredClient :=
    ⟨prompts _ rfl _, prompts _ rfl _, prompts _ rfl _, trivial⟩
  have found : trace.any (Obs.publishes 0) = true := by decide +kernel
  have published : .published 0 ∈ trace := by
    obtain ⟨obs, member, publishes⟩ := List.any_eq_true.mp found
    exact Obs.publishes_iff.mp publishes ▸ member
  exact ⟨prompt, hello_first srv answeredClient prompt 0 published⟩

/-- A client connects, and a callback pushes an event between the publication of the
connection and its `hello`. -/
def racingEvent : List LoopInput :=
  [.iterate { IterationEnv.calm (.ready false true) (.received []) with
    opening := ⟨none, true, [],
      [⟨.typing (ascii "a") (ascii "b") true, .open⟩], .open⟩ }]

private theorem not_prefix_of_getElem? {first second : Bytes} {index : Nat} {left right : UInt8}
    (isLeft : first[index]? = some left) (isRight : second[index]? = some right)
    (different : left ≠ right) : ¬ first <+: second := by
  rintro ⟨rest, rfl⟩
  obtain ⟨within, -⟩ := List.getElem?_eq_some_iff.mp isLeft
  rw [List.getElem?_append_left within, isLeft, Option.some.injEq] at isRight
  exact different isRight

theorem racingEvent_before_hello :
    let trace := (Machine.run (sampleServer fun _ => none).step Server.start
      racingEvent).world.trace
    .published 0 ∈ trace ∧
      ¬ (wire 0 trace <+: (sampleServer fun _ => none).helloLine ∨
        (sampleServer fun _ => none).helloLine <+: wire 0 trace) := by
  let lib := sampleLib fun _ => none
  let racing : Event := .typing (ascii "a") (ascii "b") true
  have isTrace : (Machine.run (sampleServer fun _ => none).step Server.start
      racingEvent).world.trace = [.accepted 0, .published 0] ++
        ([.wrote 0 .callback (racing.message lib) (writeEvent lib racing .open)] ++
          [.wrote 0 .hello (Event.hello.message lib) (writeEvent lib .hello .open)]) := rfl
  have sent : (writeEvent lib racing .open).accepted = lib.writer.line (racing.message lib) := by
    rw [(written_writeEvent lib racing .open).accepted, List.take_of_length_le]
    decide +kernel
  have stream : wire 0 (Machine.run (sampleServer fun _ => none).step Server.start
      racingEvent).world.trace = lib.writer.line (racing.message lib) ++
        (writeEvent lib .hello .open).accepted := by
    have opening : wire 0 [.accepted 0, .published 0] = [] := rfl
    rw [isTrace, wire_append, wire_append, wire_wrote, wire_wrote, sent, opening,
      List.nil_append]
  -- The two events differ in the first letter of their names.
  have first : (lib.writer.line (racing.message lib))[10]? = some 116 := by decide +kernel
  have second : (sampleServer fun _ => none).helloLine[10]? = some 104 := by decide +kernel
  have within := (List.getElem?_eq_some_iff.mp first).1
  rw [← List.getElem?_append_left within, ← stream] at first
  refine ⟨?_, ?_⟩
  · rw [isTrace]
    simp
  · rintro (shorter | longer)
    · exact not_prefix_of_getElem? first second (by decide) shorter
    · exact not_prefix_of_getElem? second first (by decide) longer

end Pjsocky
