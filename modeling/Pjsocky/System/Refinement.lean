import Pjsocky.System.Model

/-!
# The daemon's server is the server model

Every step of the system is, for its server, a step of the server model, with the handlers and
the events that the SIP side has at that point. What is proved of every run of the server
therefore holds of the server of the whole daemon.
-/

namespace Pjsocky

open Support

/-- The server's part of the system. -/
def SystemLoop.loop : SystemLoop → Loop
  | .running system => .running system.world
  | .returned status system => .returned status system.world

namespace System

variable (setup : Setup)

/-- What the server meets in one `handle_line`. -/
def lineEnv (env : CommandEnv) (line : Bytes) (course : Course) : LineEnv :=
  let first := course.deliver setup.build env.ahead
  let commanded := first.2.command setup.build line env.outcomes
  ⟨first.2.sip.daemon.handlers setup.build env.outcomes,
    first.1 ++ (commanded.deliver setup.build env.before).1, env.reply⟩

/-- The drain loop of the system is that of the server, with the environments of the lines from
here on and the events before an oversized line. -/
theorem drain_refines (env : TurnEnv) (fuel index : Nat) (framing : Framing) (system : System) :
    ∃ (lines : Nat → LineEnv) (before : List Push), ∀ serverEnv : IterationEnv,
      (∀ later, index ≤ later → serverEnv.line later = lines later) →
      serverEnv.beforeOversized = before → serverEnv.oversized = env.oversized →
      let whole := drain (lineHandler setup env) fuel index framing system
      let part := drain (setup.server.lineHandler serverEnv) fuel index framing system.world
      part.status = whole.status ∧ part.framing = whole.framing ∧
        part.state = whole.state.world := by
  have any : Nat → LineEnv := fun _ => lineEnv setup (env.line 0) [] system.course
  induction fuel generalizing index framing system with
  | zero => exact ⟨any, [], fun _ _ _ _ => ⟨rfl, rfl, rfl⟩⟩
  | succ fuel ih =>
      rcases extraction : framing.extractLine with ⟨outcome, next⟩
      cases outcome with
      | pending =>
          refine ⟨any, [], fun serverEnv _ _ _ => ?_⟩
          simp only [drain, extraction, and_self]
      | tooBig =>
          refine ⟨any, (system.course.deliver setup.build env.beforeOversized).1,
            fun serverEnv _ sameBefore sameOversized => ?_⟩
          simp only [drain, extraction, true_and]
          simp only [Server.lineHandler, lineHandler, sameBefore, sameOversized]
      | line ref =>
          let result := handleLine setup (env.line index) (next.line ref) (system.setFraming next)
          let here := lineEnv setup (env.line index) (next.line ref) system.course
          obtain ⟨lines, before, later⟩ := ih (index + 1) next result.2
          refine ⟨Function.update lines index here, before,
            fun serverEnv sameLines sameBefore sameOversized => ?_⟩
          have handled : (setup.server.lineHandler serverEnv).handleLine index next (next.line ref)
              system.world = (result.1, result.2.world) := by
            have atHere : serverEnv.line index = here := by
              rw [sameLines index le_rfl, Function.update_self]
            simp only [Server.lineHandler, atHere]
            rfl
          have rest := later serverEnv
            (fun position after => by
              rw [sameLines position (by omega), Function.update_of_ne (by omega)])
            sameBefore sameOversized
          have whole : (lineHandler setup env).handleLine index next (next.line ref) system =
            result := rfl
          simp only [drain, extraction, handled, whole]
          by_cases kept : result.1 = .success
          · simp only [kept, if_true]
            exact rest
          · simp only [kept, if_false, and_self]

theorem handleConnInput_refines (env : TurnEnv) (framing : Framing) (system : System) :
    ∃ (lines : Nat → LineEnv) (before : List Push), ∀ serverEnv : IterationEnv,
      serverEnv.line = lines → serverEnv.beforeOversized = before →
      serverEnv.oversized = env.oversized →
      let whole := handleConnInput (lineHandler setup env) env.recv framing system
      let part := handleConnInput (setup.server.lineHandler serverEnv) env.recv framing system.world
      part.status = whole.status ∧ part.framing = whole.framing ∧
        part.state = whole.state.world := by
  rcases filling : framing.fill env.recv with ⟨status, next⟩
  obtain ⟨lines, before, drained⟩ :=
    drain_refines setup env (next.len + 1) 0 next system
  refine ⟨lines, before, fun serverEnv sameLines sameBefore sameOversized => ?_⟩
  have rest := drained serverEnv (fun _ _ => by rw [sameLines]) sameBefore sameOversized
  simp only [handleConnInput, filling]
  cases status with
  | success => exact rest
  | _ => exact ⟨rfl, rfl, rfl⟩

/-- The active connection's part. When the connection is still active afterwards it has not
been closed, so the events before a close are still to come. -/
theorem serveConn_refines (env : TurnEnv) (readable : Bool) (system : System) :
    ∃ (lines : Nat → LineEnv) (before close : List Push), ∀ serverEnv : IterationEnv,
      serverEnv.line = lines → serverEnv.beforeOversized = before →
      serverEnv.oversized = env.oversized → serverEnv.recv = env.recv →
      serverEnv.beforeClose = close →
      setup.server.serveConn serverEnv readable system.world =
        (serveConn setup env readable system).world ∧
      ((serveConn setup env readable system).world.conn.active = true →
        close = ((serveConn setup env readable system).course.deliver setup.build
          env.beforeClose).1) := by
  obtain ⟨lines, before, handled⟩ :=
    handleConnInput_refines setup env system.world.conn.framing system
  by_cases serves : (system.world.conn.active && readable) = true
  · let whole := handleConnInput (lineHandler setup env) env.recv system.world.conn.framing system
    refine ⟨lines, before, (whole.state.course.deliver setup.build env.beforeClose).1,
      fun serverEnv sameLines sameBefore sameOversized sameRecv sameClose => ?_⟩
    obtain ⟨sameStatus, sameFraming, sameState⟩ :=
      handled serverEnv sameLines sameBefore sameOversized
    unfold Server.serveConn Server.serveInput System.serveConn
    rw [if_pos serves, if_pos serves, sameRecv]
    dsimp only
    rw [sameStatus, sameFraming, sameState, sameClose]
    by_cases failed : whole.status ≠ .success
    · rw [if_pos failed, if_pos failed]
      exact ⟨rfl, nofun⟩
    · rw [if_neg failed, if_neg failed]
      exact ⟨rfl, fun _ => rfl⟩
  · refine ⟨lines, before, (system.course.deliver setup.build env.beforeClose).1,
      fun serverEnv _ _ _ _ _ => ?_⟩
    unfold Server.serveConn System.serveConn
    rw [if_neg serves, if_neg serves]
    exact ⟨rfl, fun _ => rfl⟩

theorem openConn_refines (env : WelcomeEnv) (sock : Nat) (system : System) :
    ∃ opening, setup.server.openConn opening sock system.world =
      (openConn setup env sock system).world := by
  unfold System.openConn
  split
  · exact ⟨_, rfl⟩
  · exact ⟨_, rfl⟩

/-- The listening socket's part. -/
theorem acceptConn_refines (env : TurnEnv) (system : System) :
    ∃ opening, ∀ serverEnv : IterationEnv, serverEnv.accept = env.accept →
      serverEnv.refusing = env.refusing → serverEnv.opening = opening →
      (system.world.conn.active = true →
        serverEnv.beforeClose = (system.course.deliver setup.build env.beforeClose).1) →
      setup.server.acceptConn serverEnv system.world = (acceptConn setup env system).loop := by
  obtain ⟨opening, opened⟩ := openConn_refines setup env.opening system.world.nextSock
    { system with world := system.world.accept }
  refine ⟨opening, fun serverEnv sameAccept sameRefusing sameOpening sameClose => ?_⟩
  unfold Server.acceptConn System.acceptConn
  rw [sameAccept, sameRefusing, sameOpening]
  cases env.accept with
  | some status =>
      dsimp only [SystemLoop.loop]
      by_cases active : system.world.conn.active = true
      · rw [if_pos active, if_pos active, sameClose active]
        rfl
      · rw [if_neg active, if_neg active]
  | none =>
      dsimp only [SystemLoop.loop]
      by_cases active : system.world.accept.conn.active = true
      · rw [if_pos active, if_pos active]
      · rw [if_neg active, if_neg active, opened]

theorem iteration_refines (env : TurnEnv) (system : System) :
    ∃ serverEnv,
      setup.server.iteration serverEnv system.world = (iteration setup env system).loop := by
  let delivered := system.course.deliver setup.build env.idle
  let idle : System := ⟨setup.server.callbacks delivered.1 system.world, delivered.2⟩
  let idleEnv (select : ServerSelect) : IterationEnv :=
    ⟨delivered.1, select, env.recv, fun index => lineEnv setup (env.line index) [] idle.course, [],
      env.oversized, (idle.course.deliver setup.build env.beforeClose).1, env.accept,
      ⟨none, true, [], [], env.oversized⟩, env.refusing⟩
  cases selected : env.select with
  | failed status =>
      refine ⟨idleEnv (.failed status), ?_⟩
      unfold System.iteration
      rw [selected]
      change (if status.1 = .fromOs eintr then .running idle.world
        else .returned status (if idle.world.conn.active then
          setup.server.closeConn (idle.course.deliver setup.build env.beforeClose).1 idle.world
          else idle.world)) = SystemLoop.loop (if status.1 = .fromOs eintr then .running idle
        else .returned status (if idle.world.conn.active then
          closeConn setup env.beforeClose idle else idle))
      by_cases interrupted : status.1 = .fromOs eintr
      · rw [if_pos interrupted, if_pos interrupted]
        rfl
      · rw [if_neg interrupted, if_neg interrupted]
        by_cases active : idle.world.conn.active = true
        · rw [if_pos active, if_pos active]
          rfl
        · rw [if_neg active, if_neg active]
          rfl
  | timedOut =>
      refine ⟨idleEnv .timedOut, ?_⟩
      unfold System.iteration
      rw [selected]
      rfl
  | ready conn listen =>
      obtain ⟨lines, before, close, serves⟩ := serveConn_refines setup env conn idle
      obtain ⟨opening, accepts⟩ := acceptConn_refines setup env (serveConn setup env conn idle)
      let serverEnv : IterationEnv :=
        ⟨delivered.1, .ready conn listen, env.recv, lines, before, env.oversized, close,
          env.accept, opening, env.refusing⟩
      obtain ⟨served, closes⟩ := serves serverEnv rfl rfl rfl rfl rfl
      have accepted := accepts serverEnv rfl rfl rfl closes
      refine ⟨serverEnv, ?_⟩
      unfold System.iteration
      rw [selected]
      change (if listen then
          setup.server.acceptConn serverEnv (setup.server.serveConn serverEnv conn idle.world)
        else .running (setup.server.serveConn serverEnv conn idle.world)) = _
      rw [served]
      cases listen with
      | true => exact accepted
      | false => rfl

/-- One step of the daemon is one step of its server. -/
theorem step_refines (loop : SystemLoop) (input : SystemInput) :
    ∃ serverInput, setup.server.step loop.loop serverInput = (step setup loop input).loop := by
  cases loop with
  | returned status system => exact ⟨.stop [], rfl⟩
  | running system =>
      cases input with
      | stop beforeClose =>
          refine ⟨.stop (system.course.deliver setup.build beforeClose).1, ?_⟩
          dsimp only [SystemLoop.loop, Server.step, System.step]
          by_cases active : system.world.conn.active = true
          · rw [if_pos active, if_pos active]
            rfl
          · rw [if_neg active, if_neg active]
      | iterate env =>
          obtain ⟨serverEnv, same⟩ := iteration_refines setup env system
          exact ⟨.iterate serverEnv, same⟩

/-- The server in a run of the daemon is a run of the server model. -/
theorem run_refines (loop : SystemLoop) (inputs : List SystemInput) :
    ∃ serverInputs,
      Machine.run setup.server.step loop.loop serverInputs = (run setup loop inputs).loop := by
  induction inputs using List.reverseRecOn with
  | nil => exact ⟨[], rfl⟩
  | append_singleton before input ih =>
      obtain ⟨earlier, same⟩ := ih
      obtain ⟨serverInput, next⟩ := step_refines setup (run setup loop before) input
      refine ⟨earlier ++ [serverInput], ?_⟩
      rw [Machine.run_append, same, run, Machine.run_append]
      exact next

/-- What the server is in does not depend on whether the loop has returned. -/
theorem loop_world (loop : SystemLoop) : loop.loop.world = loop.system.world := by
  cases loop with
  | running | returned => rfl

end System
end Pjsocky
