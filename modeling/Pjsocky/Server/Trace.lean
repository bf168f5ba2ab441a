import Pjsocky.Server.Model

/-!
# What the server's functions do to the trace

A step that only lets messages through is `Quiet`: it keeps the connection and its
publication and appends deliveries, handler runs and writes to the published socket.
Everything between `open_conn` and `close_conn` is quiet, so the functions that open,
refuse and close connections are the only ones with another effect. `serveInput_rule`
and `step_rule` reduce an invariant of the loop to these functions.
-/

namespace Pjsocky

open Support Support.LineSplit

/-- The socket that the event module writes to. -/
def World.connected (world : World) : Option Nat :=
  match world.events with
  | .null => none
  | .conn => some world.conn.framing.sock

/-- What went out of a message: the given number of bytes of its line, and all of
it exactly when the write succeeded. -/
structure Written (lib : Pjlib) (message : JsonElem) (sent : Nat) (result : SendResult) :
    Prop where
  isObject : ∃ members, message = .obj members
  accepted : result.accepted = (lib.writer.line message).take sent
  whole : result.status = .success ↔ sent = (lib.writer.line message).length

theorem Written.isPrefix {lib : Pjlib} {message : JsonElem} {sent : Nat} {result : SendResult}
    (written : Written lib message sent result) :
    result.accepted <+: lib.writer.line message := by
  rw [written.accepted]
  exact List.take_prefix _ _

/-- How many bytes of an event's line go out. -/
def PushEnv.sent (srv : Server) (message : JsonElem) (env : PushEnv) : Nat :=
  if env.pool then sentBytes srv.lib.writer srv.writeTimeoutMsec message maxLine env.write else 0

/-- The lines that one call of `handle_conn_input` finds complete in the buffer. -/
def IterationEnv.lines (env : IterationEnv) (framing : Framing) : List Bytes :=
  completeLines lineFeed (framing.fill env.recv).2.unconsumed

/-- The observations of a step that lets messages through. -/
def Obs.Quiet (lib : Pjlib) (connected : Option Nat) : Obs → Prop
  | .delivered sock _ => connected = some sock
  | .ran _ => connected ≠ none
  | .wrote sock origin message result =>
      connected = some sock ∧ origin ≠ .refusal ∧ ∃ sent, Written lib message sent result
  | _ => False

/-- A step that only lets messages through. -/
structure Quiet (lib : Pjlib) (before after : World) : Prop where
  active : after.conn.active = before.conn.active
  sock : after.conn.sock = before.conn.sock
  framingSock : after.conn.framing.sock = before.conn.framing.sock
  timeout : after.conn.framing.writeTimeoutMsec = before.conn.framing.writeTimeoutMsec
  events : after.events = before.events
  nextSock : after.nextSock = before.nextSock
  grows : ∃ added, after.trace = before.trace ++ added ∧
    ∀ obs ∈ added, obs.Quiet lib before.connected

namespace Quiet

variable {lib : Pjlib} {first second third : World}

theorem connected_eq (quiet : Quiet lib first second) : second.connected = first.connected := by
  simp only [World.connected, quiet.events, quiet.framingSock]

theorem refl (world : World) : Quiet lib world world :=
  ⟨rfl, rfl, rfl, rfl, rfl, rfl, [], by simp, by simp⟩

theorem trans (left : Quiet lib first second) (right : Quiet lib second third) :
    Quiet lib first third := by
  obtain ⟨early, earlyTrace, earlyQuiet⟩ := left.grows
  obtain ⟨late, lateTrace, lateQuiet⟩ := right.grows
  refine ⟨right.active.trans left.active, right.sock.trans left.sock,
    right.framingSock.trans left.framingSock, right.timeout.trans left.timeout,
    right.events.trans left.events, right.nextSock.trans left.nextSock, early ++ late, ?_, ?_⟩
  · rw [lateTrace, earlyTrace, List.append_assoc]
  · intro obs member
    rcases List.mem_append.mp member with isEarly | isLate
    · exact earlyQuiet obs isEarly
    · rw [← left.connected_eq]
      exact lateQuiet obs isLate

/-- Only the socket and the deadline of the connection's framing matter to what is
written. -/
theorem setFraming {framing : Framing} (sameSock : framing.sock = first.conn.framing.sock)
    (sameTimeout : framing.writeTimeoutMsec = first.conn.framing.writeTimeoutMsec) :
    Quiet lib first (first.setFraming framing) :=
  ⟨rfl, rfl, sameSock, sameTimeout, rfl, rfl, [], by simp [World.setFraming], by simp⟩

theorem activate (quiet : Quiet lib first second) : Quiet lib first.activate second.activate :=
  ⟨rfl, quiet.sock, quiet.framingSock, quiet.timeout, quiet.events, quiet.nextSock, quiet.grows⟩

theorem record {obs : Obs} (quiet : obs.Quiet lib first.connected) :
    Quiet lib first (first.record obs) :=
  ⟨rfl, rfl, rfl, rfl, rfl, rfl, [obs], rfl, by simpa using quiet⟩

end Quiet

/-- Every response is an object with named members. -/
theorem dispatchLine_named {lib : Pjlib} {handlers : Handlers} {line : Bytes}
    {response : JsonElem} {ran : Option CmdFn}
    (answered : dispatchLine lib handlers line = .answered response ran) :
    (∃ members, response = .obj members) ∧ response.Named := by
  have failNamed : ∀ id code message, (fail id code message).Named := by
    intro id code message
    simp only [fail, addString, addBool, Json.Named, Json.NamedMembers]
    decide
  have succeedNamed : ∀ id (outcome : HandlerResult), (succeed id outcome.result).Named := by
    intro id outcome
    have named := outcome.named
    simp only [succeed, addString, addBool, Json.Named, Json.NamedMembers, named]
    decide
  simp only [dispatchLine] at answered
  repeat' split at answered
  all_goals cases answered
  all_goals first
    | exact ⟨⟨_, rfl⟩, failNamed _ _ _⟩
    | exact ⟨⟨_, rfl⟩, succeedNamed _ _⟩

namespace Server

variable (srv : Server)

/-- The published connection writes with the server's deadline. -/
def Timed (world : World) : Prop :=
  world.events = .conn → world.conn.framing.writeTimeoutMsec = srv.writeTimeoutMsec

variable {srv}

theorem Timed.quiet {before after : World} (timed : srv.Timed before)
    (quiet : Quiet srv.lib before after) : srv.Timed after := by
  intro published
  rw [quiet.timeout]
  exact timed (quiet.events ▸ published)

/-- A push writes its event to the published socket, if there is one. -/
theorem eventsPush_cases {origin : Origin} {event : Event} {env : PushEnv} {world : World}
    (timed : srv.Timed world) :
    world.connected = none ∧ srv.eventsPush origin event env world = (.success, world) ∨
      ∃ sock result, world.connected = some sock ∧
        srv.eventsPush origin event env world =
          (result.status, world.record (.wrote sock origin (event.message srv.lib) result)) ∧
        Written srv.lib (event.message srv.lib) (env.sent srv (event.message srv.lib))
          result := by
  cases published : world.events with
  | null => exact .inl (by simp [World.connected, eventsPush, published])
  | conn =>
      refine .inr ⟨world.conn.framing.sock, ?_⟩
      simp only [World.connected, published, eventsPush, PushEnv.sent]
      split
      · have sent := @writeJson_sent srv.lib.writer world.conn.framing.writeTimeoutMsec maxLine
          (event.message srv.lib) env.write (event.message_named srv.lib)
        rw [timed published] at sent
        refine ⟨_, trivial, ?_, ⟨_, rfl⟩, sent.1, sent.2⟩
        simp only [writeLocked, timed published]
      · refine ⟨⟨.enomem, [], []⟩, trivial, rfl, ⟨_, rfl⟩, by simp, ?_⟩
        simp [JsonWriter.line]

/-- A response is written to the published socket, if there is one. -/
theorem eventsWriteResponse_cases {response : JsonElem}
    (isObject : ∃ members, response = .obj members) (named : response.Named) (env : WriteEnv)
    {world : World} (timed : srv.Timed world) :
    world.connected = none ∧ srv.eventsWriteResponse response env world = (.success, world) ∨
      ∃ sock result, world.connected = some sock ∧
        srv.eventsWriteResponse response env world =
          (result.status, world.record (.wrote sock .response response result)) ∧
        Written srv.lib response
          (sentBytes srv.lib.writer srv.writeTimeoutMsec response maxLine env) result := by
  cases published : world.events with
  | null => exact .inl (by simp [World.connected, eventsWriteResponse, published])
  | conn =>
      have sent := @writeJson_sent srv.lib.writer srv.writeTimeoutMsec maxLine response env named
      refine .inr ⟨world.conn.framing.sock, _, ?_, ?_, isObject, sent.1, sent.2⟩
      · simp only [World.connected, published]
      · simp only [eventsWriteResponse, published, writeLocked, timed published]

theorem eventsPush_quiet {origin : Origin} (notRefusal : origin ≠ .refusal) (event : Event)
    (env : PushEnv) {world : World} (timed : srv.Timed world) :
    Quiet srv.lib world (srv.eventsPush origin event env world).2 := by
  rcases eventsPush_cases timed with ⟨-, nothing⟩ | ⟨sock, result, connected, push, written⟩
  · rw [nothing]
    exact .refl world
  · rw [push]
    exact .record ⟨connected, notRefusal, _, written⟩

/-- The rule for the events that callbacks push, one after the other. -/
theorem callbacks_rule {invariant : World → Prop} {pushes : List Push} {world : World}
    (timed : srv.Timed world) (holds : invariant world)
    (step : ∀ push ∈ pushes, ∀ next, srv.Timed next → invariant next →
      invariant (srv.eventsPush .callback push.event push.env next).2) :
    invariant (srv.callbacks pushes world) := by
  induction pushes generalizing world with
  | nil => exact holds
  | cons push rest ih =>
      have first : Quiet srv.lib world
          (srv.eventsPush .callback push.event push.env world).2 :=
        eventsPush_quiet (by decide) push.event push.env timed
      exact ih (timed.quiet first) (step push List.mem_cons_self world timed holds)
        fun push member => step push (List.mem_cons_of_mem _ member)

theorem callbacks_quiet (pushes : List Push) {world : World} (timed : srv.Timed world) :
    Quiet srv.lib world (srv.callbacks pushes world) :=
  callbacks_rule timed (.refl world) fun push _ _ timed quiet =>
    quiet.trans (eventsPush_quiet (by decide) push.event push.env timed)

theorem eventsPush_conn (origin : Origin) (event : Event) (env : PushEnv) (world : World) :
    (srv.eventsPush origin event env world).2.conn = world.conn := by
  unfold eventsPush
  split
  · rfl
  · split <;> rfl

/-- Callbacks leave the connection alone. -/
theorem callbacks_conn (pushes : List Push) (world : World) :
    (srv.callbacks pushes world).conn = world.conn := by
  induction pushes generalizing world with
  | nil => rfl
  | cons push rest ih =>
      exact (ih _).trans (eventsPush_conn _ _ _ _)

/-- With nothing published an event is discarded. -/
theorem callbacks_null (pushes : List Push) {world : World} (unpublished : world.events = .null) :
    srv.callbacks pushes world = world := by
  induction pushes with
  | nil => rfl
  | cons push rest ih =>
      have discarded : (srv.eventsPush .callback push.event push.env world).2 = world := by
        simp [eventsPush, unpublished]
      rw [callbacks, List.foldl_cons, discarded]
      exact ih

theorem executed_connected (sock : Nat) (text : Bytes) (ran : Option CmdFn) (world : World) :
    ((world.record (.delivered sock text)).executed ran).connected = world.connected := by
  cases ran <;> rfl

theorem executed_timed (sock : Nat) (text : Bytes) (ran : Option CmdFn) {world : World}
    (timed : srv.Timed world) :
    srv.Timed ((world.record (.delivered sock text)).executed ran) := by
  cases ran <;> exact timed

/-- What handling a line does on a published connection: the line is dispatched, the
handler may run, events are let through, and one message is written. Only the status
of a response is returned. -/
theorem handleLine_cases (env : LineEnv) (text : Bytes) {world : World} {sock : Nat}
    (connected : world.connected = some sock) (timed : srv.Timed world) :
    ∃ ran origin message sent result,
      srv.handleLine env text world =
          (if origin = .response then result.status else .success,
            (srv.callbacks env.before
              ((world.record (.delivered sock text)).executed ran)).record
                (.wrote sock origin message result)) ∧
        Written srv.lib message sent result ∧
        match dispatchLine srv.lib env.handlers text with
        | .rejected _ => origin = .rejection ∧ ran = none ∧ message = srv.unparseable ∧
            sent = env.reply.sent srv message
        | .answered response fn => origin = .response ∧ ran = fn ∧ message = response ∧
            sent = sentBytes srv.lib.writer srv.writeTimeoutMsec message maxLine
              env.reply.write := by
  have isSock : world.conn.framing.sock = sock := by
    cases published : world.events with
    | null => simp [World.connected, published] at connected
    | conn => simpa [World.connected, published] using connected
  have after : ∀ ran, srv.Timed (srv.callbacks env.before
        ((world.record (.delivered sock text)).executed ran)) ∧
      (srv.callbacks env.before ((world.record (.delivered sock text)).executed ran)).connected =
        some sock := fun ran =>
    have quiet := callbacks_quiet env.before (executed_timed sock text ran timed)
    ⟨(executed_timed sock text ran timed).quiet quiet,
      quiet.connected_eq.trans ((executed_connected sock text ran world).trans connected)⟩
  cases dispatched : dispatchLine srv.lib env.handlers text with
  | rejected status =>
      rcases @eventsPush_cases srv .rejection (.error (ascii "bad_request")
          (ascii "not a JSON object with a string \"id\"")) env.reply _ (after none).1 with
        ⟨unpublished, -⟩ | ⟨other, result, published, push, written⟩
      · rw [(after none).2] at unpublished
        cases unpublished
      · obtain rfl := Option.some.inj ((after none).2.symm.trans published)
        refine ⟨none, .rejection, _, _, result, ?_, written, rfl, rfl, rfl, rfl⟩
        rw [World.executed] at push
        simp [handleLine, dispatched, isSock, pushErrorEvent, push, World.executed]
  | answered response ran =>
      obtain ⟨isObject, named⟩ := dispatchLine_named dispatched
      rcases eventsWriteResponse_cases isObject named env.reply.write (after ran).1 with
        ⟨unpublished, -⟩ | ⟨other, result, published, write, written⟩
      · rw [(after ran).2] at unpublished
        cases unpublished
      · obtain rfl := Option.some.inj ((after ran).2.symm.trans published)
        refine ⟨ran, .response, _, _, result, ?_, written, rfl, rfl, rfl, rfl⟩
        simp only [handleLine, dispatched, isSock, write, if_true]

theorem handleLine_quiet (env : LineEnv) (text : Bytes) {world : World} {sock : Nat}
    (connected : world.connected = some sock) (timed : srv.Timed world) :
    Quiet srv.lib world (srv.handleLine env text world).2 := by
  obtain ⟨ran, origin, message, sent, result, handled, written, dispatched⟩ :=
    handleLine_cases env text connected timed
  have delivered : Quiet srv.lib world (world.record (.delivered sock text)) :=
    .record connected
  have executed : Quiet srv.lib (world.record (.delivered sock text))
      ((world.record (.delivered sock text)).executed ran) := by
    cases ran with
    | none => exact .refl _
    | some fn =>
        refine .record (show world.connected ≠ none from ?_)
        simp [connected]
  have called := (delivered.trans executed).trans
    (callbacks_quiet env.before (executed_timed sock text ran timed))
  have notRefusal : origin ≠ .refusal := by
    split at dispatched <;> simp [dispatched.1]
  rw [handled]
  exact called.trans (.record ⟨called.connected_eq.trans connected, notRefusal, sent, written⟩)

/-- The rule for the input of the active connection: `kept` is what handling a line
keeps and `dropped` what holds when the connection is to be closed. -/
theorem serveInput_rule {kept dropped : World → Prop} {env : IterationEnv} {world : World}
    (reframe : ∀ state (framing : Framing), framing.sock = world.conn.framing.sock →
      framing.writeTimeoutMsec = world.conn.framing.writeTimeoutMsec →
      (kept state → kept (state.setFraming framing)) ∧
        (dropped state → dropped (state.setFraming framing)))
    (weaken : ∀ state, kept state → dropped state)
    (line : ∀ index text state, (env.lines world.conn.framing)[index]? = some text →
      kept state →
      let result := srv.handleLine (env.line index) text state
      if result.1 = .success then kept result.2 else dropped result.2)
    (oversized : ∀ state, kept state →
      dropped (srv.pushErrorEvent .oversized (ascii "bad_request")
        (ascii "line exceeds maximum length") env.oversized
        (srv.callbacks env.beforeOversized state)))
    (holds : kept world) :
    kept (srv.serveInput env world) ∨
      ∃ state, dropped state ∧ srv.serveInput env world = srv.closeConn env.beforeClose state := by
  obtain ⟨outcome, sameSock, sameTimeout⟩ :=
    @handleConnInput_rule World (srv.lineHandler env) kept dropped world.conn.framing.sock
      world.conn.framing.writeTimeoutMsec (env.lines world.conn.framing)
      (fun index framing text state sameSock sameTimeout isLine holds =>
        line index text _ isLine ((reframe state framing sameSock sameTimeout).1 holds))
      (fun framing state sameSock sameTimeout holds =>
        oversized _ ((reframe state framing sameSock sameTimeout).1 holds))
      weaken env.recv world.conn.framing world rfl rfl rfl holds
  have reframed := fun state => reframe state _ sameSock sameTimeout
  unfold serveInput
  simp only
  split at outcome
  · rename_i success
    rw [if_neg (not_not.mpr success)]
    exact .inl ((reframed _).1 outcome)
  · rename_i failure
    rw [if_pos failure]
    exact .inr ⟨_, (reframed _).2 outcome, rfl⟩

/-- Up to closing it, the input of the active connection only lets messages
through. -/
theorem serveInput_quiet (env : IterationEnv) {world : World} {sock : Nat}
    (connected : world.connected = some sock) (timed : srv.Timed world) :
    Quiet srv.lib world (srv.serveInput env world) ∨
      ∃ state, Quiet srv.lib world state ∧
        srv.serveInput env world = srv.closeConn env.beforeClose state := by
  have reframe : ∀ state (framing : Framing), framing.sock = world.conn.framing.sock →
      framing.writeTimeoutMsec = world.conn.framing.writeTimeoutMsec →
      Quiet srv.lib world state → Quiet srv.lib world (state.setFraming framing) := by
    intro state framing sameSock sameTimeout quiet
    exact quiet.trans (.setFraming (sameSock.trans quiet.framingSock.symm)
      (sameTimeout.trans quiet.timeout.symm))
  refine serveInput_rule (fun state framing sameSock sameTimeout =>
    ⟨reframe state framing sameSock sameTimeout, reframe state framing sameSock sameTimeout⟩)
    (fun _ quiet => quiet) (fun index text state _ quiet => ?_) (fun state quiet => ?_)
    (.refl world)
  · have handled : Quiet srv.lib world (srv.handleLine (env.line index) text state).2 :=
      quiet.trans
        (handleLine_quiet _ text (quiet.connected_eq.trans connected) (timed.quiet quiet))
    simp only [handled, ite_self]
  · have called := callbacks_quiet env.beforeOversized (timed.quiet quiet)
    have after := (timed.quiet quiet).quiet called
    exact (quiet.trans called).trans (eventsPush_quiet (by decide) _ _ after)

/-- Serving does not activate a connection. -/
theorem serveConn_inactive {env : IterationEnv} {readable : Bool} {world : World}
    (inactive : world.conn.active = false) : srv.serveConn env readable world = world := by
  simp [serveConn, inactive]

/-- The iteration comes to `open_conn`, in this state. -/
structure OpensIn (srv : Server) (env : IterationEnv) (world next : World) : Prop where
  selected : ∃ readable, env.select = .ready readable true ∧
    next = srv.serveConn env readable (srv.callbacks env.idle world)
  accepted : env.accept = none
  inactive : next.conn.active = false

/-- The rule for an iteration: an invariant is kept if waiting, serving the active
connection, closing it and accepting a new one keep it. -/
theorem iteration_rule {invariant : World → Prop} {env : IterationEnv} {world : World}
    (idle : invariant (srv.callbacks env.idle world))
    (served : world.conn.active = true →
      invariant (srv.serveInput env (srv.callbacks env.idle world)))
    (closed : world.conn.active = true → ∀ next, invariant next → next.conn.active = true →
      invariant (srv.closeConn env.beforeClose next))
    (refused : ∀ next, invariant next → next.conn.active = true →
      invariant (srv.refuseConn env.refusing next.nextSock next.accept))
    (opened : ∀ next, invariant next → srv.OpensIn env world next →
      invariant (srv.openConn env.opening next.nextSock next.accept)) :
    invariant (srv.iteration env world).world := by
  have same : (srv.callbacks env.idle world).conn.active = world.conn.active := by
    rw [callbacks_conn]
  have accepted : ∀ next, (next.conn.active = true → world.conn.active = true) →
      (∃ readable, env.select = .ready readable true ∧
        next = srv.serveConn env readable (srv.callbacks env.idle world)) →
      invariant next → invariant (srv.acceptConn env next).world := by
    intro next wasActive selected holds
    unfold acceptConn
    split
    · simp only [Loop.world]
      split
      · rename_i active
        exact closed (wasActive active) next holds active
      · exact holds
    · rename_i accept
      simp only [Loop.world]
      split
      · rename_i active
        exact refused next holds active
      · rename_i inactive
        exact opened next holds ⟨selected, accept, Bool.eq_false_iff.mpr inactive⟩
  unfold iteration
  simp only
  split
  · split
    · exact idle
    · simp only [Loop.world]
      split
      · rename_i active
        exact closed (same ▸ active) _ idle active
      · exact idle
  · exact idle
  · rename_i conn listen isReady
    have handled : invariant (srv.serveConn env conn (srv.callbacks env.idle world)) := by
      unfold serveConn
      split
      · rename_i active
        rw [same, Bool.and_eq_true] at active
        exact served active.1
      · exact idle
    split
    · rename_i listening
      subst listening
      refine accepted _ (fun active => ?_) ⟨conn, isReady, rfl⟩ handled
      by_contra inactive
      rw [← same, Bool.not_eq_true] at inactive
      rw [serveConn_inactive inactive, inactive] at active
      cases active
    · exact handled

/-- The rule for a step of the loop. -/
theorem step_rule {invariant : World → Prop} {loop : Loop} {input : LoopInput}
    (holds : invariant loop.world)
    (stopped : ∀ world before, loop = .running world → input = .stop before →
      world.conn.active = true → invariant (srv.closeConn before world))
    (iterated : ∀ world env, loop = .running world → input = .iterate env →
      invariant (srv.iteration env world).world) :
    invariant (srv.step loop input).world := by
  cases loop with
  | returned status world => exact holds
  | running world =>
      cases input with
      | stop before =>
          simp only [step, Loop.world]
          split
          · rename_i active
            exact stopped world before rfl rfl active
          · exact holds
      | iterate env => exact iterated world env rfl rfl

/-- The state in which `open_conn` has published the new connection. -/
def publish (srv : Server) (sock : Nat) (world : World) : World :=
  { world with
    conn := { world.conn with
      sock := sock
      framing := world.conn.framing.init sock srv.writeTimeoutMsec }
    events := .conn }.record (.published sock)

theorem publish_connected (srv : Server) (sock : Nat) (world : World) :
    (srv.publish sock world).connected = some sock := rfl

theorem publish_trace (srv : Server) (sock : Nat) (world : World) :
    (srv.publish sock world).trace = world.trace ++ [.published sock] := rfl

theorem publish_timed (srv : Server) (sock : Nat) (world : World) :
    srv.Timed (srv.publish sock world) :=
  fun _ => rfl

/-- From its publication to its activation a connection only sees messages. -/
theorem greet_quiet (env : OpenEnv) (sock : Nat) (world : World) :
    Quiet srv.lib (srv.publish sock world)
      (srv.eventsPush .hello .hello env.hello
        (srv.callbacks env.beforeHello (srv.publish sock world))).2 := by
  have called := callbacks_quiet env.beforeHello (srv.publish_timed sock world)
  have timed := (srv.publish_timed sock world).quiet called
  exact called.trans (eventsPush_quiet (by decide) .hello env.hello timed)

/-- `open_conn` publishes the connection, lets the events pushed meanwhile through,
pushes `hello` and activates it; or it closes the socket. -/
theorem openConn_eq {env : OpenEnv} {sock : Nat} {world : World}
    (unpublished : world.events = .null) :
    srv.openConn env sock world =
      if env.nonblocking = none ∧ env.pool = true then
        (srv.eventsPush .hello .hello env.hello
          (srv.callbacks env.beforeHello (srv.publish sock world))).2.activate
      else world.record (.closed sock) := by
  unfold openConn
  cases nonblocking : env.nonblocking with
  | some status => simp
  | none =>
      cases pool : env.pool with
      | false => simp
      | true =>
          have discarded : ∀ conn, srv.callbacks env.beforePublish { world with conn := conn } =
              { world with conn := conn } := fun conn => callbacks_null _ unpublished
          simp [eventsSetConn, discarded, publish, Framing.init]

/-- `close_conn` lets the last events through, withdraws the connection and closes
its socket. -/
theorem closeConn_eq (before : List Push) (world : World) :
    srv.closeConn before world =
      let last := srv.callbacks before world
      { last with
        conn := { last.conn with active := false }
        events := .null
        trace := last.trace ++ [.unpublished, .closed last.conn.sock] } := by
  simp [closeConn, eventsSetConn, World.record]

/-- What `refuse_conn` lets the refused socket see: at most a prefix of the refusal's
line before it is closed. -/
theorem refuseConn_eq (srv : Server) (env : RefuseEnv) (sock : Nat) (world : World) :
    ∃ added, srv.refuseConn env sock world = { world with trace := world.trace ++ added } ∧
      (added = [.closed sock] ∨
        ∃ result : SendResult, result.accepted <+: srv.lib.writer.line srv.refusal ∧
          added = [.wrote sock .refusal srv.refusal result, .closed sock]) := by
  have sent := @writeJson_sent srv.lib.writer srv.writeTimeoutMsec 512 srv.refusal env.write
    (Event.message_named _ _)
  unfold refuseConn
  split
  · exact ⟨_, by simp [World.record], .inr ⟨_, sent.1 ▸ List.take_prefix _ _, rfl⟩⟩
  · exact ⟨_, rfl, .inl rfl⟩

end Server

end Pjsocky
