import Pjsocky.Server.Reading
import Pjsocky.System.Independence
import Pjsocky.System.Refinement
import Pjsocky.System.Service

/-!
# The daemon serves

Every run of the daemon is a run of the service: each of its functions is matched by steps of
the service after which the two agree on the SIP side, on the lines taken and on the messages
offered. What holds in every run of the service therefore holds of the daemon.
-/

namespace Pjsocky

open Support Machine

/-- The service and the course have taken the same steps of the SIP side. -/
structure Course.InStep (setup : Setup) (course : Course) (service : Service) : Prop where
  sip : service.sip = course.sip
  course : service.course.filter (SipInput.reaches setup.build) = course.history.map Prod.fst

namespace Course.InStep

variable {setup : Setup} {course : Course} {service : Service}

theorem happen (inStep : course.InStep setup service) (callback : Callback) :
    (course.advance setup.build callback.input).InStep setup
      (service.happen setup callback.input) := by
  refine ⟨?_, ?_⟩
  · rw [Course.advance, ← inStep.sip]
    rfl
  · rw [Course.advance, List.map_append, ← inStep.course, Service.happen, Service.advance,
      List.filter_append]
    simp [callback.byPjsua.reaches]

/-- A line changes something only when it reaches a handler. -/
theorem advance (inStep : course.InStep setup service) (line : Bytes) (outcomes : Outcomes) :
    (course.command setup.build line outcomes).InStep setup
      (service.advance setup (.line line outcomes)) := by
  unfold Course.command
  cases runs : Daemon.executed setup.build line with
  | none =>
      refine ⟨?_, ?_⟩
      · have idle : (service.sip.daemon.dispatchLine setup.build outcomes line).2 =
          service.sip.daemon := Daemon.dispatchLine_unexecuted runs
        rw [Service.advance, ← inStep.sip]
        exact congrArg service.sip.set idle
      · rw [Service.advance, List.filter_append, inStep.course]
        simp [SipInput.reaches, runs]
  | some command =>
      refine ⟨?_, ?_⟩
      · rw [Service.advance, Course.advance, inStep.sip]
      · rw [Service.advance, Course.advance, List.filter_append, inStep.course, List.map_append]
        simp [SipInput.reaches, runs]

/-- The messages of the events that a callback pushes. -/
theorem pushes (inStep : course.InStep setup service) (callback : Callback) :
    (course.pushes setup.build callback).map (fun push => push.event.message setup.build.lib) =
      (service.sip.events setup.build callback.input).map (Event.message setup.build.lib) := by
  rw [Sip.events, Course.pushes, ← inStep.sip, List.map_filterMap, List.map_filterMap]
  congr 1
  funext action
  cases action <;> rfl

end Course.InStep

namespace System

/-- The service takes the callbacks. -/
def happenings (callbacks : List Callback) : List ServiceInput :=
  callbacks.map fun callback => .happens callback.input callback.byPjsua

variable {setup : Setup} {course : Course} {service : Service} {system : System}

/-- Callbacks one after the other: the client is offered the events they push. -/
theorem run_happenings (inStep : course.InStep setup service) (callbacks : List Callback) :
    let delivered := course.deliver setup.build callbacks
    let after := Service.run setup service (happenings callbacks)
    delivered.2.InStep setup after ∧
    after.session = service.session.offer .callback
      (delivered.1.map fun push => push.event.message setup.build.lib) ∧
    after.owed = service.owed := by
  induction callbacks generalizing course service with
  | nil => exact ⟨inStep, Session.offer_nil.symm, rfl⟩
  | cons callback rest ih =>
      obtain ⟨together, session, owed⟩ := ih (inStep.happen callback)
      refine ⟨together, ?_, owed⟩
      rw [Course.deliver, List.map_append, inStep.pushes, ← Session.offer_offer]
      exact session

variable (setup)

/-- The service has done what the system has done, and nothing is owed. -/
structure Serves (system : System) (service : Service) : Prop where
  inStep : system.course.InStep setup service
  session : service.session = system.world.session
  owed : service.owed = none
  pointed : system.world.Pointed

/-- The service can get from here to where it has done what the system has done. -/
abbrev Served (service : Service) (system : System) : Prop :=
  Reaches (Service.step setup) service (Serves setup system)

variable {setup}

namespace Serves

theorem start : Serves setup System.start.system .start :=
  ⟨⟨rfl, rfl⟩, rfl, rfl, rfl⟩

/-- A new framing for the same socket. -/
theorem setFraming (serves : Serves setup system service) {framing : Framing}
    (same : framing.sock = system.world.conn.framing.sock) :
    Serves setup (system.setFraming framing) service :=
  ⟨serves.inStep, serves.session.trans (World.session_setFraming same).symm, serves.owed,
    serves.pointed⟩

/-- Callbacks while the loop waits. -/
theorem callbacks (serves : Serves setup system service) (callbacks : List Callback) :
    Served setup service ⟨setup.server.callbacks
        (system.course.deliver setup.build callbacks).1 system.world,
      (system.course.deliver setup.build callbacks).2⟩ := by
  obtain ⟨inStep, session, owed⟩ := run_happenings serves.inStep callbacks
  refine ⟨happenings callbacks, inStep, ?_, owed.trans serves.owed,
    Server.callbacks_pointed.mpr serves.pointed⟩
  rw [session, serves.session, Server.callbacks_session]
  rfl

theorem closeConn (serves : Serves setup system service) (before : List Callback) :
    Served setup service (closeConn setup before system) := by
  refine (serves.callbacks before).next fun other serves => .one .leaves ?_
  rw [Service.step_leaves serves.owed]
  refine ⟨⟨serves.inStep.sip, serves.inStep.course⟩, ?_, serves.owed, rfl⟩
  have closed := @Server.closeConn_session setup.server []
    (setup.server.callbacks (system.course.deliver setup.build before).1 system.world)
  rw [List.map_nil, Session.offer_nil, ← serves.session] at closed
  exact closed.symm

/-- A line of the client: callbacks, the command, callbacks, and the answer. -/
theorem handleLine (serves : Serves setup system service) {sock : Nat}
    (client : system.world.connected = some sock) (env : CommandEnv) (line : Bytes) :
    Served setup service (handleLine setup env line system).2 := by
  let first := Service.run setup service (happenings env.ahead)
  obtain ⟨ahead, session, owed⟩ := run_happenings serves.inStep env.ahead
  have isClient : first.session.client = some sock := by
    rw [session, serves.session]
    exact client
  -- The answer is owed while further callbacks run.
  let asked := first.ask setup sock line env.outcomes
  have advanced := ahead.advance line env.outcomes
  let third := Service.run setup asked (happenings env.before)
  obtain ⟨inStep, later, still⟩ :=
    @run_happenings setup _ asked ⟨advanced.sip, advanced.course⟩ env.before
  refine ⟨happenings env.ahead ++ .asks line env.outcomes ::
    (happenings env.before ++ [.answered]), ?_⟩
  rw [run_append, run_cons, run_append, Service.step_asks (owed.trans serves.owed) isClient]
  refine ⟨⟨inStep.sip, inStep.course⟩, ?_, rfl, Server.handleLine_pointed.mpr serves.pointed⟩
  have stillClient : third.session.client = some sock := by
    rw [later]
    exact isClient
  let reply := setup.server.reply
    (first.sip.daemon.dispatchLine setup.build env.outcomes line).1
  have answered : (third.step setup .answered).session = third.session.offer reply.1 [reply.2] := by
    rw [Session.offer_client_some stillClient, Service.step, still]
    rfl
  have handled := @Server.handleLine_session setup.server _ sock client
    (lineEnv setup env line system.course) line
  refine answered.trans (Eq.trans ?_ handled.symm)
  have asking : asked.session = first.session.take line := rfl
  rw [later, asking, session, Session.take_offer, Session.offer_offer, serves.session, lineEnv,
    List.map_append]
  simp only [reply, first, ahead.sip]
  rfl

/-- The client's line is too long. -/
theorem pushOversized (serves : Serves setup system service) (env : TurnEnv) {framing : Framing}
    (same : framing.sock = system.world.conn.framing.sock) :
    Served setup service ((lineHandler setup env).pushOversized framing system) := by
  refine ((serves.setFraming same).callbacks env.beforeOversized).next
    fun other serves => .one .overflows ?_
  refine ⟨⟨serves.inStep.sip, serves.inStep.course⟩, ?_, serves.owed,
    Server.eventsPush_pointed.mpr serves.pointed⟩
  rw [Service.step, serves.session]
  exact (Server.eventsPush_session (by decide) _ _).symm

theorem pushOversized_connected (env : TurnEnv) (framing : Framing) (system : System) :
    ((lineHandler setup env).pushOversized framing system).world.connected =
      (system.setFraming framing).world.connected := by
  have pushed := @Server.eventsPush_session setup.server
    (setup.server.callbacks (system.course.deliver setup.build env.beforeOversized).1
      (system.world.setFraming framing)) .oversized (by decide)
    (.error (ascii "bad_request") (ascii "line exceeds maximum length")) env.oversized
  rw [Server.callbacks_session] at pushed
  exact congrArg Session.client pushed

/-- Reading from the client. -/
theorem serveConn (serves : Serves setup system service) (env : TurnEnv) (readable : Bool) :
    Served setup service (serveConn setup env readable system) := by
  unfold System.serveConn
  split
  · rename_i serving
    rw [Bool.and_eq_true] at serving
    let sock := system.world.conn.framing.sock
    have client : system.world.connected = some sock := serves.pointed.connected serving.1
    let kept (state : System) := state.world.connected = some sock ∧ Served setup service state
    have reframed : ∀ {state : System} {framing : Framing}, framing.sock = sock → kept state →
        kept (state.setFraming framing) := by
      intro state framing isSock holds
      have same := isSock.trans (World.sock_of_connected holds.1).symm
      exact ⟨(congrArg Session.client (World.session_setFraming same)).trans holds.1,
        holds.2.next fun _ serves => .here (serves.setFraming same)⟩
    have served := @handleConnInput_rule System (lineHandler setup env) kept kept sock
      system.world.conn.framing.writeTimeoutMsec _
      (fun index framing line state isSock _ _ holds => by
        have framed := reframed isSock holds
        have handled := @Server.handleLine_session setup.server _ sock framed.1
          (lineEnv setup (env.line index) line state.course) line
        rw [ite_self]
        exact ⟨(congrArg Session.client handled).trans framed.1,
          framed.2.next fun _ serves => serves.handleLine framed.1 (env.line index) line⟩)
      (fun framing state isSock _ holds => by
        have framed := reframed isSock holds
        have same := isSock.trans (World.sock_of_connected holds.1).symm
        exact ⟨(pushOversized_connected env framing state).trans framed.1,
          holds.2.next fun _ serves => serves.pushOversized env same⟩)
      (fun _ holds => holds) env.recv system.world.conn.framing system rfl rfl rfl
      ⟨client, .here serves⟩
    simp only [ite_self] at served
    have after := reframed served.2.1 served.1
    dsimp only
    split
    · exact after.2.next fun _ serves => serves.closeConn env.beforeClose
    · exact after.2
  · exact .here serves

/-- A client comes. -/
theorem openConn (serves : Serves setup system service)
    (inactive : system.world.conn.active = false) (env : WelcomeEnv) :
    Served setup service (openConn setup env system.world.nextSock
      { system with world := system.world.accept }) := by
  have alone : system.world.events = .null := by
    rw [serves.pointed, if_neg (by simp [inactive])]
  have unserved : service.session.client = none := by
    rw [serves.session]
    simp [World.session, World.connected, alone]
  unfold System.openConn
  split
  · rename_i failed
    refine .one .passes ⟨⟨serves.inStep.sip, serves.inStep.course⟩, ?_, serves.owed,
      Server.openConn_pointed serves.pointed alone⟩
    rw [Service.step, Server.openConn_session_failed failed, World.session_accept, serves.session]
  · rename_i opens
    obtain ⟨inStep, session, owed⟩ := run_happenings serves.inStep env.beforePublish
    rw [Session.offer_alone unserved] at session
    let first := Service.run setup service (happenings env.beforePublish)
    let joined : Service := { first with session := first.session.join }
    obtain ⟨together, later, still⟩ :=
      @run_happenings setup _ joined ⟨inStep.sip, inStep.course⟩ env.beforeHello
    refine ⟨happenings env.beforePublish ++ .joins :: (happenings env.beforeHello ++ [.greeted]),
      ?_⟩
    rw [run_append, run_cons, run_append,
      Service.step_joins (by rw [session]; exact unserved)]
    refine ⟨⟨together.sip, together.course⟩, ?_, still.trans (owed.trans serves.owed),
      Server.openConn_pointed serves.pointed alone⟩
    rw [Server.openConn_session (Bool.eq_false_iff.mpr opens) alone, ← serves.session, ← session]
    exact congrArg (Session.offer _ _) later

theorem acceptConn (serves : Serves setup system service) (env : TurnEnv) :
    Served setup service (acceptConn setup env system).system := by
  unfold System.acceptConn
  cases env.accept with
  | some status =>
      dsimp only [SystemLoop.system]
      split
      · exact serves.closeConn env.beforeClose
      · exact .here serves
  | none =>
      dsimp only [SystemLoop.system]
      split
      · refine .one .passes ⟨⟨serves.inStep.sip, serves.inStep.course⟩, ?_, serves.owed, ?_⟩
        · rw [Service.step, Server.refuseConn_session, World.session_accept, serves.session]
        · exact Server.refuseConn_pointed.mpr serves.pointed
      · rename_i inactive
        exact serves.openConn (Bool.eq_false_iff.mpr inactive) env.opening

theorem iteration (serves : Serves setup system service) (env : TurnEnv) :
    Served setup service (iteration setup env system).system := by
  refine (serves.callbacks env.idle).next fun other serves => ?_
  unfold System.iteration
  dsimp only
  split
  · split
    · exact .here serves
    · dsimp only [SystemLoop.system]
      split
      · exact serves.closeConn env.beforeClose
      · exact .here serves
  · exact .here serves
  · rename_i conn listen _
    refine (serves.serveConn env conn).next fun other serves => ?_
    split
    · exact serves.acceptConn env
    · exact .here serves

theorem step {loop : SystemLoop} (serves : Serves setup loop.system service)
    (input : SystemInput) : Served setup service (step setup loop input).system := by
  cases loop with
  | returned => exact .here serves
  | running system =>
      cases input with
      | stop beforeClose =>
          dsimp only [System.step, SystemLoop.system]
          split
          · exact Serves.closeConn serves beforeClose
          · exact .here serves
      | iterate env => exact Serves.iteration serves env

end Serves

/-- Wherever the service has done what the daemon has done, it can go on as the daemon does. -/
theorem run_served {loop : SystemLoop} (serves : Serves setup loop.system service)
    (inputs : List SystemInput) : Served setup service (run setup loop inputs).system :=
  @reaches_run _ _ _ _ (System.step setup) (Service.step setup)
    (fun loop service => Serves setup loop.system service)
    (fun _ _ input serves => serves.step input) loop service serves inputs

theorem start_served (setup : Setup) (inputs : List SystemInput) :
    Served setup .start (run setup start inputs).system :=
  run_served .start inputs

/-- Between two moments at which the same client is served it is served throughout, by runs of
the service that do what the daemon does. -/
theorem kept_between {setup : Setup} {early late : List SystemInput} {sock : Nat}
    (before : (run setup start early).system.world.connected = some sock)
    (after : (run setup start (early ++ late)).system.world.connected = some sock) :
    ∃ acts more, let base := Service.run setup .start acts
      let service := Service.run setup base more
      Serves setup (run setup start early).system base ∧
      Serves setup (run setup start (early ++ late)).system service ∧
      Service.Kept setup base sock service := by
  obtain ⟨acts, serves⟩ := start_served setup early
  obtain ⟨more, still⟩ := run_served serves late
  have client : (Service.run setup .start acts).session.client = some sock := by
    rw [serves.session]
    exact before
  have last : (run setup (run setup start early) late) = run setup start (early ++ late) :=
    (run_append _ _ _ _).symm
  rw [last] at still
  have kept : Service.Kept setup (Service.run setup .start acts) sock
      (Service.run setup .start acts) := by
    refine ⟨client, Service.client_below setup acts client, fun offer owed => ?_, [], [], ?_, ?_,
      ?_, rfl⟩
    · rw [serves.owed] at owed
      cases owed
    · exact (List.append_nil _).symm
    · exact (List.append_nil _).symm
    · exact List.forall_mem_nil _
  refine ⟨acts, more, serves, still, Service.kept_run kept ?_⟩
  rw [still.session]
  exact after

/-- The trace of a run that goes on is that of the run so far and what the server adds. -/
theorem trace_grows (setup : Setup) (early late : List SystemInput) :
    Grown setup.build.lib (run setup start early).system.world
      (run setup start (early ++ late)).system.world := by
  obtain ⟨serverInputs, same⟩ := run_refines setup (run setup start early) late
  have grown := Grown.run setup.server (run setup start early).loop serverInputs
  rw [same, loop_world, loop_world] at grown
  rw [run, Machine.run_append]
  exact grown

/-- When the offers since then are these, they are those of the observations since then. -/
theorem offers_added {before after : World} {added : List Obs} {offers : List Offer}
    (trace : after.trace = before.trace ++ added)
    (session : after.session.offered = before.session.offered ++ offers) :
    added.filterMap Obs.offered = offers := by
  have all : after.session.offered = before.session.offered ++ added.filterMap Obs.offered := by
    change after.trace.filterMap Obs.offered = _
    rw [trace, List.filterMap_append]
    rfl
  exact List.append_cancel_left (all.symm.trans session)

/-- Between two such moments every write but a refusal is to this client, and those of callbacks
are the writes of the events that the SIP side has pushed in between. -/
theorem pushes_delivered {setup : Setup} {early late : List SystemInput} {sock : Nat}
    (before : (run setup start early).system.world.connected = some sock)
    (after : (run setup start (early ++ late)).system.world.connected = some sock) :
    ∃ acts more pushed added, let base := Service.run setup .start acts
      let service := Service.run setup base more
      Serves setup (run setup start early).system base ∧
      Serves setup (run setup start (early ++ late)).system service ∧
      service.sip.daemon.log = base.sip.daemon.log ++ pushed ∧
      (run setup start (early ++ late)).system.world.trace =
        (run setup start early).system.world.trace ++ added ∧
      (∀ offer ∈ added.filterMap Obs.offered, offer.sock = sock) ∧
      List.Forall₂ (Obs.Conveys setup.build.lib sock) (pushed.filterMap Action.pushed)
        (added.filter Obs.isCallback) := by
  obtain ⟨acts, more, serves, still, kept⟩ := kept_between before after
  obtain ⟨pushed, offers, log, all, only, events⟩ := kept.offers
  obtain ⟨added, trace, honest⟩ := trace_grows setup early late
  rw [still.session, serves.session] at all
  rw [← offers_added trace all] at only events
  exact ⟨acts, more, pushed, added, serves, still, log, trace, only,
    conveys_offered honest only events⟩

/-- Between two moments at which the same client is served, every write but a refusal is to that
client; and those of callbacks are, one for each and in their order, the writes of the events that
the SIP side has pushed in between, whole when they succeeded and cut otherwise. -/
theorem events_delivered (setup : Setup) (early late : List SystemInput) (sock : Nat)
    (before : (run setup start early).system.world.connected = some sock)
    (after : (run setup start (early ++ late)).system.world.connected = some sock) :
    let first := (run setup start early).system
    let last := (run setup start (early ++ late)).system
    ∃ pushed added, last.course.sip.daemon.log = first.course.sip.daemon.log ++ pushed ∧
      last.world.trace = first.world.trace ++ added ∧
      (∀ offer ∈ added.filterMap Obs.offered, offer.sock = sock) ∧
      List.Forall₂ (Obs.Conveys setup.build.lib sock) (pushed.filterMap Action.pushed)
        (added.filter Obs.isCallback) := by
  obtain ⟨acts, more, pushed, added, serves, still, log, delivered⟩ := pushes_delivered before after
  rw [still.inStep.sip, serves.inStep.sip] at log
  exact ⟨pushed, added, log, delivered⟩

section Concrete

/-- The client takes the event of one call, and three bytes of that of the next. -/
def clientTires : List SystemInput :=
  clientStalls.take 2 ++
    [.iterate { TurnEnv.calm .timedOut (.received []) with
      idle := [ringing .open, ringing (.stalled 3)] }]

theorem events_delivered_clientTires :
    let first := (run ⟨timeoutBuild, 5000⟩ start (clientTires.take 2)).system
    let last := (run ⟨timeoutBuild, 5000⟩ start clientTires).system
    (∃ pushed added, last.course.sip.daemon.log = first.course.sip.daemon.log ++ pushed ∧
      last.world.trace = first.world.trace ++ added ∧
      (∀ offer ∈ added.filterMap Obs.offered, offer.sock = 0) ∧
      List.Forall₂ (Obs.Conveys timeoutBuild.lib 0) (pushed.filterMap Action.pushed)
        (added.filter Obs.isCallback)) ∧
    (writesTo 0 last.world.trace).map (fun write => decide (write.2.status = .success)) =
      [true, true, true, false] :=
  ⟨events_delivered ⟨timeoutBuild, 5000⟩ (clientTires.take 2) (clientTires.drop 2) 0 rfl rfl,
    by decide +kernel⟩

end Concrete

end System
end Pjsocky
