import Pjsocky.Server.Lifecycle

/-!
# One reply per line

The part of a trace that concerns requests is its `dialogue`: lines delivered, handlers
run, and the messages that answer them. `Exchange` is what one line must come to and
`IsReply` which message answers it. The dialogue of every run is a sequence of such
exchanges (`dialogue_exchanges`): each line is answered by one message before the next
is dispatched. `Flow` watches for responses whose write fails: after one, the rest of
the buffered lines is not executed.
-/

namespace Pjsocky

open Support

/-- The observations that concern requests. -/
def Obs.isDialogue : Obs → Bool
  | .delivered _ _ => true
  | .ran _ => true
  | .wrote _ origin _ _ => origin = .response || origin = .rejection
  | _ => false

/-- The part of a trace that concerns requests. -/
def dialogue (trace : List Obs) : List Obs := trace.filter Obs.isDialogue

/-- Which message answers a line, from where it comes, and which handler runs. -/
inductive IsReply (srv : Server) (line : Bytes) : Origin → Option CmdFn → JsonElem → Prop where
  /-- No object with a string `id`: an error event, and no handler runs. -/
  | unidentified (text : Bytes)
      (without : ∀ members unread id, srv.lib.parse line = some (.obj members, unread) →
        jsonFind (.obj members) "id" ≠ some (.str id)) :
      IsReply srv line .rejection none
        (.obj [(ascii "event", .str (ascii "error")),
          (ascii "data", .obj [(ascii "code", .str (ascii "bad_request")),
            (ascii "message", .str text)])])
  /-- No string `cmd`. -/
  | invalid {members : Members} {unread : Nat} {id : Bytes} (text : Bytes)
      (parsed : srv.lib.parse line = some (.obj members, unread))
      (identified : jsonFind (.obj members) "id" = some (.str id))
      (without : ∀ cmd, jsonFind (.obj members) "cmd" ≠ some (.str cmd)) :
      IsReply srv line .response none
        (.obj [(ascii "id", .str id), (ascii "ok", .bool false),
          (ascii "error", .obj [(ascii "code", .str (ascii "bad_request")),
            (ascii "message", .str text)])])
  /-- A `cmd` that the table does not list. -/
  | unknown {members : Members} {unread : Nat} {id cmd : Bytes} (text : Bytes)
      (parsed : srv.lib.parse line = some (.obj members, unread))
      (identified : jsonFind (.obj members) "id" = some (.str id))
      (command : jsonFind (.obj members) "cmd" = some (.str cmd))
      (unlisted : ∀ entry ∈ cmdTable, entry.1 ≠ cmd) :
      IsReply srv line .response none
        (.obj [(ascii "id", .str id), (ascii "ok", .bool false),
          (ascii "error", .obj [(ascii "code", .str (ascii "unknown_command")),
            (ascii "message", .str text)])])
  /-- The handler of a listed `cmd` failed. -/
  | failed {members : Members} {unread : Nat} {id cmd : Bytes} {fn : CmdFn} (code text : Bytes)
      (parsed : srv.lib.parse line = some (.obj members, unread))
      (identified : jsonFind (.obj members) "id" = some (.str id))
      (command : jsonFind (.obj members) "cmd" = some (.str cmd))
      (listed : (cmd, fn) ∈ cmdTable) :
      IsReply srv line .response (some fn)
        (.obj [(ascii "id", .str id), (ascii "ok", .bool false),
          (ascii "error", .obj [(ascii "code", .str code), (ascii "message", .str text)])])
  /-- The handler of a listed `cmd` succeeded. -/
  | succeeded {members : Members} {unread : Nat} {id cmd : Bytes} {fn : CmdFn}
      (result : Members) (parsed : srv.lib.parse line = some (.obj members, unread))
      (identified : jsonFind (.obj members) "id" = some (.str id))
      (command : jsonFind (.obj members) "cmd" = some (.str cmd))
      (listed : (cmd, fn) ∈ cmdTable) :
      IsReply srv line .response (some fn)
        (.obj [(ascii "id", .str id), (ascii "ok", .bool true), (ascii "result", .obj result)])

/-- A line, the handler that ran, and the message that answers it on the same socket. -/
structure Exchange where
  sock : Nat
  line : Bytes
  ran : Option CmdFn
  origin : Origin
  message : JsonElem
  result : SendResult

/-- The exchange as it shows in the dialogue. -/
def Exchange.observations (exchange : Exchange) : List Obs :=
  .delivered exchange.sock exchange.line ::
    (exchange.ran.toList.map .ran ++
      [.wrote exchange.sock exchange.origin exchange.message exchange.result])

/-- The message is the reply to the line, and a write that succeeds puts all of it on
the socket. -/
def Exchange.Valid (srv : Server) (exchange : Exchange) : Prop :=
  IsReply srv exchange.line exchange.origin exchange.ran exchange.message ∧
    ∃ sent, Written srv.lib exchange.message sent exchange.result

/-- Whether lines may still be executed on the current connection. -/
inductive Flow where
  | running
  | halted
  | broken
deriving DecidableEq, Repr

/-- A response whose write fails halts the flow until a connection is published. -/
def Flow.next : Flow → Obs → Flow
  | .broken, _ => .broken
  | _, .published _ => .running
  | .running, .wrote _ .response _ result =>
      if result.status = .success then .running else .halted
  | .running, _ => .running
  | .halted, obs => if obs.isDialogue then .broken else .halted

/-- The flow after a trace. -/
def flowAfter (trace : List Obs) : Flow := Machine.run Flow.next .running trace

/-- The observations that concern neither requests nor the opening of connections. -/
def Obs.Aside (obs : Obs) : Prop := obs.isDialogue = false ∧ ∀ sock, obs ≠ .published sock

@[simp] theorem dialogue_append (first second : List Obs) :
    dialogue (first ++ second) = dialogue first ++ dialogue second :=
  List.filter_append _ _

theorem flowAfter_append (first second : List Obs) :
    flowAfter (first ++ second) = Machine.run Flow.next (flowAfter first) second :=
  Machine.run_append _ _ _ _

/-- Asides do not move the flow. -/
theorem run_aside {added : List Obs} (aside : ∀ obs ∈ added, obs.Aside) (flow : Flow) :
    Machine.run Flow.next flow added = flow := by
  induction added with
  | nil => rfl
  | cons obs rest ih =>
      have here := aside obs List.mem_cons_self
      have same : flow.next obs = flow := by
        obtain ⟨outside, notPublished⟩ := here
        cases obs with
        | published sock => exact absurd rfl (notPublished sock)
        | wrote sock origin message result =>
            cases origin <;> cases flow <;> simp_all [Flow.next, Obs.isDialogue]
        | _ => cases flow <;> simp_all [Flow.next, Obs.isDialogue]
      rw [Machine.run_cons, same]
      exact ih fun obs member => aside obs (List.mem_cons_of_mem _ member)

/-- The second state adds only asides to the trace of the first. -/
def AsideFrom (before after : World) : Prop :=
  ∃ added, after.trace = before.trace ++ added ∧ ∀ obs ∈ added, obs.Aside

namespace AsideFrom

variable {first second third : World}

theorem refl (world : World) : AsideFrom world world := ⟨[], by simp, by simp⟩

theorem trans (left : AsideFrom first second) (right : AsideFrom second third) :
    AsideFrom first third := by
  obtain ⟨early, earlyTrace, earlyAside⟩ := left
  obtain ⟨late, lateTrace, lateAside⟩ := right
  refine ⟨early ++ late, by rw [lateTrace, earlyTrace, List.append_assoc], fun obs member => ?_⟩
  rcases List.mem_append.mp member with isEarly | isLate
  · exact earlyAside obs isEarly
  · exact lateAside obs isLate

theorem dialogue_eq (aside : AsideFrom first second) :
    dialogue second.trace = dialogue first.trace := by
  obtain ⟨added, trace, isAside⟩ := aside
  have nothing : dialogue added = [] :=
    List.filter_eq_nil_iff.mpr fun obs member => by simp [(isAside obs member).1]
  rw [trace, dialogue_append, nothing, List.append_nil]

theorem flow_eq (aside : AsideFrom first second) :
    flowAfter second.trace = flowAfter first.trace := by
  obtain ⟨added, trace, isAside⟩ := aside
  rw [trace, flowAfter_append, run_aside isAside]

end AsideFrom

variable {srv : Server} {world : World}

theorem eventsPush_aside {origin : Origin} (notResponse : origin ≠ .response)
    (notRejection : origin ≠ .rejection) (event : Event) (env : PushEnv)
    (timed : srv.Timed world) :
    AsideFrom world (srv.eventsPush origin event env world).2 := by
  rcases Server.eventsPush_cases timed with ⟨-, nothing⟩ | ⟨sock, result, -, push, -⟩
  · rw [nothing]
    exact .refl world
  · rw [push]
    exact ⟨_, rfl, by simp [Obs.Aside, Obs.isDialogue, notResponse, notRejection]⟩

theorem callbacks_aside (pushes : List Push) (timed : srv.Timed world) :
    AsideFrom world (srv.callbacks pushes world) :=
  Server.callbacks_rule timed (.refl world) fun push _ _ timed aside =>
    aside.trans (eventsPush_aside (by decide) (by decide) push.event push.env timed)

theorem mem_cmdTable_of_findCmd {cmd : Bytes} {fn : CmdFn} (found : findCmd cmd = some fn) :
    (cmd, fn) ∈ cmdTable := by
  obtain ⟨entry, isEntry, rfl⟩ := Option.map_eq_some_iff.mp found
  have named : entry.1 = cmd := by simpa using List.find?_some isEntry
  rw [← named]
  exact List.mem_of_find?_eq_some isEntry

theorem unlisted_of_findCmd {cmd : Bytes} (missing : findCmd cmd = none) :
    ∀ entry ∈ cmdTable, entry.1 ≠ cmd := by
  intro entry member
  have absent := List.find?_eq_none.mp (Option.map_eq_none_iff.mp missing) entry member
  simpa using absent

/-- What `pjsocky_dispatch_line` answers is the reply to the line. -/
theorem isReply_of_answered {handlers : Handlers} {line : Bytes} {response : JsonElem}
    {ran : Option CmdFn} (answered : dispatchLine srv.lib handlers line = .answered response ran) :
    IsReply srv line .response ran response := by
  simp only [dispatchLine] at answered
  split at answered
  · rename_i members unread parsed
    split at answered
    · rename_i id identified
      split at answered
      · rename_i cmd command
        split at answered
        · rename_i fn found
          split at answered
          · cases answered
            exact .failed _ _ parsed identified command (mem_cmdTable_of_findCmd found)
          · cases answered
            exact .succeeded _ parsed identified command (mem_cmdTable_of_findCmd found)
        · rename_i missing
          cases answered
          exact .unknown _ parsed identified command (unlisted_of_findCmd missing)
      · rename_i without
        cases answered
        exact .invalid _ parsed identified fun cmd command => without cmd command
    · cases answered
  · cases answered

/-- A line that is not dispatched is not an object with a string `id`. -/
theorem isReply_of_rejected {handlers : Handlers} {line : Bytes} {status : Status}
    (rejected : dispatchLine srv.lib handlers line = .rejected status) :
    IsReply srv line .rejection none
      (Event.message srv.lib (.error (ascii "bad_request")
        (ascii "not a JSON object with a string \"id\""))) := by
  refine .unidentified _ fun members unread id parsed identified => ?_
  simp only [dispatchLine, parsed, identified] at rejected
  repeat' split at rejected
  all_goals cases rejected

theorem dialogue_executed (sock : Nat) (text : Bytes) (ran : Option CmdFn) (world : World) :
    dialogue ((world.record (.delivered sock text)).executed ran).trace =
      dialogue world.trace ++ .delivered sock text :: ran.toList.map .ran := by
  cases ran <;> simp [World.executed, World.record, dialogue, Obs.isDialogue]

theorem flow_executed (sock : Nat) (text : Bytes) (ran : Option CmdFn)
    (running : flowAfter world.trace = .running) :
    flowAfter ((world.record (.delivered sock text)).executed ran).trace = .running := by
  cases ran <;>
    simp [World.executed, World.record, flowAfter_append, running, Flow.next]

/-- Handling a line is one exchange on the published socket. Only the write of a
response decides whether the connection is kept. -/
theorem handleLine_exchange (env : LineEnv) (text : Bytes) {sock : Nat}
    (connected : world.connected = some sock) (timed : srv.Timed world)
    (running : flowAfter world.trace = .running) :
    let handled := srv.handleLine env text world
    (∃ exchange : Exchange, exchange.Valid srv ∧
      dialogue handled.2.trace = dialogue world.trace ++ exchange.observations) ∧
      flowAfter handled.2.trace = if handled.1 = .success then .running else .halted := by
  obtain ⟨ran, origin, message, sent, result, handled, written, dispatched⟩ :=
    Server.handleLine_cases env text connected timed
  have aside := callbacks_aside env.before (Server.executed_timed sock text ran timed)
  have flow := aside.flow_eq.trans (flow_executed sock text ran running)
  have reply : (origin = .response ∨ origin = .rejection) ∧
      IsReply srv text origin ran message := by
    cases isDispatched : dispatchLine srv.lib env.handlers text with
    | rejected status =>
        rw [isDispatched] at dispatched
        obtain ⟨rfl, rfl, rfl, -⟩ := dispatched
        exact ⟨.inr rfl, isReply_of_rejected isDispatched⟩
    | answered response fn =>
        rw [isDispatched] at dispatched
        obtain ⟨rfl, rfl, rfl, -⟩ := dispatched
        exact ⟨.inl rfl, isReply_of_answered isDispatched⟩
  simp only [handled]
  refine ⟨⟨⟨sock, text, ran, origin, message, result⟩, ⟨reply.2, sent, written⟩, ?_⟩, ?_⟩
  · rw [World.record, dialogue_append, aside.dialogue_eq, dialogue_executed]
    rcases reply.1 with rfl | rfl <;> simp [dialogue, Obs.isDialogue, Exchange.observations]
  · rw [World.record, flowAfter_append, flow]
    rcases reply.1 with rfl | rfl <;> simp [Flow.next]

/-- The requests of a trace form a sequence of exchanges, and none is executed after a
response whose write failed. -/
structure Orderly (srv : Server) (trace : List Obs) : Prop where
  exchanges : ∃ exchanges : List Exchange, (∀ exchange ∈ exchanges, exchange.Valid srv) ∧
    dialogue trace = exchanges.flatMap Exchange.observations
  unbroken : flowAfter trace ≠ .broken

namespace Orderly

theorem append {trace later : List Obs} (orderly : Orderly srv trace) {exchange : Exchange}
    (valid : exchange.Valid srv)
    (grown : dialogue later = dialogue trace ++ exchange.observations)
    (unbroken : flowAfter later ≠ .broken) : Orderly srv later := by
  obtain ⟨exchanges, allValid, isDialogue⟩ := orderly.exchanges
  refine ⟨⟨exchanges ++ [exchange], fun other member => ?_, ?_⟩, unbroken⟩
  · rcases List.mem_append.mp member with old | new
    · exact allValid other old
    · rw [List.mem_singleton.mp new]
      exact valid
  · rw [grown, isDialogue, List.flatMap_append, List.flatMap_singleton]

theorem aside {after : World} (orderly : Orderly srv world.trace)
    (aside : AsideFrom world after) : Orderly srv after.trace := by
  refine ⟨?_, aside.flow_eq ▸ orderly.unbroken⟩
  rw [aside.dialogue_eq]
  exact orderly.exchanges

end Orderly

/-- What holds while the published connection is kept: lines may be executed. -/
structure Flowing (srv : Server) (world : World) : Prop where
  orderly : Orderly srv world.trace
  running : world.connected ≠ none → flowAfter world.trace = .running

theorem closeConn_aside (before : List Push) (timed : srv.Timed world) :
    AsideFrom world (srv.closeConn before world) := by
  rw [Server.closeConn_eq]
  exact (callbacks_aside before timed).trans
    ⟨_, rfl, by simp [Obs.Aside, Obs.isDialogue]⟩

theorem refuseConn_aside (env : RefuseEnv) (sock : Nat) (world : World) :
    AsideFrom world (srv.refuseConn env sock world) := by
  obtain ⟨added, refused, isAdded⟩ := srv.refuseConn_eq env sock world
  refine ⟨added, by rw [refused], ?_⟩
  rcases isAdded with rfl | ⟨result, -, rfl⟩ <;> simp [Obs.Aside, Obs.isDialogue]

theorem accept_aside (world : World) : AsideFrom world world.accept :=
  ⟨_, rfl, by simp [Obs.Aside, Obs.isDialogue]⟩

namespace Flowing

/-- Asides that keep the publication keep the flow. -/
theorem aside {after : World} (flowing : Flowing srv world) (aside : AsideFrom world after)
    (same : after.connected = world.connected) : Flowing srv after :=
  ⟨flowing.orderly.aside aside, fun connected =>
    aside.flow_eq.trans (flowing.running (same ▸ connected))⟩

theorem callbacks (flowing : Flowing srv world) (timed : srv.Timed world) (pushes : List Push) :
    Flowing srv (srv.callbacks pushes world) :=
  flowing.aside (callbacks_aside pushes timed) (Server.callbacks_quiet pushes timed).connected_eq

theorem close (orderly : Orderly srv world.trace) (timed : srv.Timed world)
    (before : List Push) : Flowing srv (srv.closeConn before world) :=
  ⟨orderly.aside (closeConn_aside before timed),
    fun connected => absurd (by rw [Server.closeConn_eq]; rfl) connected⟩

/-- Handling the input of the active connection is a sequence of exchanges, of which
only the last may have a response whose write fails. -/
theorem serveInput (flowing : Flowing srv world) (timed : srv.Timed world) {sock : Nat}
    (published : world.connected = some sock) (env : IterationEnv) :
    Flowing srv (srv.serveInput env world) := by
  let kept (state : World) := Quiet srv.lib world state ∧ Flowing srv state
  let dropped (state : World) := Quiet srv.lib world state ∧ Orderly srv state.trace
  have served : kept (srv.serveInput env world) ∨
      ∃ state, dropped state ∧ srv.serveInput env world = srv.closeConn env.beforeClose state := by
    refine Server.serveInput_rule (fun state framing sameSock sameTimeout => ?_)
      (fun state holds => ⟨holds.1, holds.2.orderly⟩) (fun index text state _ holds => ?_)
      (fun state holds => ?_) ⟨.refl world, flowing⟩
    · have reframed : ∀ quiet : Quiet srv.lib world state,
          Quiet srv.lib state (state.setFraming framing) := fun quiet =>
        .setFraming (sameSock.trans quiet.framingSock.symm) (sameTimeout.trans quiet.timeout.symm)
      exact ⟨fun holds => ⟨holds.1.trans (reframed holds.1),
          holds.2.aside (.refl state) (reframed holds.1).connected_eq⟩,
        fun holds => ⟨holds.1.trans (reframed holds.1), holds.2⟩⟩
    · have after := timed.quiet holds.1
      have connected := holds.1.connected_eq.trans published
      have quiet := holds.1.trans (Server.handleLine_quiet (env.line index) text connected after)
      obtain ⟨⟨exchange, valid, grown⟩, flow⟩ := handleLine_exchange (env.line index) text
        connected after (holds.2.running (by simp [connected]))
      simp only at grown flow ⊢
      split at flow
      · rename_i success
        rw [if_pos success]
        exact ⟨quiet, holds.2.orderly.append valid grown (by simp [flow]), fun _ => flow⟩
      · rename_i failure
        rw [if_neg failure]
        exact ⟨quiet, holds.2.orderly.append valid grown (by simp [flow])⟩
    · have after := timed.quiet holds.1
      have calls := Server.callbacks_quiet env.beforeOversized after
      have timedThen := after.quiet calls
      refine ⟨(holds.1.trans calls).trans
        (Server.eventsPush_quiet (by decide) _ env.oversized timedThen), ?_⟩
      exact holds.2.orderly.aside ((callbacks_aside env.beforeOversized after).trans
        (eventsPush_aside (by decide) (by decide) _ env.oversized timedThen))
  rcases served with ⟨-, kept⟩ | ⟨state, ⟨quiet, orderly⟩, closed⟩
  · exact kept
  · rw [closed]
    exact .close orderly (timed.quiet quiet) _

/-- A connection that is opened starts a new flow. -/
theorem openConn (flowing : Flowing srv world) (unpublished : world.events = .null)
    (env : OpenEnv) :
    Flowing srv (srv.openConn env world.nextSock world.accept) := by
  have accepted : Flowing srv world.accept := flowing.aside (accept_aside world) rfl
  have stillUnpublished : world.accept.events = .null := unpublished
  rw [Server.openConn_eq stillUnpublished]
  split
  · have flow : flowAfter (srv.publish world.nextSock world.accept).trace = .running := by
      rw [Server.publish_trace, flowAfter_append]
      cases before : flowAfter world.accept.trace with
      | broken => exact absurd before accepted.orderly.unbroken
      | _ => rfl
    have published : Flowing srv (srv.publish world.nextSock world.accept) := by
      refine ⟨⟨?_, by simp [flow]⟩, fun _ => flow⟩
      have same : dialogue (srv.publish world.nextSock world.accept).trace =
          dialogue world.accept.trace := by
        simp [Server.publish_trace, dialogue, Obs.isDialogue]
      rw [same]
      exact accepted.orderly.exchanges
    have timed := srv.publish_timed world.nextSock world.accept
    have timedThen := timed.quiet (Server.callbacks_quiet env.beforeHello timed)
    have greeted := (callbacks_aside env.beforeHello timed).trans
      (eventsPush_aside (by decide : Origin.hello ≠ .response) (by decide) .hello env.hello
        timedThen)
    exact published.aside greeted (Server.greet_quiet env _ _).connected_eq
  · exact accepted.aside ⟨_, rfl, by simp [Obs.Aside, Obs.isDialogue]⟩ rfl

theorem step {loop : Loop} {input : LoopInput} (single : SingleConnection srv loop.world)
    (flowing : Flowing srv loop.world) : Flowing srv (srv.step loop input).world := by
  refine Server.step_rule flowing (fun world before isLoop _ _ => ?_) (fun world env isLoop _ => ?_)
  · subst isLoop
    exact .close flowing.orderly single.timed before
  · subst isLoop
    have idle : SingleConnection srv (srv.callbacks env.idle world) :=
      single.quiet (Server.callbacks_quiet env.idle single.timed)
    have flowingIdle := flowing.callbacks single.timed env.idle
    have both : SingleConnection srv (srv.iteration env world).world ∧
        Flowing srv (srv.iteration env world).world := by
      refine @Server.iteration_rule srv (fun next => SingleConnection srv next ∧ Flowing srv next)
        env world ⟨idle, flowingIdle⟩ (fun active => ?_) (fun _ next holds active => ?_)
        (fun next holds active => ?_) (fun next holds opens => ?_)
      · have activeIdle : (srv.callbacks env.idle world).conn.active = true := by
          rwa [Server.callbacks_conn]
        exact ⟨idle.serveInput activeIdle env,
          flowingIdle.serveInput idle.timed (idle.connected_active activeIdle) env⟩
      · exact ⟨holds.1.close active _, .close holds.2.orderly holds.1.timed _⟩
      · refine ⟨holds.1.refuse _, holds.2.aside ((accept_aside next).trans
          (refuseConn_aside env.refusing next.nextSock next.accept)) ?_⟩
        obtain ⟨added, refused, -⟩ := srv.refuseConn_eq env.refusing next.nextSock next.accept
        rw [refused]
        rfl
      · exact ⟨holds.1.openConn opens.inactive _,
          holds.2.openConn (holds.1.events_null opens.inactive) _⟩
    exact both.2

end Flowing

/-- The requests of every run are orderly. -/
theorem orderly_run (srv : Server) (inputs : List LoopInput) :
    Orderly srv (Machine.run srv.step Server.start inputs).world.trace := by
  have both : SingleConnection srv (Machine.run srv.step Server.start inputs).world ∧
      Flowing srv (Machine.run srv.step Server.start inputs).world := by
    refine @Machine.invariant_always _ _ srv.step
      (fun loop => SingleConnection srv loop.world ∧ Flowing srv loop.world)
      (fun loop input holds => ⟨holds.1.step input, holds.2.step holds.1⟩) _
      ⟨.start, ⟨⟨[], by simp, rfl⟩, by decide⟩, fun _ => rfl⟩ inputs
  exact both.2.orderly

theorem run_broken_flow (trace : List Obs) : Machine.run Flow.next .broken trace = .broken := by
  induction trace with
  | nil => rfl
  | cons obs rest ih => exact ih

/-- A halted flow that does not break has no more dialogue until a publication. -/
theorem halted_silent {between later : List Obs} {obs : Obs}
    (unbroken : Machine.run Flow.next .halted (between ++ obs :: later) ≠ .broken)
    (none : ∀ sock, .published sock ∉ between) : obs.isDialogue = false := by
  induction between with
  | nil =>
      by_contra spoken
      rw [List.nil_append, Machine.run_cons] at unbroken
      have broken : Flow.next .halted obs = .broken := by
        cases obs <;> simp_all [Flow.next, Obs.isDialogue]
      rw [broken, run_broken_flow] at unbroken
      exact unbroken rfl
  | cons first rest ih =>
      have same : Flow.next .halted first = .halted ∨ Flow.next .halted first = .broken := by
        cases first with
        | published sock => exact absurd List.mem_cons_self (none sock)
        | _ =>
            simp only [Flow.next]
            split <;> simp
      rw [List.cons_append, Machine.run_cons] at unbroken
      rcases same with halted | broken
      · rw [halted] at unbroken
        exact ih unbroken fun sock member => none sock (List.mem_cons_of_mem _ member)
      · rw [broken, run_broken_flow] at unbroken
        exact absurd rfl unbroken

/-- One reply per line, in order. In every run the requests are a sequence of exchanges:
a line is delivered, at most one handler runs, and one message answers it on the same
socket, the reply its content calls for, all of it if the write succeeds; only then is
the next line delivered. After a response whose write failed no line is delivered and
no handler runs until another connection is published. -/
theorem replies_in_order (srv : Server) (inputs : List LoopInput) :
    let trace := (Machine.run srv.step Server.start inputs).world.trace
    (∃ exchanges : List Exchange,
      dialogue trace = exchanges.flatMap Exchange.observations ∧
        ∀ exchange ∈ exchanges,
          IsReply srv exchange.line exchange.origin exchange.ran exchange.message ∧
            (exchange.result.status = .success →
              exchange.result.accepted = srv.lib.writer.line exchange.message)) ∧
      ∀ before sock message result between obs later,
        trace = before ++ .wrote sock .response message result :: (between ++ obs :: later) →
        result.status ≠ .success → (∀ next, .published next ∉ between) →
        obs.isDialogue = false := by
  have orderly := orderly_run srv inputs
  refine ⟨?_, ?_⟩
  · obtain ⟨exchanges, valid, isDialogue⟩ := orderly.exchanges
    refine ⟨exchanges, isDialogue, fun exchange member => ?_⟩
    obtain ⟨reply, sent, written⟩ := valid exchange member
    refine ⟨reply, fun success => ?_⟩
    rw [written.accepted, written.whole.mp success, List.take_length]
  · intro before sock message result between obs later split failed none
    have unbroken := orderly.unbroken
    rw [split, flowAfter_append, Machine.run_cons] at unbroken
    cases flow : flowAfter before with
    | running =>
        rw [flow] at unbroken
        simp only [Flow.next, if_neg failed] at unbroken
        exact halted_silent unbroken none
    | halted =>
        rw [flow] at unbroken
        exact absurd (run_broken_flow _) unbroken
    | broken =>
        rw [flow] at unbroken
        exact absurd (run_broken_flow _) unbroken

end Pjsocky
