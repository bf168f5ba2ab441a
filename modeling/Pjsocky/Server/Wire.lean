import Pjsocky.Server.Lifecycle

/-!
# What a client receives

`wire` is the byte stream of one socket. It is `WellFramed` when at every moment it
is a sequence of complete lines, followed by at most the beginning of one more after
which nothing comes. The lock makes every message one contiguous piece of the stream,
so the framing only depends on what happens after a piece that was cut: a response
that is cut makes `handle_line` drop the connection, but nobody looks at the status
of a pushed event. `Careful` says that no event is cut, and that no event follows a
response that is.
-/

namespace Pjsocky

open Support

/-- The bytes an observation puts on a socket. -/
def Obs.bytesTo (sock : Nat) : Obs → Bytes
  | .wrote other _ _ result => if other = sock then result.accepted else []
  | _ => []

/-- The bytes put on a socket. -/
def wire (sock : Nat) (trace : List Obs) : Bytes := trace.flatMap (Obs.bytesTo sock)

@[simp] theorem wire_append (sock : Nat) (first second : List Obs) :
    wire sock (first ++ second) = wire sock first ++ wire sock second :=
  List.flatMap_append

@[simp] theorem wire_nil (sock : Nat) : wire sock [] = [] := rfl

@[simp] theorem wire_wrote (sock : Nat) (origin : Origin) (message : JsonElem)
    (result : SendResult) : wire sock [.wrote sock origin message result] = result.accepted := by
  simp [wire, Obs.bytesTo]

/-- A sequence of complete lines, each a JSON object. -/
def CompleteLines (lib : Pjlib) (bytes : Bytes) : Prop :=
  ∃ messages : List JsonElem, (∀ message ∈ messages, ∃ members, message = .obj members) ∧
    bytes = messages.flatMap lib.writer.line

/-- A line that has begun and not ended. -/
def CutLine (lib : Pjlib) (bytes : Bytes) : Prop :=
  ∃ members, bytes <+: lib.writer.line (.obj members) ∧ bytes ≠ lib.writer.line (.obj members)

/-- At every moment a socket has seen complete lines, and then possibly a cut one
after which nothing follows. -/
def WellFramed (lib : Pjlib) (sock : Nat) (trace : List Obs) : Prop :=
  ∀ early late, trace = early ++ late →
    ∃ whole tail, wire sock early = whole ++ tail ∧ CompleteLines lib whole ∧
      (tail = [] ∨ CutLine lib tail ∧ wire sock late = [])

variable {lib : Pjlib} {sock : Nat} {trace : List Obs}

theorem CompleteLines.nil : CompleteLines lib [] := ⟨[], by simp, rfl⟩

theorem CompleteLines.append_line {bytes : Bytes} (complete : CompleteLines lib bytes)
    {message : JsonElem} (isObject : ∃ members, message = .obj members) :
    CompleteLines lib (bytes ++ lib.writer.line message) := by
  obtain ⟨messages, objects, rfl⟩ := complete
  refine ⟨messages ++ [message], fun other member => ?_, ?_⟩
  · rcases List.mem_append.mp member with old | new
    · exact objects other old
    · rw [List.mem_singleton.mp new]
      exact isObject
  · rw [List.flatMap_append, List.flatMap_singleton]

/-- A message that went out whole or not at all leaves complete lines. -/
theorem CompleteLines.append {bytes : Bytes} (complete : CompleteLines lib bytes)
    {message : JsonElem} {sent : Nat} {result : SendResult}
    (written : Written lib message sent result)
    (clean : sent = 0 ∨ sent = (lib.writer.line message).length) :
    CompleteLines lib (bytes ++ result.accepted) := by
  rw [written.accepted]
  rcases clean with rfl | rfl
  · rwa [List.take_zero, List.append_nil]
  · rw [List.take_length]
    exact complete.append_line written.isObject

namespace WellFramed

theorem nil : WellFramed lib sock [] := by
  intro early late split
  obtain ⟨rfl, rfl⟩ := List.append_eq_nil_iff.mp split.symm
  exact ⟨[], [], rfl, CompleteLines.nil, .inl rfl⟩

/-- Splitting a trace that grew at its end. -/
private theorem concat {added : Obs}
    (before : ∀ early late, trace = early ++ late →
      ∃ whole tail, wire sock early = whole ++ tail ∧ CompleteLines lib whole ∧
        (tail = [] ∨ CutLine lib tail ∧ wire sock (late ++ [added]) = []))
    (last : ∃ whole tail, wire sock (trace ++ [added]) = whole ++ tail ∧
      CompleteLines lib whole ∧ (tail = [] ∨ CutLine lib tail)) :
    WellFramed lib sock (trace ++ [added]) := by
  intro early late split
  rcases List.eq_nil_or_concat late with rfl | ⟨late, final, rfl⟩
  · rw [List.append_nil] at split
    subst split
    simpa using last
  · rw [List.concat_eq_append, ← List.append_assoc] at split
    obtain ⟨same, isFinal⟩ := List.append_inj' split rfl
    cases isFinal
    simpa using before early late same

/-- An observation that puts nothing on the socket changes nothing. -/
theorem append_silent (framed : WellFramed lib sock trace) {added : Obs}
    (silent : wire sock [added] = []) : WellFramed lib sock (trace ++ [added]) := by
  refine concat (fun early late split => ?_) ?_
  · simpa [silent] using framed early late split
  · obtain ⟨whole, tail, content, complete, ending⟩ := framed trace [] (by simp)
    refine ⟨whole, tail, by simpa [silent] using content, complete, ending.imp_right And.left⟩

/-- After complete lines any message may be written, whole or cut. -/
theorem append_written (framed : WellFramed lib sock trace)
    (complete : CompleteLines lib (wire sock trace)) {origin : Origin} {message : JsonElem}
    {result : SendResult} (isObject : ∃ members, message = .obj members)
    (isPrefix : result.accepted <+: lib.writer.line message) :
    WellFramed lib sock (trace ++ [.wrote sock origin message result]) := by
  refine concat (fun early late split => ?_) ?_
  · obtain ⟨whole, tail, content, isComplete, ending⟩ := framed early late split
    rcases ending with empty | ⟨-, silent⟩
    · exact ⟨whole, tail, content, isComplete, .inl empty⟩
    · have same : wire sock trace = wire sock early := by simp [split, silent]
      exact ⟨_, [], (List.append_nil _).symm, same ▸ complete, .inl rfl⟩
  · rw [wire_append, wire_wrote]
    by_cases all : result.accepted = lib.writer.line message
    · refine ⟨_, [], (List.append_nil _).symm, ?_, .inl rfl⟩
      rw [all]
      exact complete.append_line isObject
    · obtain ⟨members, rfl⟩ := isObject
      exact ⟨_, _, rfl, complete, .inr ⟨members, isPrefix, all⟩⟩

end WellFramed

/-- The socket takes all of a response or nothing. -/
def WriteEnv.Clean (srv : Server) (message : JsonElem) (env : WriteEnv) : Prop :=
  let sent := sentBytes srv.lib.writer srv.writeTimeoutMsec message maxLine env
  sent = 0 ∨ sent = (srv.lib.writer.line message).length

/-- The socket takes all of an event or nothing. -/
def PushEnv.Clean (srv : Server) (message : JsonElem) (env : PushEnv) : Prop :=
  env.sent srv message = 0 ∨ env.sent srv message = (srv.lib.writer.line message).length

def Push.Clean (srv : Server) (push : Push) : Prop :=
  push.env.Clean srv (push.event.message srv.lib)

/-- The socket takes nothing of an event. -/
def Push.Silent (srv : Server) (push : Push) : Prop :=
  push.env.sent srv (push.event.message srv.lib) = 0

/-- Handling a line: no event is cut, and a response that is cut is the last thing
before the connection is closed. -/
def LineEnv.Clean (srv : Server) (beforeClose : List Push) (text : Bytes) (env : LineEnv) :
    Prop :=
  (∀ push ∈ env.before, push.Clean srv) ∧
    match dispatchLine srv.lib env.handlers text with
    | .rejected _ => env.reply.Clean srv srv.unparseable
    | .answered response _ =>
        env.reply.write.Clean srv response ∨ ∀ push ∈ beforeClose, push.Silent srv

/-- The same for all that may happen in an iteration while a connection is active,
given the state of its buffer. -/
structure IterationEnv.Clean (srv : Server) (framing : Framing) (env : IterationEnv) :
    Prop where
  idle : ∀ push ∈ env.idle, push.Clean srv
  line : ∀ (index : Nat) (text : Bytes), (env.lines framing)[index]? = some text →
    (env.line index).Clean srv env.beforeClose text
  beforeOversized : ∀ push ∈ env.beforeOversized, push.Clean srv
  oversized : env.oversized.Clean srv srv.tooLong ∨ ∀ push ∈ env.beforeClose, push.Silent srv
  beforeClose : ∀ push ∈ env.beforeClose, push.Clean srv

/-- No event is cut from the publication of a connection to its activation, if it gets
that far. -/
def OpenEnv.Clean (srv : Server) (env : OpenEnv) : Prop :=
  env.nonblocking = none → env.pool = true →
    (∀ push ∈ env.beforeHello, push.Clean srv) ∧
      env.hello.Clean srv (Event.hello.message srv.lib)

/-- The steps in which no event is cut, and no event follows a response that is. -/
def Server.Careful (srv : Server) : Loop → LoopInput → Prop
  | .returned _ _, _ => True
  | .running world, .stop before =>
      world.conn.active = true → ∀ push ∈ before, push.Clean srv
  | .running world, .iterate env =>
      (world.conn.active = true → env.Clean srv world.conn.framing) ∧
        ∀ next, srv.OpensIn env world next → env.opening.Clean srv

/-- Every socket's stream is well framed. -/
def Framed (lib : Pjlib) (world : World) : Prop := ∀ sock, WellFramed lib sock world.trace

/-- Every socket's stream is well framed, and the published one's next message starts
a line. -/
structure Tidy (lib : Pjlib) (world : World) : Prop where
  framed : Framed lib world
  whole : ∀ sock, world.connected = some sock → CompleteLines lib (wire sock world.trace)

section Steps

variable {srv : Server} {world : World} {origin : Origin} {message : JsonElem} {sent : Nat}
  {result : SendResult}

theorem wire_other {other : Nat} (different : sock ≠ other) :
    wire other [.wrote sock origin message result] = [] := by
  simp [wire, Obs.bytesTo, different]

/-- A message, cut or not, keeps the framing when it starts a line. -/
theorem Tidy.framed_wrote (tidy : Tidy lib world) (connected : world.connected = some sock)
    (written : Written lib message sent result) :
    Framed lib (world.record (.wrote sock origin message result)) := by
  intro other
  by_cases same : sock = other
  · subst same
    exact (tidy.framed sock).append_written (tidy.whole sock connected) written.isObject
      written.isPrefix
  · exact (tidy.framed other).append_silent (wire_other same)

/-- After a message that is not cut the next one starts a line again. -/
theorem Tidy.wrote (tidy : Tidy lib world) (connected : world.connected = some sock)
    (written : Written lib message sent result)
    (clean : sent = 0 ∨ sent = (lib.writer.line message).length) :
    Tidy lib (world.record (.wrote sock origin message result)) := by
  refine ⟨tidy.framed_wrote connected written, fun other published => ?_⟩
  have same : other = sock := Option.some.inj (published.symm.trans connected)
  subst same
  rw [World.record, wire_append, wire_wrote]
  exact (tidy.whole other connected).append written clean

/-- A message of which nothing goes out changes no stream. -/
theorem Framed.wrote_silent (framed : Framed lib world) (written : Written lib message 0 result) :
    Framed lib (world.record (.wrote sock origin message result)) := by
  intro other
  refine (framed other).append_silent ?_
  by_cases same : sock = other
  · subst same
    rw [wire_wrote, written.accepted, List.take_zero]
  · exact wire_other same

theorem Tidy.record (tidy : Tidy lib world) {obs : Obs} (silent : ∀ sock, wire sock [obs] = []) :
    Tidy lib (world.record obs) := by
  refine ⟨fun sock => (tidy.framed sock).append_silent (silent sock), fun sock connected => ?_⟩
  rw [World.record, wire_append, silent, List.append_nil]
  exact tidy.whole sock connected

theorem Tidy.push (tidy : Tidy srv.lib world) (timed : srv.Timed world) {event : Event}
    {env : PushEnv} (clean : env.Clean srv (event.message srv.lib)) :
    Tidy srv.lib (srv.eventsPush origin event env world).2 := by
  rcases Server.eventsPush_cases timed with ⟨-, nothing⟩ | ⟨sock, result, connected, push, written⟩
  · rwa [nothing]
  · rw [push]
    exact tidy.wrote connected written clean

theorem Tidy.push_framed (tidy : Tidy srv.lib world) (timed : srv.Timed world) (event : Event)
    (env : PushEnv) : Framed srv.lib (srv.eventsPush origin event env world).2 := by
  rcases Server.eventsPush_cases timed with ⟨-, nothing⟩ | ⟨sock, result, connected, push, written⟩
  · rw [nothing]
    exact tidy.framed
  · rw [push]
    exact tidy.framed_wrote connected written

theorem Framed.push_silent (framed : Framed srv.lib world) (timed : srv.Timed world)
    {event : Event} {env : PushEnv} (silent : env.sent srv (event.message srv.lib) = 0) :
    Framed srv.lib (srv.eventsPush origin event env world).2 := by
  rcases Server.eventsPush_cases timed with ⟨-, nothing⟩ | ⟨sock, result, connected, push, written⟩
  · rwa [nothing]
  · rw [push]
    exact framed.wrote_silent (silent ▸ written)

theorem Tidy.callbacks (tidy : Tidy srv.lib world) (timed : srv.Timed world)
    {pushes : List Push} (clean : ∀ push ∈ pushes, push.Clean srv) :
    Tidy srv.lib (srv.callbacks pushes world) :=
  Server.callbacks_rule timed tidy fun push member _ timed tidy =>
    tidy.push timed (clean push member)

theorem Framed.callbacks (framed : Framed srv.lib world) (timed : srv.Timed world)
    {pushes : List Push} (silent : ∀ push ∈ pushes, push.Silent srv) :
    Framed srv.lib (srv.callbacks pushes world) :=
  Server.callbacks_rule timed framed fun push member _ timed framed =>
    framed.push_silent timed (silent push member)

/-- Handling a line keeps the framing; when it asks to drop the connection, either the
next message still starts a line or none will come. -/
theorem Tidy.handleLine (tidy : Tidy srv.lib world) (timed : srv.Timed world)
    (connected : world.connected = some sock) {env : LineEnv} {text : Bytes}
    {beforeClose : List Push} (clean : env.Clean srv beforeClose text) :
    let result := srv.handleLine env text world
    if result.1 = .success then Tidy srv.lib result.2
    else Tidy srv.lib result.2 ∨
      Framed srv.lib result.2 ∧ ∀ push ∈ beforeClose, push.Silent srv := by
  obtain ⟨calls, reply⟩ := clean
  obtain ⟨ran, origin, message, sent, result, handled, written, dispatched⟩ :=
    Server.handleLine_cases env text connected timed
  have delivered : Tidy srv.lib (world.record (.delivered sock text)) := tidy.record fun _ => rfl
  have executed : Tidy srv.lib ((world.record (.delivered sock text)).executed ran) := by
    cases ran with
    | none => exact delivered
    | some fn => exact delivered.record fun _ => rfl
  have timedThen := Server.executed_timed sock text ran timed
  have called := executed.callbacks timedThen calls
  have published := (Server.callbacks_quiet env.before timedThen).connected_eq.trans
    ((Server.executed_connected sock text ran world).trans connected)
  simp only [handled]
  cases isDispatched : dispatchLine srv.lib env.handlers text with
  | rejected status =>
      rw [isDispatched] at reply dispatched
      obtain ⟨rfl, -, rfl, rfl⟩ := dispatched
      exact called.wrote published written reply
  | answered response fn =>
      rw [isDispatched] at reply dispatched
      obtain ⟨rfl, -, rfl, rfl⟩ := dispatched
      simp only [if_true]
      split
      · rename_i success
        exact called.wrote published written (.inr (written.whole.mp success))
      · rcases reply with clean | silent
        · exact .inl (called.wrote published written clean)
        · exact .inr ⟨called.framed_wrote published written, silent⟩

/-- Closing keeps the framing if the last events are clean, or silent after a cut. -/
theorem Tidy.close (timed : srv.Timed world) {before : List Push}
    (clean : ∀ push ∈ before, push.Clean srv)
    (last : Tidy srv.lib world ∨ Framed srv.lib world ∧ ∀ push ∈ before, push.Silent srv) :
    Tidy srv.lib (srv.closeConn before world) := by
  have framed : Framed srv.lib (srv.callbacks before world) := by
    rcases last with tidy | ⟨framed, silent⟩
    · exact (tidy.callbacks timed clean).framed
    · exact framed.callbacks timed silent
  rw [Server.closeConn_eq]
  refine ⟨fun sock => ?_, fun sock connected => by cases connected⟩
  have withdrawn := (framed sock).append_silent (rfl : wire sock [.unpublished] = [])
  have closed : ∀ closing, WellFramed srv.lib sock _ := fun closing =>
    withdrawn.append_silent (rfl : wire sock [.closed closing] = [])
  simpa using closed (srv.callbacks before world).conn.sock

theorem Tidy.setFraming (tidy : Tidy lib world) {framing : Framing}
    (sameSock : framing.sock = world.conn.framing.sock) :
    Tidy lib (world.setFraming framing) := by
  refine ⟨tidy.framed, fun sock connected => tidy.whole sock ?_⟩
  simpa only [World.connected, World.setFraming, sameSock] using connected

/-- Handling the input of the active connection keeps the framing, whether or not it
is then closed. -/
theorem Tidy.serveInput (tidy : Tidy srv.lib world) (timed : srv.Timed world)
    {env : IterationEnv} (published : world.connected = some sock)
    (clean : env.Clean srv world.conn.framing) :
    Tidy srv.lib (srv.serveInput env world) := by
  let kept (state : World) := Quiet srv.lib world state ∧ Tidy srv.lib state
  let dropped (state : World) := Quiet srv.lib world state ∧
    (Tidy srv.lib state ∨ Framed srv.lib state ∧ ∀ push ∈ env.beforeClose, push.Silent srv)
  have served : kept (srv.serveInput env world) ∨
      ∃ state, dropped state ∧ srv.serveInput env world = srv.closeConn env.beforeClose state := by
    refine Server.serveInput_rule (fun state framing sameSock sameTimeout => ?_)
      (fun state holds => ⟨holds.1, .inl holds.2⟩) (fun index text state isLine holds => ?_)
      (fun state holds => ?_) ⟨.refl world, tidy⟩
    · have reframed : ∀ quiet : Quiet srv.lib world state,
          Quiet srv.lib world (state.setFraming framing) := fun quiet =>
        quiet.trans (.setFraming (sameSock.trans quiet.framingSock.symm)
          (sameTimeout.trans quiet.timeout.symm))
      exact ⟨fun holds => ⟨reframed holds.1,
          holds.2.setFraming (sameSock.trans holds.1.framingSock.symm)⟩,
        fun holds => ⟨reframed holds.1, holds.2.imp_left fun tidy =>
          tidy.setFraming (sameSock.trans holds.1.framingSock.symm)⟩⟩
    · have after := timed.quiet holds.1
      have connected := holds.1.connected_eq.trans published
      have quiet := holds.1.trans (Server.handleLine_quiet (env.line index) text connected after)
      have handled := holds.2.handleLine after connected (clean.line index text isLine)
      simp only at handled ⊢
      split at handled
      · rename_i success
        rw [if_pos success]
        exact ⟨quiet, handled⟩
      · rename_i failure
        rw [if_neg failure]
        exact ⟨quiet, handled⟩
    · have after := timed.quiet holds.1
      have called := holds.2.callbacks after clean.beforeOversized
      have calls := Server.callbacks_quiet env.beforeOversized after
      have pushes := Server.eventsPush_quiet (by decide : Origin.oversized ≠ .refusal)
        (.error (ascii "bad_request") (ascii "line exceeds maximum length")) env.oversized
        (after.quiet calls)
      refine ⟨(holds.1.trans calls).trans pushes, ?_⟩
      rcases clean.oversized with clean | silent
      · exact .inl (called.push (after.quiet calls) clean)
      · exact .inr ⟨called.push_framed (after.quiet calls) _ _, silent⟩
  rcases served with ⟨-, tidy⟩ | ⟨state, ⟨quiet, last⟩, closed⟩
  · exact tidy
  · rw [closed]
    exact Tidy.close (timed.quiet quiet) clean.beforeClose last

/-- A socket nobody has accepted has seen nothing. -/
theorem wire_fresh {phase : Phase}
    (fresh : Machine.run (Phase.next sock) phase trace = .fresh) :
    phase = .fresh ∧ wire sock trace = [] := by
  induction trace generalizing phase with
  | nil => exact ⟨fresh, rfl⟩
  | cons obs rest ih =>
      obtain ⟨next, silent⟩ := ih fresh
      have step : phase = .fresh ∧ obs.bytesTo sock = [] := by
        cases obs with
        | delivered _ line => exact ⟨next, rfl⟩
        | ran fn => exact ⟨next, rfl⟩
        | _ =>
            simp only [Phase.next] at next
            split_ifs at next
            all_goals simp_all [Obs.bytesTo]
      refine ⟨step.1, ?_⟩
      rw [wire, List.flatMap_cons, step.2]
      exact silent

/-- The socket that arrives next has seen nothing. -/
theorem wire_nextSock (single : SingleConnection srv world) :
    wire world.nextSock world.accept.trace = [] := by
  have phase := single.phase world.nextSock
  rw [expectedPhase_nextSock] at phase
  rw [World.accept, World.record, wire_append, (wire_fresh phase).2]
  rfl

theorem Tidy.accept (tidy : Tidy lib world) : Tidy lib world.accept := by
  have counted : Tidy lib { world with nextSock := world.nextSock + 1 } :=
    ⟨tidy.framed, tidy.whole⟩
  exact counted.record fun _ => rfl

/-- A connection that is refused sees at most one line. -/
theorem Tidy.refuse (tidy : Tidy srv.lib world) (single : SingleConnection srv world)
    (env : RefuseEnv) :
    Tidy srv.lib (srv.refuseConn env world.nextSock world.accept) := by
  obtain ⟨added, refused, isAdded⟩ := srv.refuseConn_eq env world.nextSock world.accept
  have closing : ∀ sock, wire sock [.closed world.nextSock] = [] := fun _ => rfl
  rw [refused]
  rcases isAdded with rfl | ⟨result, isPrefix, rfl⟩
  · exact tidy.accept.record closing
  · have spoken : Tidy srv.lib
        (world.accept.record (.wrote world.nextSock .refusal srv.refusal result)) := by
      refine ⟨fun sock => ?_, fun sock connected => ?_⟩
      · by_cases same : world.nextSock = sock
        · subst same
          refine (tidy.accept.framed _).append_written ?_ ⟨_, rfl⟩ isPrefix
          rw [wire_nextSock single]
          exact .nil
        · exact (tidy.accept.framed sock).append_silent (wire_other same)
      · have bound := single.accepted sock (single.connected_eq ▸ connected)
        rw [World.record, wire_append, wire_other (by omega), List.append_nil]
        exact tidy.accept.whole sock connected
    simpa [World.record] using spoken.record closing

/-- A connection that is opened starts with a line. -/
theorem Tidy.openConn (tidy : Tidy srv.lib world) (single : SingleConnection srv world)
    (inactive : world.conn.active = false) {env : OpenEnv} (clean : env.Clean srv) :
    Tidy srv.lib (srv.openConn env world.nextSock world.accept) := by
  have unpublished : world.accept.events = .null := single.events_null inactive
  rw [Server.openConn_eq unpublished]
  split
  · rename_i opens
    have whole := clean opens.1 opens.2
    have published : Tidy srv.lib (srv.publish world.nextSock world.accept) := by
      refine ⟨fun sock => (tidy.accept.framed sock).append_silent rfl, fun sock connected => ?_⟩
      rw [Server.publish_connected, Option.some.injEq] at connected
      rw [← connected, Server.publish_trace, wire_append, wire_nextSock single]
      exact .nil
    have timed := srv.publish_timed world.nextSock world.accept
    have called := published.callbacks timed whole.1
    have greeted : Tidy srv.lib (srv.eventsPush .hello .hello env.hello _).2 :=
      called.push (timed.quiet (Server.callbacks_quiet _ timed)) whole.2
    exact ⟨greeted.framed, greeted.whole⟩
  · exact tidy.accept.record fun _ => rfl

/-- A careful iteration keeps the framing. -/
theorem Tidy.iteration (tidy : Tidy srv.lib world) (single : SingleConnection srv world)
    {env : IterationEnv} (clean : world.conn.active = true → env.Clean srv world.conn.framing)
    (opening : ∀ next, srv.OpensIn env world next → env.opening.Clean srv) :
    Tidy srv.lib (srv.iteration env world).world := by
  have idle : SingleConnection srv (srv.callbacks env.idle world) :=
    single.quiet (Server.callbacks_quiet env.idle single.timed)
  have tidyIdle : Tidy srv.lib (srv.callbacks env.idle world) := by
    cases active : world.conn.active with
    | true => exact tidy.callbacks single.timed (clean active).idle
    | false => rwa [Server.callbacks_null _ (single.events_null active)]
  have both : SingleConnection srv (srv.iteration env world).world ∧
      Tidy srv.lib (srv.iteration env world).world := by
    refine @Server.iteration_rule srv (fun next => SingleConnection srv next ∧ Tidy srv.lib next)
      env world ⟨idle, tidyIdle⟩ (fun active => ?_) (fun wasActive next holds active => ?_)
      (fun next holds active => ?_) (fun next holds opens => ?_)
    · have activeIdle : (srv.callbacks env.idle world).conn.active = true := by
        rwa [Server.callbacks_conn]
      have framing := clean active
      rw [← @Server.callbacks_conn srv env.idle world] at framing
      exact ⟨idle.serveInput activeIdle env,
        tidyIdle.serveInput idle.timed (idle.connected_active activeIdle) framing⟩
    · exact ⟨holds.1.close active _,
        .close holds.1.timed (clean wasActive).beforeClose (.inl holds.2)⟩
    · exact ⟨holds.1.refuse _, holds.2.refuse holds.1 _⟩
    · exact ⟨holds.1.openConn opens.inactive _,
        holds.2.openConn holds.1 opens.inactive (opening next opens)⟩
  exact both.2

/-- A careful step keeps the framing. -/
theorem Tidy.step {loop : Loop} {input : LoopInput} (single : SingleConnection srv loop.world)
    (tidy : Tidy srv.lib loop.world) (careful : srv.Careful loop input) :
    Tidy srv.lib (srv.step loop input).world := by
  refine Server.step_rule tidy (fun world before isLoop isInput active => ?_)
    (fun world env isLoop isInput => ?_)
  · subst isLoop isInput
    exact Tidy.close single.timed (careful active) (.inl tidy)
  · subst isLoop isInput
    exact tidy.iteration single careful.1 careful.2

end Steps

/-- In every run in which no event is cut and no event follows a cut response, what
every client receives is well framed at every moment. -/
theorem wire_wellFramed (srv : Server) (inputs : List LoopInput)
    (careful : Machine.Along srv.step srv.Careful Server.start inputs) (sock : Nat) :
    WellFramed srv.lib sock (Machine.run srv.step Server.start inputs).world.trace := by
  have both : SingleConnection srv (Machine.run srv.step Server.start inputs).world ∧
      Tidy srv.lib (Machine.run srv.step Server.start inputs).world := by
    refine @Machine.invariant_run _ _ srv.step srv.Careful
      (fun loop => SingleConnection srv loop.world ∧ Tidy srv.lib loop.world)
      (fun loop input holds careful => ⟨holds.1.step input, holds.2.step holds.1 careful⟩) _ _
      ⟨.start, fun _ => .nil, by intro sock connected; cases connected⟩ careful
  exact both.2.framed sock

/-- A client connects and gets the answer to a `ping` and an event. -/
def answeredClient : List LoopInput :=
  [.connect, .ping (ascii "1") .open, .callback ⟨.typing (ascii "a") (ascii "b") true, .open⟩]

/-- Then it takes one byte of the answer to the next `ping` and stalls past the deadline, so
that it is dropped. -/
def cutResponse : List LoopInput := answeredClient ++ [.ping (ascii "1") (.stalled 1)]

/-- A step that meets no obstacle is careful, if no event is cut. -/
theorem careful_calm {srv : Server} (env : IterationEnv)
    (calm : ∀ index, env.line index = .calm .open)
    (unparseable : PushEnv.Clean srv srv.unparseable .open) (noClose : env.beforeClose = [])
    (noOversized : env.beforeOversized = []) (idle : ∀ push ∈ env.idle, push.Clean srv)
    (opening : env.opening.Clean srv) (loop : Loop) : srv.Careful loop (.iterate env) := by
  cases loop with
  | returned => trivial
  | running world =>
      refine ⟨fun _ => ⟨idle, fun index text _ => ?_, ?_, ?_, ?_⟩, fun _ _ => opening⟩
      · rw [calm, noClose]
        refine ⟨List.forall_mem_nil _, ?_⟩
        split
        · exact unparseable
        · exact .inr (List.forall_mem_nil _)
      · exact noOversized ▸ List.forall_mem_nil _
      · exact .inr (noClose ▸ List.forall_mem_nil _)
      · exact noClose ▸ List.forall_mem_nil _

theorem wire_wellFramed_cutResponse :
    let srv := sampleServer (parsePing (ascii "1"))
    let world := (Machine.run srv.step Server.start cutResponse).world
    Machine.Along srv.step srv.Careful Server.start cutResponse ∧ world.conn.active = false ∧
      WellFramed srv.lib 0 world.trace := by
  intro srv world
  have calm {env : IterationEnv} (same : ∀ index, env.line index = .calm .open)
      (noClose : env.beforeClose = []) (noOversized : env.beforeOversized = [])
      (idle : ∀ push ∈ env.idle, push.Clean srv)
      (opening : env.opening = ⟨none, true, [], [], .open⟩)
      (loop : Loop) : srv.Careful loop (.iterate env) := by
    refine careful_calm env same (.inr (by decide +kernel)) noClose noOversized idle ?_ loop
    rw [opening]
    exact fun _ _ => ⟨List.forall_mem_nil _, .inr (by decide +kernel)⟩
  have event : Push.Clean srv ⟨.typing (ascii "a") (ascii "b") true, .open⟩ :=
    .inr (by decide +kernel)
  -- The response that is cut is the last thing before the connection is closed.
  have last : srv.Careful (Machine.run srv.step Server.start answeredClient)
      (.ping (ascii "1") (.stalled 1)) := by
    have lines : (IterationEnv.ping (ascii "1") (.stalled 1)).lines
        (Machine.run srv.step Server.start answeredClient).world.conn.framing =
          [pingRequest (ascii "1")] := by decide +kernel
    generalize Machine.run srv.step Server.start answeredClient = loop at lines ⊢
    cases loop with
    | returned => trivial
    | running state =>
        refine ⟨fun _ => ⟨List.forall_mem_nil _, fun index text isLine => ?_, List.forall_mem_nil _,
          .inr (List.forall_mem_nil _), List.forall_mem_nil _⟩, fun _ opens => ?_⟩
        · have isPing : text ∈ [pingRequest (ascii "1")] := lines ▸ List.mem_of_getElem? isLine
          obtain rfl := List.mem_singleton.mp isPing
          exact ⟨List.forall_mem_nil _, .inr (List.forall_mem_nil _)⟩
        · obtain ⟨_, ready, -⟩ := opens.selected
          cases ready
  have careful : Machine.Along srv.step srv.Careful Server.start cutResponse := by
    rw [cutResponse, Machine.along_append]
    exact ⟨⟨calm (fun _ => rfl) rfl rfl (List.forall_mem_nil _) rfl _,
      calm (fun _ => rfl) rfl rfl (List.forall_mem_nil _) rfl _,
      calm (fun _ => rfl) rfl rfl (List.forall_mem_singleton.mpr event) rfl _, trivial⟩, last,
      trivial⟩
  exact ⟨careful, by decide +kernel, wire_wellFramed srv cutResponse careful 0⟩

/-- Complete lines end in a line feed. -/
theorem CompleteLines.ends {bytes : Bytes} (complete : CompleteLines lib bytes) :
    bytes = [] ∨ ∃ front, bytes = front ++ [lineFeed] := by
  obtain ⟨messages, -, rfl⟩ := complete
  rcases List.eq_nil_or_concat messages with rfl | ⟨front, last, rfl⟩
  · exact .inl rfl
  · refine .inr ⟨front.flatMap lib.writer.line ++ Json.compact lib.writer.format last, ?_⟩
    simp [JsonWriter.line]

/-- Any byte after a cut message breaks the framing. -/
theorem not_wellFramed_of_cut {before after : List Obs} {origin : Origin} {message : JsonElem}
    {sent : Nat} {result : SendResult} (written : Written lib message sent result)
    (begun : 0 < sent) (unfinished : sent < (lib.writer.line message).length)
    (more : wire sock after ≠ []) :
    ¬ WellFramed lib sock (before ++ .wrote sock origin message result :: after) := by
  intro framed
  obtain ⟨whole, tail, content, complete, ending⟩ :=
    framed (before ++ [.wrote sock origin message result]) after (by simp)
  rcases ending with rfl | ⟨-, silent⟩
  · -- The stream would end in a line feed, but it ends inside the cut message.
    have inside : result.accepted = (Json.compact lib.writer.format message).take sent := by
      rw [JsonWriter.line, List.length_append, List.length_singleton] at unfinished
      rw [written.accepted, JsonWriter.line, List.take_append_of_le_length (by omega)]
    rw [List.append_nil, wire_append, wire_wrote] at content
    rcases List.eq_nil_or_concat result.accepted with empty | ⟨front, last, isLast⟩
    · rw [written.accepted, List.take_eq_nil_iff] at empty
      rcases empty with none | none
      · omega
      · simp [none] at unfinished
    · have visible : last ≠ lineFeed := by
        rintro rfl
        have member : lineFeed ∈ result.accepted := by simp [isLast]
        rw [inside] at member
        exact Json.compact_no_lineFeed lib.writer.format message (List.mem_of_mem_take member)
      rw [← content, isLast, List.concat_eq_append, ← List.append_assoc] at complete
      rcases complete.ends with empty | ⟨other, same⟩
      · simp at empty
      · exact visible (List.singleton_inj.mp (List.append_inj' same rfl).2)
  · exact more silent

/-- The write of an event with the default deadline. -/
def writeEvent (lib : Pjlib) (event : Event) (env : PushEnv) : SendResult :=
  writeJson lib.writer 5000 (event.message lib) maxLine env.write

theorem written_writeEvent (lib : Pjlib) (event : Event) (env : PushEnv) :
    Written lib (event.message lib)
      (sentBytes lib.writer 5000 (event.message lib) maxLine env.write)
      (writeEvent lib event env) :=
  ⟨⟨_, rfl⟩, (writeJson_sent (event.message_named lib)).1,
    (writeJson_sent (event.message_named lib)).2⟩

/-- A client connects, takes one byte of an event and then stalls past the deadline,
and takes the next event whole. -/
def stalledEvent : List LoopInput :=
  [.connect, .callback ⟨.typing (ascii "a") (ascii "b") true, .stalled 1⟩,
    .callback ⟨.typing (ascii "a") (ascii "b") false, .open⟩]

theorem stalledEvent_not_wellFramed :
    ¬ WellFramed (sampleLib fun _ => none) 0
      (Machine.run (sampleServer fun _ => none).step Server.start stalledEvent).world.trace := by
  let lib := sampleLib fun _ => none
  let cut : Event := .typing (ascii "a") (ascii "b") true
  let next : Event := .typing (ascii "a") (ascii "b") false
  have trace : (Machine.run (sampleServer fun _ => none).step Server.start
      stalledEvent).world.trace =
      [.accepted 0, .published 0, .wrote 0 .hello (Event.hello.message lib)
        (writeEvent lib .hello .open)] ++
        .wrote 0 .callback (cut.message lib) (writeEvent lib cut (.stalled 1)) ::
          [.wrote 0 .callback (next.message lib) (writeEvent lib next .open)] := rfl
  rw [trace]
  refine not_wellFramed_of_cut (written_writeEvent lib cut (.stalled 1)) (by decide +kernel)
    (by decide +kernel) ?_
  rw [wire_wrote, (written_writeEvent lib next .open).accepted]
  decide +kernel

end Pjsocky
