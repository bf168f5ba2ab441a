import Pjsocky.Server.Lifecycle

/-!
# What clients give and get

The part of the server's state that its clients can tell: who is connected, the lines taken
from each client, and the messages offered to each. A function of the server acts on it in one
of four ways: it takes a line, offers the client a message, or a client comes or goes. A message
is offered whether or not its write succeeds; what goes out of it is left to `Written`.
-/

namespace Pjsocky

open Support

/-- A message that was to be written to a client, sent or not. -/
structure Offer where
  sock : Nat
  origin : Origin
  message : JsonElem

/-- The lines taken from clients and the messages offered to them. -/
structure Session where
  client : Option Nat
  /-- The number of the next client. -/
  next : Nat
  taken : List (Nat × Bytes)
  offered : List Offer

namespace Session

def start : Session := ⟨none, 0, [], []⟩

/-- Messages for the client, if there is one. -/
def offer (origin : Origin) (messages : List JsonElem) (session : Session) : Session :=
  { session with
    offered := session.offered ++
      session.client.toList.flatMap fun sock =>
        messages.map fun message => ⟨sock, origin, message⟩ }

/-- A line of the client. -/
def take (line : Bytes) (session : Session) : Session :=
  { session with taken := session.taken ++ session.client.toList.map fun sock => (sock, line) }

/-- The next client comes and is not served. -/
def pass (session : Session) : Session := { session with next := session.next + 1 }

/-- The next client comes and is served. -/
def join (session : Session) : Session :=
  { session with client := some session.next, next := session.next + 1 }

def leave (session : Session) : Session := { session with client := none }

variable {session : Session} {origin : Origin}

@[simp] theorem offer_client (messages : List JsonElem) :
    (session.offer origin messages).client = session.client := rfl

@[simp] theorem offer_next (messages : List JsonElem) :
    (session.offer origin messages).next = session.next := rfl

@[simp] theorem offer_taken (messages : List JsonElem) :
    (session.offer origin messages).taken = session.taken := rfl

@[simp] theorem offer_nil : session.offer origin [] = session := by
  cases session
  simp [offer]

/-- Nothing is offered when there is no client. -/
theorem offer_alone (alone : session.client = none) (messages : List JsonElem) :
    session.offer origin messages = session := by
  cases session
  simp_all [offer]

theorem offer_client_some {sock : Nat} (client : session.client = some sock)
    (messages : List JsonElem) :
    session.offer origin messages =
      { session with
        offered := session.offered ++ messages.map fun message => ⟨sock, origin, message⟩ } := by
  simp [offer, client]

theorem offer_offer (first second : List JsonElem) :
    (session.offer origin first).offer origin second = session.offer origin (first ++ second) := by
  cases session with
  | mk client next taken offered => cases client <;> simp [offer]

/-- A line is taken, and then something offered. -/
theorem take_offer (line : Bytes) (messages : List JsonElem) :
    (session.offer origin messages).take line = (session.take line).offer origin messages := rfl

end Session

/-- The message that an observation says a client was offered; refusals are for no client. -/
def Obs.offered : Obs → Option Offer
  | .wrote sock origin message _ =>
      if origin = .refusal then none else some ⟨sock, origin, message⟩
  | _ => none

/-- The line that an observation says was taken. -/
def Obs.takenLine : Obs → Option (Nat × Bytes)
  | .delivered sock line => some (sock, line)
  | _ => none

/-- What the clients of the server can tell. -/
def World.session (world : World) : Session where
  client := world.connected
  next := world.nextSock
  taken := world.trace.filterMap Obs.takenLine
  offered := world.trace.filterMap Obs.offered

namespace World

variable {world : World} {obs : Obs}

/-- What an observation adds. -/
theorem session_record (world : World) (obs : Obs) :
    (world.record obs).session =
      { world.session with
        taken := world.session.taken ++ obs.takenLine.toList
        offered := world.session.offered ++ obs.offered.toList } := by
  have taken : (world.record obs).trace.filterMap Obs.takenLine =
      world.session.taken ++ obs.takenLine.toList := by
    rw [record, List.filterMap_append, session]
    cases added : obs.takenLine <;> simp [added]
  have offered : (world.record obs).trace.filterMap Obs.offered =
      world.session.offered ++ obs.offered.toList := by
    rw [record, List.filterMap_append, session]
    cases added : obs.offered <;> simp [added]
  rw [session, taken, offered]
  rfl

/-- An observation that concerns no client. -/
theorem session_aside (noMessage : obs.offered = none) (noLine : obs.takenLine = none) :
    (world.record obs).session = world.session := by
  rw [session_record, noMessage, noLine]
  simp

theorem session_executed (ran : Option CmdFn) : (world.executed ran).session = world.session := by
  cases ran with
  | none => rfl
  | some fn => exact session_aside rfl rfl

theorem session_delivered {sock : Nat} (served : world.connected = some sock) (line : Bytes) :
    (world.record (.delivered sock line)).session = world.session.take line := by
  have client : world.session.client = some sock := served
  simp [session_record, Session.take, client, Obs.takenLine, Obs.offered]

/-- A message written to the client is offered to it. -/
theorem session_wrote {sock : Nat} {origin : Origin} (served : world.connected = some sock)
    (notRefusal : origin ≠ .refusal) (message : JsonElem) (result : SendResult) :
    (world.record (.wrote sock origin message result)).session =
      world.session.offer origin [message] := by
  have client : world.session.client = some sock := served
  simp [session_record, Session.offer, client, Obs.takenLine, Obs.offered, notRefusal]

theorem session_accept : world.accept.session = world.session.pass := by
  simp [session, Session.pass, accept, record, connected, Obs.takenLine, Obs.offered]

/-- The client is the socket of the framing. -/
theorem sock_of_connected {sock : Nat} (served : world.connected = some sock) :
    world.conn.framing.sock = sock := by
  cases published : world.events with
  | null => simp [connected, published] at served
  | conn => simpa [connected, published] using served

/-- Only the socket of the framing matters. -/
theorem session_setFraming {framing : Framing} (same : framing.sock = world.conn.framing.sock) :
    (world.setFraming framing).session = world.session := by
  simp only [session, setFraming, connected, same]

theorem session_activate : world.activate.session = world.session := rfl

end World

/-- The event module points to the active connection, or nowhere. -/
def World.Pointed (world : World) : Prop :=
  world.events = if world.conn.active then .conn else .null

theorem World.Pointed.connected {world : World} (pointed : world.Pointed)
    (active : world.conn.active = true) : world.connected = some world.conn.framing.sock := by
  rw [Pointed, if_pos active] at pointed
  simp [World.connected, pointed]

/-- Which message answers a line, and from where it comes. -/
def Server.reply (srv : Server) : Dispatched → Origin × JsonElem
  | .rejected _ => (.rejection, srv.unparseable)
  | .answered response _ => (.response, response)

namespace Server

variable {srv : Server} {world : World}

theorem eventsPush_session {origin : Origin} (notRefusal : origin ≠ .refusal) (event : Event)
    (env : PushEnv) :
    (srv.eventsPush origin event env world).2.session =
      world.session.offer origin [event.message srv.lib] := by
  unfold eventsPush
  cases published : world.events with
  | null => exact (Session.offer_alone (by simp [World.session, World.connected, published]) _).symm
  | conn =>
      have served : world.connected = some world.conn.framing.sock := by
        simp [World.connected, published]
      dsimp only
      split
      · exact World.session_wrote served notRefusal _ _
      · exact World.session_wrote served notRefusal _ _

theorem callbacks_session (pushes : List Push) (world : World) :
    (srv.callbacks pushes world).session =
      world.session.offer .callback (pushes.map fun push => push.event.message srv.lib) := by
  induction pushes generalizing world with
  | nil => exact Session.offer_nil.symm
  | cons push rest ih =>
      rw [callbacks, List.foldl_cons, ← callbacks, ih, eventsPush_session (by decide),
        Session.offer_offer]
      rfl

theorem eventsWriteResponse_session (response : JsonElem) (env : WriteEnv) (world : World) :
    (srv.eventsWriteResponse response env world).2.session =
      world.session.offer .response [response] := by
  unfold eventsWriteResponse
  cases published : world.events with
  | null => exact (Session.offer_alone (by simp [World.session, World.connected, published]) _).symm
  | conn =>
      have served : world.connected = some world.conn.framing.sock := by
        simp [World.connected, published]
      exact World.session_wrote served (by decide) _ _

theorem eventsPush_events (origin : Origin) (event : Event) (env : PushEnv) (world : World) :
    (srv.eventsPush origin event env world).2.events = world.events := by
  unfold eventsPush
  split
  · rfl
  · split <;> rfl

theorem callbacks_events (pushes : List Push) (world : World) :
    (srv.callbacks pushes world).events = world.events := by
  induction pushes generalizing world with
  | nil => rfl
  | cons push rest ih => exact (ih _).trans (eventsPush_events _ _ _ _)

/-- Pushing an event moves neither the pointer nor the connection. -/
theorem eventsPush_pointed {origin : Origin} {event : Event} {env : PushEnv} :
    (srv.eventsPush origin event env world).2.Pointed ↔ world.Pointed := by
  rw [World.Pointed, eventsPush_events, eventsPush_conn, World.Pointed]

theorem callbacks_pointed {pushes : List Push} :
    (srv.callbacks pushes world).Pointed ↔ world.Pointed := by
  rw [World.Pointed, callbacks_events, callbacks_conn, World.Pointed]

theorem eventsWriteResponse_pointed {response : JsonElem} {env : WriteEnv} :
    (srv.eventsWriteResponse response env world).2.Pointed ↔ world.Pointed := by
  unfold eventsWriteResponse
  split <;> rfl

/-- A line is taken, callbacks push their events, and then the line is answered. -/
theorem handleLine_session {sock : Nat} (served : world.connected = some sock) (env : LineEnv)
    (line : Bytes) :
    let reply := srv.reply (Pjsocky.dispatchLine srv.lib env.handlers line)
    (srv.handleLine env line world).2.session =
      ((world.session.take line).offer .callback
        (env.before.map fun push => push.event.message srv.lib)).offer reply.1 [reply.2] := by
  have taken := World.session_delivered served line
  unfold handleLine
  rw [World.sock_of_connected served]
  cases dispatched : Pjsocky.dispatchLine srv.lib env.handlers line with
  | rejected status =>
      dsimp only [reply]
      rw [pushErrorEvent, eventsPush_session (by decide), callbacks_session, taken]
      rfl
  | answered response ran =>
      dsimp only [reply]
      rw [eventsWriteResponse_session, callbacks_session, World.session_executed, taken]

theorem handleLine_pointed {env : LineEnv} {line : Bytes} :
    (srv.handleLine env line world).2.Pointed ↔ world.Pointed := by
  unfold handleLine
  split
  · dsimp only
    rw [pushErrorEvent, eventsPush_pointed, callbacks_pointed]
    rfl
  · rename_i ran _
    dsimp only
    rw [eventsWriteResponse_pointed, callbacks_pointed]
    cases ran <;> rfl

theorem closeConn_session (before : List Push) (world : World) :
    (srv.closeConn before world).session =
      (world.session.offer .callback
        (before.map fun push => push.event.message srv.lib)).leave := by
  rw [← callbacks_session]
  simp [closeConn, eventsSetConn, World.session, World.record, Session.leave, World.connected,
    Obs.takenLine, Obs.offered]

theorem refuseConn_session (env : RefuseEnv) (sock : Nat) (world : World) :
    (srv.refuseConn env sock world).session = world.session := by
  unfold refuseConn
  rw [World.session_aside rfl rfl]
  split
  · exact World.session_aside rfl rfl
  · rfl

theorem refuseConn_pointed {env : RefuseEnv} {sock : Nat} :
    (srv.refuseConn env sock world).Pointed ↔ world.Pointed := by
  unfold refuseConn
  split <;> rfl

/-- A client that is given up is not served. -/
theorem openConn_session_failed {env : OpenEnv}
    (failed : (env.nonblocking.isSome || !env.pool) = true)
    (sock : Nat) : (srv.openConn env sock world).session = world.session := by
  unfold openConn
  split
  · exact World.session_aside rfl rfl
  · rename_i nonblocking
    rw [if_pos ((Bool.or_eq_true_iff.mp failed).resolve_left nonblocking)]
    exact World.session_aside rfl rfl

/-- A client that is served: callbacks may come before its greeting. -/
theorem openConn_session {env : OpenEnv} (opens : (env.nonblocking.isSome || !env.pool) = false)
    (alone : world.events = .null) :
    (srv.openConn env world.nextSock world.accept).session =
      (world.session.join.offer .callback
        (env.beforeHello.map fun push => push.event.message srv.lib)).offer .hello
          [Event.hello.message srv.lib] := by
  obtain ⟨nonblocking, pool⟩ := Bool.or_eq_false_iff.mp opens
  unfold openConn
  rw [if_neg (by simp [nonblocking]), if_neg (by simp [pool])]
  dsimp only
  rw [World.session_activate, eventsPush_session (by decide), callbacks_session]
  congr 2
  unfold eventsSetConn
  rw [callbacks_null _ (by exact alone)]
  simp [World.session, World.record, World.accept, Session.join, World.connected, Obs.takenLine,
    Obs.offered, Framing.init]

/-- The event module points to the connection that was opened. -/
theorem openConn_pointed {env : OpenEnv} {sock : Nat} (pointed : world.Pointed)
    (alone : world.events = .null) : (srv.openConn env sock world).Pointed := by
  rw [openConn_eq alone]
  split
  · rw [World.Pointed, World.activate, eventsPush_events, callbacks_events]
    rfl
  · exact pointed

end Server
end Pjsocky
