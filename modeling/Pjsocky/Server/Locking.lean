import Pjsocky.Server.Wire
import Pjsocky.Support.CriticalSection

/-!
# The lock of `events.c`

The server model takes each function of `events.c` as one step. Here it is code that runs
under the lock, one access of what the threads share at a time, every `send` an access of its
own, while the other threads go on. `run_code` says that the code run as a whole is the
server model's function.
-/

namespace Pjsocky

open Support

/-- What has happened to a socket. -/
inductive SockObs where
  | byte (byte : UInt8)
  | closed
deriving DecidableEq, Repr

/-- The byte, where one went out. -/
def SockObs.out : SockObs → Option UInt8
  | .byte sent => some sent
  | .closed => none

/-- What the threads share of the control connection. -/
structure Bus where
  /-- `events->framing`. -/
  events : FramingPtr
  /-- `conn.sock`. -/
  connSock : Nat
  /-- `conn.framing.sock`. -/
  sock : Nat
  /-- `conn.framing.write_timeout_msec`. -/
  writeTimeoutMsec : Nat
  nextSock : Nat
  /-- What has happened to each socket, in order. -/
  streams : Nat → List SockObs

/-- What one thread does under the lock: the three functions of `events.c`. -/
inductive LockCall where
  | push (origin : Origin) (event : Event) (env : PushEnv)
  | writeResponse (response : JsonElem) (env : WriteEnv)
  | setConn (framing : FramingPtr)

/-- What the control thread does to the connection without the lock. -/
inductive OwnStep where
  /-- `open_conn` up to `pjsocky_framing_init`, on a socket just accepted. -/
  | arrive
  /-- `open_conn` when it gives the socket up. -/
  | giveUp
  /-- `refuse_conn` on a socket just accepted; no other thread knows the socket. -/
  | refuse (env : RefuseEnv)
  /-- The end of `close_conn`. -/
  | close

namespace Bus

/-- Something happens to a socket. -/
def add (bus : Bus) (sock : Nat) (observed : List SockObs) : Bus :=
  { bus with streams := Function.update bus.streams sock (bus.streams sock ++ observed) }

/-- `pj_sock_send` takes these bytes. -/
def send (bus : Bus) (sock : Nat) (bytes : Bytes) : Bus := bus.add sock (bytes.map .byte)

/-- `pj_sock_accept` returns a new socket. -/
def accept (bus : Bus) : Bus := { bus with nextSock := bus.nextSock + 1 }

/-- The connection that a writer finds published, with its deadline. -/
def connected (bus : Bus) : Option (Nat × Nat) :=
  match bus.events with
  | .null => none
  | .conn => some (bus.sock, bus.writeTimeoutMsec)

/-- The bytes that a socket has taken. -/
def bytes (bus : Bus) (sock : Nat) : Bytes :=
  (bus.streams sock).filterMap SockObs.out

@[simp] theorem add_nil (bus : Bus) (sock : Nat) : bus.add sock [] = bus := by
  rw [add, List.append_nil, Function.update_eq_self]

theorem add_add (bus : Bus) (sock : Nat) (first second : List SockObs) :
    (bus.add sock first).add sock second = bus.add sock (first ++ second) := by
  simp [add]

theorem add_comm (bus : Bus) {left right : Nat} (other : left ≠ right)
    (first second : List SockObs) :
    (bus.add left first).add right second = (bus.add right second).add left first := by
  simp [add, Function.update_of_ne other, Function.update_of_ne other.symm,
    Function.update_comm other]

@[simp] theorem send_nil (bus : Bus) (sock : Nat) : bus.send sock [] = bus := bus.add_nil sock

theorem send_send (bus : Bus) (sock : Nat) (first second : Bytes) :
    (bus.send sock first).send sock second = bus.send sock (first ++ second) := by
  rw [send, send, send, List.map_append, add_add]

@[simp] theorem connected_add (bus : Bus) (sock : Nat) (observed : List SockObs) :
    (bus.add sock observed).connected = bus.connected := rfl

@[simp] theorem connected_send (bus : Bus) (sock : Nat) (bytes : Bytes) :
    (bus.send sock bytes).connected = bus.connected := rfl

end Bus

/-! ## The code -/

/-- `send_all`; waiting for writability is a step of its own. -/
def sendAllCode (sock timeoutMsec : Nat) (started : Int) :
    List SendStep → Bytes → Code Bus Status
  | [], buf =>
      if buf.length = 0 then .ret .success
      else .access (·.send sock buf) fun _ => .ret .success
  | step :: rest, buf =>
      if buf.length = 0 then .ret .success
      else match step with
        | .sent count =>
            let sent := min count buf.length
            if sent = 0 then .ret .eeof
            else
              .access (·.send sock (buf.take sent)) fun _ =>
                sendAllCode sock timeoutMsec started rest (buf.drop sent)
        | .failed status => .ret status
        | .blocked now wait =>
            let remainingMsec := timeoutMsec - (now - started)
            if remainingMsec ≤ 0 then .ret .etimedout
            else
              .access id fun _ =>
                match wait with
                | .ready => sendAllCode sock timeoutMsec started rest buf
                | .expired => .ret .etimedout
                | .failed status =>
                    if status.1 = .fromOs eintr then
                      sendAllCode sock timeoutMsec started rest buf
                    else .ret status

/-- `pjsocky_framing_write_line` on the framing of the connection. -/
def writeLineCode (line : Bytes) (env : WriteEnv) : Code Bus Status :=
  .access id fun bus =>
    (sendAllCode bus.sock bus.writeTimeoutMsec env.bodyStarted env.body line).bind fun status =>
      if status ≠ .success then .ret status
      else
        .access id fun bus =>
          sendAllCode bus.sock bus.writeTimeoutMsec env.newlineStarted env.newline [lineFeed]

/-- `pjsocky_framing_write_json` on the framing of the connection; the text is made without
looking at what the threads share. -/
def writeJsonCode (writer : JsonWriter) (elem : JsonElem) (env : WriteEnv) : Code Bus Status :=
  match writer.write elem maxLine with
  | none => .ret .etoobig
  | some text =>
      let (buf, compactLen) := compactJson (Memory.write (fun _ => 0) 0 text) text.length
      writeLineCode (buf.read 0 compactLen) env

namespace LockCall

variable (srv : Server)

/-- The functions of `events.c` between `pj_mutex_lock` and `pj_mutex_unlock`. -/
def code : LockCall → Code Bus Status
  | .push _ event env =>
      .access id fun bus =>
        match bus.events with
        | .null => .ret .success
        | .conn =>
            if env.pool then writeJsonCode srv.lib.writer (event.message srv.lib) env.write
            else .ret .enomem
  | .writeResponse response env =>
      .access id fun bus =>
        match bus.events with
        | .null => .ret .success
        | .conn => writeJsonCode srv.lib.writer response env
  | .setConn framing => .access ({ · with events := framing }) fun _ => .ret .success

/-- The same functions of the server model. -/
def whole (world : World) : LockCall → Status × World
  | .push origin event env => srv.eventsPush origin event env world
  | .writeResponse response env => srv.eventsWriteResponse response env world
  | .setConn framing => (.success, srv.eventsSetConn [] framing world)

end LockCall

namespace OwnStep

variable (srv : Server)

/-- What `refuse_conn` writes. -/
def refused (env : RefuseEnv) : Bytes :=
  if env.pool then
    (writeJson srv.lib.writer srv.writeTimeoutMsec srv.refusal 512 env.write).accepted
  else []

def change (own : OwnStep) (bus : Bus) : Bus :=
  match own with
  | .arrive =>
      { bus.accept with
        connSock := bus.nextSock
        sock := bus.nextSock
        writeTimeoutMsec := srv.writeTimeoutMsec }
  | .giveUp => bus.accept.add bus.nextSock [.closed]
  | .refuse env => (bus.accept.send bus.nextSock (refused srv env)).add bus.nextSock [.closed]
  | .close => bus.add bus.connSock [.closed]

/-- The same steps of the server model. -/
def whole (world : World) : OwnStep → World
  | .arrive =>
      let accepted := world.accept
      { accepted with
        conn := { accepted.conn with
          sock := world.nextSock
          framing := accepted.conn.framing.init world.nextSock srv.writeTimeoutMsec } }
  | .giveUp => world.accept.record (.closed world.nextSock)
  | .refuse env => srv.refuseConn env world.nextSock world.accept
  | .close =>
      let closed := world.record (.closed world.conn.sock)
      { closed with conn := { closed.conn with active := false } }

end OwnStep

namespace Server

variable (srv : Server)

/-- The sections under the lock of `events.c`. -/
def lock : Sections LockCall OwnStep Bus Status := ⟨LockCall.code srv, OwnStep.change srv⟩

variable {Thread : Type}

/-- A deed of a thread in the server model, with what it returns. -/
def deed (results : List (Thread × Status) × World) :
    Sections.Deed Thread LockCall OwnStep → List (Thread × Status) × World
  | .called thread call =>
      let result := call.whole srv results.2
      (results.1 ++ [(thread, result.1)], result.2)
  | .apart own => (results.1, own.whole srv results.2)

/-- Deeds of the server model, one after the other. -/
abbrev deeds : List (Thread × Status) × World → List (Sections.Deed Thread LockCall OwnStep) →
    List (Thread × Status) × World := Machine.run (deed srv)

end Server

/-- What an observation shows of a socket. -/
def Obs.onSock (sock : Nat) : Obs → List SockObs
  | .wrote other _ _ result => if other = sock then result.accepted.map .byte else []
  | .closed other => if other = sock then [.closed] else []
  | _ => []

/-- What the threads share in a state of the server model. -/
def World.bus (world : World) : Bus where
  events := world.events
  connSock := world.conn.sock
  sock := world.conn.framing.sock
  writeTimeoutMsec := world.conn.framing.writeTimeoutMsec
  nextSock := world.nextSock
  streams sock := world.trace.flatMap (Obs.onSock sock)

section Whole

variable {srv : Server} {world : World}

/-- A socket of the server model has taken the bytes on its wire. -/
theorem World.bytes_bus (world : World) (sock : Nat) :
    world.bus.bytes sock = wire sock world.trace := by
  rw [Bus.bytes, bus, wire]
  dsimp only
  induction world.trace with
  | nil => rfl
  | cons obs rest ih =>
      rw [List.flatMap_cons, List.filterMap_append, ih, List.flatMap_cons]
      congr 1
      cases obs with
      | wrote other origin message result =>
          simp only [Obs.onSock, Obs.bytesTo]
          split
          · rw [List.filterMap_map]
            exact List.filterMap_some
          · rfl
      | closed other =>
          simp only [Obs.onSock, Obs.bytesTo]
          split <;> rfl
      | _ => rfl

/-- An observation that concerns one socket only. -/
theorem World.bus_record (world : World) {obs : Obs} {sock : Nat}
    (only : ∀ other, other ≠ sock → obs.onSock other = []) :
    (world.record obs).bus = world.bus.add sock (obs.onSock sock) := by
  have streams : (world.record obs).bus.streams = Function.update world.bus.streams sock
      (world.bus.streams sock ++ obs.onSock sock) := by
    funext other
    by_cases same : other = sock
    · subst same
      simp [World.record, bus]
    · simp [World.record, bus, Function.update_of_ne same, only other same]
  simp only [Bus.add, ← streams]
  rfl

theorem World.bus_wrote (world : World) (sock : Nat) (origin : Origin) (message : JsonElem)
    (result : SendResult) :
    (world.record (.wrote sock origin message result)).bus =
      world.bus.send sock result.accepted := by
  have only : ∀ other, other ≠ sock → (Obs.wrote sock origin message result).onSock other = [] :=
    fun other different => if_neg (Ne.symm different)
  rw [world.bus_record only, Obs.onSock, if_pos rfl, Bus.send]

theorem World.bus_closed (world : World) (sock : Nat) :
    (world.record (.closed sock)).bus = world.bus.add sock [.closed] := by
  have only : ∀ other, other ≠ sock → (Obs.closed sock).onSock other = [] :=
    fun other different => if_neg (Ne.symm different)
  rw [world.bus_record only, Obs.onSock, if_pos rfl]

theorem World.bus_accept (world : World) : world.accept.bus = world.bus.accept := by
  simp [World.accept, World.record, World.bus, Bus.accept, Obs.onSock]

/-- The sends of `send_all` as a whole. -/
theorem run_sendAllCode (sock timeoutMsec : Nat) (started : Int) (steps : List SendStep)
    (buf : Bytes) (bus : Bus) :
    (sendAllCode sock timeoutMsec started steps buf).run bus =
      ((sendAll timeoutMsec started steps buf).status,
        bus.send sock (sendAll timeoutMsec started steps buf).accepted) := by
  induction steps generalizing buf bus with
  | nil =>
      by_cases empty : buf = []
      · simp [sendAllCode, sendAll, empty]
      · simp [sendAllCode, sendAll, empty]
  | cons step rest ih =>
      by_cases empty : buf = []
      · simp [sendAllCode, sendAll, empty]
      · have size : buf.length ≠ 0 := by simpa using empty
        cases step with
        | sent count =>
            by_cases none : min count buf.length = 0
            · simp [sendAllCode, sendAll, size, none]
            · simp only [sendAllCode, sendAll, size, none, if_false, Code.run_access, ih,
                Bus.send_send]
        | failed status => simp [sendAllCode, sendAll, size]
        | blocked now wait =>
            by_cases late : (timeoutMsec : Int) - (now - started) ≤ 0
            · simp [sendAllCode, sendAll, size, late]
            · cases wait with
              | ready =>
                  simp only [sendAllCode, sendAll, size, late, if_false, Code.run_access, ih, id]
              | expired => simp [sendAllCode, sendAll, size, late]
              | failed status =>
                  by_cases interrupted : status.1 = .fromOs eintr
                  · simp only [sendAllCode, sendAll, size, late, interrupted, if_false, if_true,
                      Code.run_access, ih, id]
                  · simp [sendAllCode, sendAll, size, late, interrupted]

/-- A line that goes out in two sends, as a whole. -/
theorem run_writeLineCode (line : Bytes) (env : WriteEnv) (bus : Bus) :
    (writeLineCode line env).run bus =
      ((writeLine bus.writeTimeoutMsec line env).status,
        bus.send bus.sock (writeLine bus.writeTimeoutMsec line env).accepted) := by
  rw [writeLineCode, Code.run_access, Code.run_bind, id, run_sendAllCode, writeLine]
  dsimp only
  by_cases sent :
      (sendAll bus.writeTimeoutMsec env.bodyStarted env.body line).status = .success
  · rw [if_neg (not_not.mpr sent), if_neg (not_not.mpr sent), Code.run_access, id,
      run_sendAllCode]
    exact congrArg (Prod.mk _) (bus.send_send bus.sock _ _)
  · rw [if_pos sent, if_pos sent]
    rfl

theorem run_writeJsonCode (writer : JsonWriter) (elem : JsonElem) (env : WriteEnv) (bus : Bus) :
    (writeJsonCode writer elem env).run bus =
      ((writeJson writer bus.writeTimeoutMsec elem maxLine env).status,
        bus.send bus.sock (writeJson writer bus.writeTimeoutMsec elem maxLine env).accepted) := by
  unfold writeJsonCode writeJson
  cases writer.write elem maxLine with
  | none => rw [Code.run_ret, Bus.send_nil]
  | some text => exact run_writeLineCode _ env bus

/-- The code of a call as a whole is the function of the server model. -/
theorem LockCall.run_code (srv : Server) (call : LockCall) (world : World) :
    (call.code srv).run world.bus = ((call.whole srv world).1, (call.whole srv world).2.bus) := by
  cases call with
  | push origin event env =>
      cases published : world.events with
      | null => simp [code, whole, Server.eventsPush, published, World.bus]
      | conn =>
          simp only [code, Code.run_access, whole, Server.eventsPush, published]
          have found : world.bus.events = .conn := published
          simp only [found, id]
          cases env.pool with
          | true =>
              simp only [if_true, Server.writeLocked, World.bus_wrote]
              exact run_writeJsonCode _ _ _ _
          | false => simp [World.bus_wrote]
  | writeResponse response env =>
      cases published : world.events with
      | null => simp [code, whole, Server.eventsWriteResponse, published, World.bus]
      | conn =>
          simp only [code, Code.run_access, whole, Server.eventsWriteResponse, published]
          have found : world.bus.events = .conn := published
          simp only [found, id, Server.writeLocked, World.bus_wrote]
          exact run_writeJsonCode _ _ _ _
  | setConn framing =>
      cases framing <;>
        simp [code, whole, Server.eventsSetConn, Server.callbacks, World.record, World.bus,
          Obs.onSock]

/-- What the control thread does without the lock is what it does in the server model. -/
theorem OwnStep.change_bus (srv : Server) (own : OwnStep) (world : World) :
    own.change srv world.bus = (own.whole srv world).bus := by
  cases own with
  | arrive => simp [change, whole, World.accept, World.record, World.bus, Bus.accept, Obs.onSock,
      Framing.init]
  | giveUp =>
      rw [whole, World.bus_closed, World.bus_accept]
      rfl
  | refuse env =>
      rw [whole, change, Server.refuseConn, refused, World.bus_closed, ← World.bus_accept]
      cases env.pool with
      | true => simp only [if_true, World.bus_wrote]; rfl
      | false => simp only [Bool.false_eq_true, if_false, Bus.send_nil]; rfl
  | close =>
      have closed := world.bus_closed world.conn.sock
      exact closed.symm

/-- The deeds of the threads, each as a whole, are those of the server model. -/
theorem Server.serial_deeds {Thread : Type} (srv : Server)
    (deeds : List (Sections.Deed Thread LockCall OwnStep)) (results : List (Thread × Status))
    (world : World) :
    Sections.serial srv.lock (results, world.bus) deeds =
      ((srv.deeds (results, world) deeds).1, (srv.deeds (results, world) deeds).2.bus) := by
  induction deeds generalizing results world with
  | nil => rfl
  | cons deed rest ih =>
      rw [Sections.serial, Machine.run_cons, Server.deeds, Machine.run_cons]
      cases deed with
      | called thread call =>
          have ran := call.run_code srv world
          rw [Sections.whole]
          dsimp only [Server.lock]
          rw [ran]
          exact ih _ _
      | apart own =>
          rw [Sections.whole]
          dsimp only [Server.lock]
          rw [own.change_bus srv world]
          exact ih _ _

end Whole
end Pjsocky
