import Pjsocky.Dispatch
import Pjsocky.Server.Input

/-!
# The control server

The functions of `events.c` and `server.c`, each under its own name, on the state
that the control thread and pjsua's worker thread share. Every write to the
connection and every change of the published connection is made under the lock of
`events.c`, so the worker thread meets the control thread only between two
acquisitions of it: wherever the control thread takes the lock, its environment
lists the events pushed by others just before. Together with the kernel's answers
these lists range over every interleaving.

What happens is recorded in a trace, in order.
-/

namespace Pjsocky

open Support

/-- The values of `events->framing`: `NULL`, or the framing of the connection that
`pjsocky_server_run` owns. -/
inductive FramingPtr where
  | null
  | conn
deriving DecidableEq, Repr

/-- `conn_state`; its pool only holds allocations. -/
structure ConnState where
  active : Bool
  sock : Nat
  framing : Framing

/-- Which code wrote a message. -/
inductive Origin where
  /-- A pjsua callback. -/
  | callback
  /-- The `hello` of `open_conn`. -/
  | hello
  /-- The response of `handle_line`. -/
  | response
  /-- The error event of `handle_line`, in place of a response. -/
  | rejection
  /-- The error event for an oversized line. -/
  | oversized
  /-- `refuse_conn`. -/
  | refusal
deriving DecidableEq, Repr

/-- What the trace records. A socket is named by the number of its `accept`. -/
inductive Obs where
  | accepted (sock : Nat)
  | closed (sock : Nat)
  /-- `pjsocky_events_set_conn` with the framing of this socket. -/
  | published (sock : Nat)
  /-- `pjsocky_events_set_conn` with `NULL`. -/
  | unpublished
  /-- `handle_line` is called with a line read from this socket. -/
  | delivered (sock : Nat) (line : Bytes)
  /-- A command handler ran. -/
  | ran (fn : CmdFn)
  /-- A message was to be written to a socket, with this result. -/
  | wrote (sock : Nat) (origin : Origin) (message : JsonElem) (result : SendResult)

/-- What the threads share, and what happened. -/
structure World where
  conn : ConnState
  events : FramingPtr
  /-- The number of the next accepted socket. -/
  nextSock : Nat
  trace : List Obs

/-- The environment's answers inside one `pjsocky_events_push`: whether its pool
could be created, and the kernel's answers to the write. -/
structure PushEnv where
  pool : Bool
  write : WriteEnv

/-- An event pushed from a pjsua callback. -/
structure Push where
  event : Event
  env : PushEnv

/-- The environment of one `handle_line`: what the handlers would do, the events
that callbacks push before the answer takes the lock, from the worker thread or
from inside the handler, and the answers to the answer's write. -/
structure LineEnv where
  handlers : Handlers
  before : List Push
  reply : PushEnv

/-- The environment of one `open_conn`. -/
structure OpenEnv where
  nonblocking : Option Failure
  pool : Bool
  beforePublish : List Push
  beforeHello : List Push
  hello : PushEnv

/-- The environment of one `refuse_conn`. -/
structure RefuseEnv where
  pool : Bool
  write : WriteEnv

/-- What `select` answers to the server loop. -/
inductive ServerSelect where
  | failed (status : Failure)
  | timedOut
  | ready (conn listen : Bool)

/-- The environment of one iteration of `pjsocky_server_run`. -/
structure IterationEnv where
  /-- Events pushed by callbacks while the loop waits in `select`. -/
  idle : List Push
  select : ServerSelect
  recv : RecvOutcome
  line : Nat → LineEnv
  beforeOversized : List Push
  oversized : PushEnv
  /-- Events pushed before `close_conn` takes the lock. -/
  beforeClose : List Push
  accept : Option Failure
  opening : OpenEnv
  refusing : RefuseEnv

/-- The constants of a server. -/
structure Server where
  lib : Pjlib
  writeTimeoutMsec : Nat

/-- Whether `pjsocky_server_run` is at the top of its loop or has returned. -/
inductive Loop where
  | running (world : World)
  | returned (status : Status) (world : World)

/-- The state, in the loop or after it. -/
def Loop.world : Loop → World
  | .running world => world
  | .returned _ world => world

/-- What the loop meets at its top: `stop_requested`, or an iteration. -/
inductive LoopInput where
  | stop (beforeClose : List Push)
  | iterate (env : IterationEnv)

def World.record (world : World) (obs : Obs) : World :=
  { world with trace := world.trace ++ [obs] }

/-- Records the handler that ran, if one did. -/
def World.executed (world : World) : Option CmdFn → World
  | some fn => world.record (.ran fn)
  | none => world

/-- `pj_sock_accept` returns a new socket. -/
def World.accept (world : World) : World :=
  { world with nextSock := world.nextSock + 1 }.record (.accepted world.nextSock)

def World.activate (world : World) : World :=
  { world with conn := { world.conn with active := true } }

def World.setFraming (world : World) (framing : Framing) : World :=
  { world with conn := { world.conn with framing } }

namespace Server

variable (srv : Server)

/-- `pjsocky_framing_write_json` on the published framing, under the lock. -/
def writeLocked (origin : Origin) (message : JsonElem) (env : WriteEnv) (world : World) :
    Status × World :=
  let framing := world.conn.framing
  let result := writeJson srv.lib.writer framing.writeTimeoutMsec message maxLine env
  (result.status, world.record (.wrote framing.sock origin message result))

/-- `pjsocky_events_push`. -/
def eventsPush (origin : Origin) (event : Event) (env : PushEnv) (world : World) :
    Status × World :=
  match world.events with
  | .null => (.success, world)
  | .conn =>
      if env.pool then srv.writeLocked origin (event.message srv.lib) env.write world
      else (.enomem, world.record
        (.wrote world.conn.framing.sock origin (event.message srv.lib) ⟨.enomem, [], []⟩))

/-- Events pushed by callbacks, one after the other. -/
def callbacks (pushes : List Push) (world : World) : World :=
  pushes.foldl (fun world push => (srv.eventsPush .callback push.event push.env world).2) world

/-- `pjsocky_events_write_response`. -/
def eventsWriteResponse (response : JsonElem) (env : WriteEnv) (world : World) :
    Status × World :=
  match world.events with
  | .null => (.success, world)
  | .conn => srv.writeLocked .response response env world

/-- `pjsocky_events_set_conn`, after the events pushed before it takes the lock. -/
def eventsSetConn (before : List Push) (framing : FramingPtr) (world : World) : World :=
  let world := srv.callbacks before world
  let obs := match framing with
    | .null => .unpublished
    | .conn => .published world.conn.framing.sock
  { world with events := framing }.record obs

/-- `push_error_event`; its callers do not see the status of the push. -/
def pushErrorEvent (origin : Origin) (code message : Bytes) (env : PushEnv) (world : World) :
    World :=
  (srv.eventsPush origin (.error code message) env world).2

/-- The message of `refuse_conn`. -/
def refusal : JsonElem :=
  Event.message srv.lib
    (.error (ascii "connection_refused") (ascii "another control connection is active"))

/-- The message for a line that cannot be parsed. -/
def unparseable : JsonElem :=
  Event.message srv.lib
    (.error (ascii "bad_request") (ascii "not a JSON object with a string \"id\""))

/-- The message for a line that exceeds the maximum length. -/
def tooLong : JsonElem :=
  Event.message srv.lib (.error (ascii "bad_request") (ascii "line exceeds maximum length"))

/-- `refuse_conn`: the line is written directly, not through `events.c`. -/
def refuseConn (env : RefuseEnv) (sock : Nat) (world : World) : World :=
  let world :=
    if env.pool then
      let result := writeJson srv.lib.writer srv.writeTimeoutMsec srv.refusal 512 env.write
      world.record (.wrote sock .refusal srv.refusal result)
    else world
  world.record (.closed sock)

/-- `open_conn`. -/
def openConn (env : OpenEnv) (sock : Nat) (world : World) : World :=
  if env.nonblocking.isSome then world.record (.closed sock)
  else if !env.pool then world.record (.closed sock)
  else
    let framing := world.conn.framing.init sock srv.writeTimeoutMsec
    let world := srv.eventsSetConn env.beforePublish .conn
      { world with conn := { world.conn with sock, framing } }
    let world := srv.callbacks env.beforeHello world
    let world := (srv.eventsPush .hello .hello env.hello world).2
    world.activate

/-- `close_conn`. -/
def closeConn (before : List Push) (world : World) : World :=
  let world := srv.eventsSetConn before .null world
  let world := world.record (.closed world.conn.sock)
  { world with conn := { world.conn with active := false } }

/-- `handle_line`. -/
def handleLine (env : LineEnv) (line : Bytes) (world : World) : Status × World :=
  let world := world.record (.delivered world.conn.framing.sock line)
  match dispatchLine srv.lib env.handlers line with
  | .rejected _ =>
      let world := srv.callbacks env.before world
      (.success, srv.pushErrorEvent .rejection (ascii "bad_request")
        (ascii "not a JSON object with a string \"id\"") env.reply world)
  | .answered response ran =>
      let world := srv.callbacks env.before (world.executed ran)
      srv.eventsWriteResponse response env.reply.write world

/-- What `handle_conn_input` calls in this server. -/
def lineHandler (env : IterationEnv) : LineHandler World where
  handleLine index framing line world :=
    srv.handleLine (env.line index) line (world.setFraming framing)
  pushOversized framing world :=
    srv.pushErrorEvent .oversized (ascii "bad_request") (ascii "line exceeds maximum length")
      env.oversized (srv.callbacks env.beforeOversized (world.setFraming framing))

/-- The input of the active connection is handled, and the connection is closed when
that asks for it. -/
def serveInput (env : IterationEnv) (world : World) : World :=
  let result := handleConnInput (srv.lineHandler env) env.recv world.conn.framing world
  let world := result.state.setFraming result.framing
  if result.status ≠ .success then srv.closeConn env.beforeClose world else world

/-- The first part of an iteration after `select`: the active connection is served
if it is readable. -/
def serveConn (env : IterationEnv) (readable : Bool) (world : World) : World :=
  if world.conn.active && readable then srv.serveInput env world else world

/-- The listening socket's part of an iteration. -/
def acceptConn (env : IterationEnv) (world : World) : Loop :=
  match env.accept with
  | some status =>
      .returned status (if world.conn.active then srv.closeConn env.beforeClose world else world)
  | none =>
      let sock := world.nextSock
      let world := world.accept
      .running
        (if world.conn.active then srv.refuseConn env.refusing sock world
        else srv.openConn env.opening sock world)

/-- One iteration of `pjsocky_server_run`. -/
def iteration (env : IterationEnv) (world : World) : Loop :=
  let world := srv.callbacks env.idle world
  match env.select with
  | .failed status =>
      if status.1 = .fromOs eintr then .running world
      else .returned status
        (if world.conn.active then srv.closeConn env.beforeClose world else world)
  | .timedOut => .running world
  | .ready conn listen =>
      let world := srv.serveConn env conn world
      if listen then srv.acceptConn env world else .running world

/-- One step of `pjsocky_server_run`. -/
def step : Loop → LoopInput → Loop
  | .returned status world, _ => .returned status world
  | .running world, .stop beforeClose =>
      .returned .success (if world.conn.active then srv.closeConn beforeClose world else world)
  | .running world, .iterate env => srv.iteration env world

/-- The zeroed `conn_state` of `pjsocky_server_run`, with nothing published. -/
def start : Loop :=
  .running ⟨⟨false, 0, ⟨0, 0, 0, 0, fun _ => 0⟩⟩, .null, 0, []⟩

end Server
section Concrete

/-- A library for concrete runs, up to its parser. -/
def sampleLib (parse : Bytes → Option (JsonElem × Nat)) : Pjlib :=
  ⟨prettyWriter, parse, fun _ => ascii "error", ascii "0.2.1.0", ascii "2.15.1"⟩

/-- A server for concrete runs, with the default write deadline. -/
def sampleServer (parse : Bytes → Option (JsonElem × Nat)) : Server :=
  ⟨sampleLib parse, 5000⟩

/-- A push that meets no obstacle. -/
def PushEnv.open : PushEnv := ⟨true, .open⟩

/-- A push whose socket takes `count` bytes and then stays full past the deadline. -/
def PushEnv.stalled (count : Nat) : PushEnv :=
  ⟨true, ⟨0, [.sent count, .blocked 5000 .expired], 5000, []⟩⟩

/-- The handlers succeed with an empty result; `reply` is what the write of the answer meets. -/
def LineEnv.calm (reply : PushEnv) : LineEnv := ⟨fun _ _ => ⟨.success, [], trivial⟩, [], reply⟩

/-- An iteration that meets no obstacle, with handlers that all succeed with an empty
result. -/
def IterationEnv.calm (select : ServerSelect) (recv : RecvOutcome) : IterationEnv where
  idle := []
  select := select
  recv := recv
  line _ := .calm .open
  beforeOversized := []
  oversized := .open
  beforeClose := []
  accept := none
  opening := ⟨none, true, [], [], .open⟩
  refusing := ⟨true, .open⟩

/-- A client connects. -/
def LoopInput.connect : LoopInput := .iterate (.calm (.ready false true) (.received []))

/-- A callback pushes an event while the loop waits. -/
def LoopInput.callback (push : Push) : LoopInput :=
  .iterate { IterationEnv.calm .timedOut (.received []) with idle := [push] }

/-- The text of a `ping` request. -/
def pingRequest (id : Bytes) : Bytes :=
  ascii "\x7b\"id\":\"" ++ id ++ ascii "\",\"cmd\":\"ping\"\x7d"

/-- A parser that knows this request. -/
def parsePing (id line : Bytes) : Option (JsonElem × Nat) :=
  if line = pingRequest id then
    some (.obj [(ascii "id", .str id), (ascii "cmd", .str (ascii "ping"))], 0)
  else none

/-- The client sends a `ping`; `reply` is what the write of the answer meets. -/
def IterationEnv.ping (id : Bytes) (reply : PushEnv) : IterationEnv :=
  { IterationEnv.calm (.ready true false) (.received (pingRequest id ++ [lineFeed])) with
    line := fun _ => .calm reply }

def LoopInput.ping (id : Bytes) (reply : PushEnv) : LoopInput := .iterate (.ping id reply)

end Concrete

end Pjsocky
