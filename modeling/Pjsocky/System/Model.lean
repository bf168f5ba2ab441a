import Pjsocky.Command.Sip
import Pjsocky.Server.Model

/-!
# The daemon as one system

The control server with the SIP side it controls. The server model takes the behaviour of the
handlers and the events of callbacks as inputs; here both come from the SIP side, as it stands
when they are needed. A step of the SIP side is a command that `handle_line` executes, or what
pjsua does by itself, placed where the server takes the lock. Beside the two states the system
keeps the course of the SIP side: its steps in order, each with the state it led to.
-/

namespace Pjsocky

open Support

/-- What pjsua does by itself. -/
def SipInput.ByPjsua : SipInput → Prop
  | .line .. => False
  | _ => True

/-- A callback of pjsua or a step of a timer, with the answers to the write of the event that
it pushes, if it pushes one. -/
structure Callback where
  input : SipInput
  byPjsua : input.ByPjsua
  env : PushEnv

/-- The SIP side, with the steps that have led to it. -/
structure Course where
  sip : Sip
  history : List (SipInput × Sip)

namespace Course

def start : Course := ⟨.start, []⟩

/-- A step of the SIP side. -/
def advance (build : Build) (course : Course) (input : SipInput) : Course where
  sip := course.sip.step build input
  history := course.history ++ [(input, course.sip.step build input)]

/-- The events that a step pushes. -/
def pushes (build : Build) (course : Course) (callback : Callback) : List Push :=
  (course.sip.requests build callback.input).filterMap fun action =>
    match action with
    | .push event => some ⟨event, callback.env⟩
    | _ => none

/-- Callbacks one after the other, with the events they push. -/
def deliver (build : Build) : List Callback → Course → List Push × Course
  | [], course => ([], course)
  | callback :: rest, course =>
      let later := deliver build rest (course.advance build callback.input)
      (course.pushes build callback ++ later.1, later.2)

/-- The step that a line makes, if it reaches a handler. -/
def command (build : Build) (line : Bytes) (outcomes : Outcomes) (course : Course) : Course :=
  match Daemon.executed build line with
  | some _ => course.advance build (.line line outcomes)
  | none => course

end Course

/-! ## Environments

Those of the server model, with callbacks in place of the events they push and pjsua's answers
in place of the handlers. -/

/-- The environment of one `handle_line`: callbacks before the handler runs, and between it
and the answer. -/
structure CommandEnv where
  ahead : List Callback
  outcomes : Outcomes
  before : List Callback
  reply : PushEnv

/-- The environment of one `open_conn`. -/
structure WelcomeEnv where
  nonblocking : Option Failure
  pool : Bool
  beforePublish : List Callback
  beforeHello : List Callback
  hello : PushEnv

/-- The environment of one iteration of `pjsocky_server_run`. -/
structure TurnEnv where
  idle : List Callback
  select : ServerSelect
  recv : RecvOutcome
  line : Nat → CommandEnv
  beforeOversized : List Callback
  oversized : PushEnv
  beforeClose : List Callback
  accept : Option Failure
  opening : WelcomeEnv
  refusing : RefuseEnv

/-- What the loop meets at its top. -/
inductive SystemInput where
  | stop (beforeClose : List Callback)
  | iterate (env : TurnEnv)

/-- The state of the whole daemon. -/
structure System where
  world : World
  course : Course

/-- Whether `pjsocky_server_run` is at the top of its loop or has returned. -/
inductive SystemLoop where
  | running (system : System)
  | returned (status : Status) (system : System)

def SystemLoop.system : SystemLoop → System
  | .running system => system
  | .returned _ system => system

/-- What the daemon is built and started with. -/
structure Setup where
  build : Build
  writeTimeoutMsec : Nat

/-- The server of this daemon. -/
def Setup.server (setup : Setup) : Server := ⟨setup.build.lib, setup.writeTimeoutMsec⟩

namespace System

variable (setup : Setup)

/-- `close_conn`. -/
def closeConn (before : List Callback) (system : System) : System :=
  let delivered := system.course.deliver setup.build before
  ⟨setup.server.closeConn delivered.1 system.world, delivered.2⟩

/-- `handle_line`. -/
def handleLine (env : CommandEnv) (line : Bytes) (system : System) : Status × System :=
  let first := system.course.deliver setup.build env.ahead
  let handlers := first.2.sip.daemon.handlers setup.build env.outcomes
  let commanded := first.2.command setup.build line env.outcomes
  let second := commanded.deliver setup.build env.before
  let result := setup.server.handleLine ⟨handlers, first.1 ++ second.1, env.reply⟩ line
    system.world
  (result.1, ⟨result.2, second.2⟩)

def setFraming (framing : Framing) (system : System) : System :=
  { system with world := system.world.setFraming framing }

/-- What `handle_conn_input` calls. -/
def lineHandler (env : TurnEnv) : LineHandler System where
  handleLine index framing line system :=
    handleLine setup (env.line index) line (system.setFraming framing)
  pushOversized framing system :=
    let delivered := system.course.deliver setup.build env.beforeOversized
    let world := setup.server.callbacks delivered.1 (system.world.setFraming framing)
    ⟨setup.server.pushErrorEvent .oversized (ascii "bad_request")
      (ascii "line exceeds maximum length") env.oversized world, delivered.2⟩

/-- The active connection's part of an iteration. -/
def serveConn (env : TurnEnv) (readable : Bool) (system : System) : System :=
  if system.world.conn.active && readable then
    let result :=
      handleConnInput (lineHandler setup env) env.recv system.world.conn.framing system
    let system := result.state.setFraming result.framing
    if result.status ≠ .success then closeConn setup env.beforeClose system else system
  else system

/-- `open_conn`; the callbacks before the lock come only if it gets there. -/
def openConn (env : WelcomeEnv) (sock : Nat) (system : System) : System :=
  if env.nonblocking.isSome || !env.pool then
    ⟨setup.server.openConn ⟨env.nonblocking, env.pool, [], [], env.hello⟩ sock system.world,
      system.course⟩
  else
    let first := system.course.deliver setup.build env.beforePublish
    let second := first.2.deliver setup.build env.beforeHello
    ⟨setup.server.openConn ⟨env.nonblocking, env.pool, first.1, second.1, env.hello⟩ sock
      system.world, second.2⟩

/-- The listening socket's part of an iteration. -/
def acceptConn (env : TurnEnv) (system : System) : SystemLoop :=
  match env.accept with
  | some status =>
      .returned status
        (if system.world.conn.active then closeConn setup env.beforeClose system else system)
  | none =>
      let sock := system.world.nextSock
      let system := { system with world := system.world.accept }
      .running
        (if system.world.conn.active then
          { system with world := setup.server.refuseConn env.refusing sock system.world }
        else openConn setup env.opening sock system)

/-- One iteration of `pjsocky_server_run`. -/
def iteration (env : TurnEnv) (system : System) : SystemLoop :=
  let delivered := system.course.deliver setup.build env.idle
  let system : System := ⟨setup.server.callbacks delivered.1 system.world, delivered.2⟩
  match env.select with
  | .failed status =>
      if status.1 = .fromOs eintr then .running system
      else .returned status
        (if system.world.conn.active then closeConn setup env.beforeClose system else system)
  | .timedOut => .running system
  | .ready conn listen =>
      let system := serveConn setup env conn system
      if listen then acceptConn setup env system else .running system

/-- One step of `pjsocky_server_run`. -/
def step : SystemLoop → SystemInput → SystemLoop
  | .returned status system, _ => .returned status system
  | .running system, .stop beforeClose =>
      .returned .success
        (if system.world.conn.active then closeConn setup beforeClose system else system)
  | .running system, .iterate env => iteration setup env system

/-- The daemon as it starts. -/
def start : SystemLoop := .running ⟨Server.start.world, .start⟩

/-- The state after a list of inputs. -/
abbrev run : SystemLoop → List SystemInput → SystemLoop := Machine.run (step setup)

end System

section Concrete

/-- An iteration that meets no obstacle. -/
def TurnEnv.calm (select : ServerSelect) (recv : RecvOutcome) : TurnEnv where
  idle := []
  select := select
  recv := recv
  line _ := ⟨[], .sample, [], .open⟩
  beforeOversized := []
  oversized := .open
  beforeClose := []
  accept := none
  opening := ⟨none, true, [], [], .open⟩
  refusing := ⟨true, .open⟩

end Concrete
end Pjsocky
