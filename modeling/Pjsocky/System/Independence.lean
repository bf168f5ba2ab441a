import Pjsocky.System.Model

/-!
# The SIP side does not depend on the control connection

Whatever the clients do and however their connections fail, the SIP side goes through what
its own steps determine: two runs of the daemon that take the same steps of the SIP side have
it in the same state after each of them, with the same requests made of pjsua.
-/

namespace Pjsocky

open Support

/-- The course is the run of the SIP side on its own over the steps it has taken. -/
structure Course.Follows (build : Build) (course : Course) : Prop where
  sip : course.sip = Sip.run build .start (course.history.map Prod.fst)
  history : course.history = Machine.trace (Sip.step build) .start (course.history.map Prod.fst)

namespace Course.Follows

variable {build : Build} {course : Course}

theorem start : Follows build .start := ⟨rfl, rfl⟩

theorem advance (follows : course.Follows build) (input : SipInput) :
    (course.advance build input).Follows build := by
  have script : (course.advance build input).history.map Prod.fst =
      course.history.map Prod.fst ++ [input] := List.map_append
  refine ⟨?_, ?_⟩
  · rw [script, Sip.run, Machine.run_append, ← Sip.run, ← follows.sip]
    rfl
  · rw [script, Machine.trace_append, ← follows.history, ← Sip.run, ← follows.sip]
    rfl

theorem deliver (follows : course.Follows build) (callbacks : List Callback) :
    (course.deliver build callbacks).2.Follows build := by
  induction callbacks generalizing course with
  | nil => exact follows
  | cons callback rest ih => exact ih (follows.advance callback.input)

theorem command (follows : course.Follows build) (line : Bytes) (outcomes : Outcomes) :
    (course.command build line outcomes).Follows build := by
  unfold Course.command
  split
  · exact follows.advance _
  · exact follows

end Course.Follows

namespace System

/-- The SIP side of the system is on its course. -/
def Follows (setup : Setup) (system : System) : Prop := system.course.Follows setup.build

variable {setup : Setup} {system : System}

theorem Follows.closeConn (follows : system.Follows setup) (before : List Callback) :
    (closeConn setup before system).Follows setup :=
  Course.Follows.deliver follows before

theorem Follows.handleLine (follows : system.Follows setup) (env : CommandEnv) (line : Bytes) :
    (handleLine setup env line system).2.Follows setup :=
  ((Course.Follows.deliver follows env.ahead).command line env.outcomes).deliver env.before

theorem Follows.serveConn (follows : system.Follows setup) (env : TurnEnv) (readable : Bool) :
    (serveConn setup env readable system).Follows setup := by
  unfold System.serveConn
  split
  · have served : (handleConnInput (lineHandler setup env) env.recv system.world.conn.framing
        system).state.Follows setup := by
      apply handleConnInput_invariant _ _ _ _ follows
      · intro index framing line state follows
        exact Follows.handleLine follows (env.line index) line
      · intro framing state follows
        exact Course.Follows.deliver follows env.beforeOversized
    dsimp only
    split
    · exact Follows.closeConn served env.beforeClose
    · exact served
  · exact follows

theorem Follows.openConn (follows : system.Follows setup) (env : WelcomeEnv) (sock : Nat) :
    (openConn setup env sock system).Follows setup := by
  unfold System.openConn
  split
  · exact follows
  · exact (Course.Follows.deliver follows env.beforePublish).deliver env.beforeHello

theorem Follows.acceptConn (follows : system.Follows setup) (env : TurnEnv) :
    (acceptConn setup env system).system.Follows setup := by
  unfold System.acceptConn
  split
  · dsimp only [SystemLoop.system]
    split
    · exact follows.closeConn env.beforeClose
    · exact follows
  · dsimp only [SystemLoop.system]
    split
    · exact follows
    · refine Follows.openConn ?_ env.opening _
      exact follows

theorem Follows.iteration (follows : system.Follows setup) (env : TurnEnv) :
    (iteration setup env system).system.Follows setup := by
  have idle : Follows setup ⟨setup.server.callbacks
      (system.course.deliver setup.build env.idle).1 system.world,
      (system.course.deliver setup.build env.idle).2⟩ := Course.Follows.deliver follows env.idle
  unfold System.iteration
  dsimp only
  split
  · split
    · exact idle
    · dsimp only [SystemLoop.system]
      split
      · exact idle.closeConn env.beforeClose
      · exact idle
  · exact idle
  · rename_i conn listen _
    have served := idle.serveConn env conn
    split
    · exact served.acceptConn env
    · exact served

theorem Follows.step {loop : SystemLoop} (follows : loop.system.Follows setup)
    (input : SystemInput) : (step setup loop input).system.Follows setup := by
  cases loop with
  | returned => exact follows
  | running system =>
      cases input with
      | stop beforeClose =>
          dsimp only [System.step, SystemLoop.system]
          split
          · exact Follows.closeConn follows beforeClose
          · exact follows
      | iterate env => exact Follows.iteration follows env

/-- Every run of the daemon takes its SIP side along its course. -/
theorem run_follows (setup : Setup) (inputs : List SystemInput) :
    (run setup start inputs).system.Follows setup := by
  have started : start.system.Follows setup := Course.Follows.start
  exact @Machine.invariant_always _ _ (step setup) (fun loop => loop.system.Follows setup)
    (fun _ input follows => follows.step input) start started inputs

/-- The steps that the SIP side has taken in a run: the commands executed, the callbacks and
the expiries, with pjsua's answers. -/
def script (setup : Setup) (inputs : List SystemInput) : List SipInput :=
  (run setup start inputs).system.course.history.map Prod.fst

/-- In any two runs of the daemon, whatever the clients, the connections and the writes do,
the SIP side and the requests it has made of pjsua are the same after each step that the two
scripts have in common, and still the same at the end when the scripts are. -/
theorem sip_independent (build : Build) (leftTimeout rightTimeout : Nat)
    (left right : List SystemInput) :
    let leftCourse := (run ⟨build, leftTimeout⟩ start left).system.course
    let rightCourse := (run ⟨build, rightTimeout⟩ start right).system.course
    (∀ count,
      (script ⟨build, leftTimeout⟩ left).take count =
        (script ⟨build, rightTimeout⟩ right).take count →
      leftCourse.history.take count = rightCourse.history.take count) ∧
    (script ⟨build, leftTimeout⟩ left = script ⟨build, rightTimeout⟩ right →
      leftCourse.sip = rightCourse.sip) := by
  have leftFollows := run_follows ⟨build, leftTimeout⟩ left
  have rightFollows := run_follows ⟨build, rightTimeout⟩ right
  refine ⟨fun count common => ?_, fun same => ?_⟩
  · rw [leftFollows.history, rightFollows.history, Machine.take_trace, Machine.take_trace]
    exact congrArg _ common
  · rw [leftFollows.sip, rightFollows.sip]
    exact congrArg _ same

section Concrete

/-- The line of a client that sets the ring timeout. -/
def timeoutLine : Bytes := requestLine "config.set_ring_timeout" "\"seconds\":30"

/-- A daemon that parses it. -/
def timeoutBuild : Build :=
  sampleBuild [(timeoutLine, request "config.set_ring_timeout" [addNumber "seconds" 30])]

/-- A call comes in; `env` is what the write of its event meets. -/
def ringing (env : PushEnv) : Callback :=
  ⟨.incomingCall 0 (.sample 0 .incoming []), trivial, env⟩

/-- The client that set the timeout is gone when the call comes in. -/
def clientGone : List SystemInput :=
  [.iterate (.calm (.ready false true) (.received [])),
    .iterate (.calm (.ready true false) (.received (timeoutLine ++ [lineFeed]))),
    .iterate (.calm (.ready true false) (.received [])),
    .iterate { TurnEnv.calm .timedOut (.received []) with idle := [ringing .open] }]

/-- The client stays, and does not read the event. -/
def clientStalls : List SystemInput :=
  [.iterate (.calm (.ready false true) (.received [])),
    .iterate (.calm (.ready true false) (.received (timeoutLine ++ [lineFeed]))),
    .iterate { TurnEnv.calm .timedOut (.received []) with idle := [ringing (.stalled 3)] }]

/-- The connection differs, the SIP side does not. -/
theorem clientGone_clientStalls :
    let gone := (run ⟨timeoutBuild, 5000⟩ start clientGone).system
    let stalls := (run ⟨timeoutBuild, 5000⟩ start clientStalls).system
    gone.world.conn.active = false ∧ stalls.world.conn.active = true ∧
      gone.course.sip = stalls.course.sip := by
  have same : script ⟨timeoutBuild, 5000⟩ clientGone = script ⟨timeoutBuild, 5000⟩ clientStalls :=
    rfl
  exact ⟨rfl, rfl, (sip_independent timeoutBuild 5000 5000 clientGone clientStalls).2 same⟩

end Concrete
end System
end Pjsocky
