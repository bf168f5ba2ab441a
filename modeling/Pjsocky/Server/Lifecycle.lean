import Pjsocky.Server.Trace
import Pjsocky.Support.Machine

/-!
# One connection at a time

`Phase` is what a socket may go through, stated without the server: it arrives, is
then served, refused or given up, and is closed once. Reading a trace, `lifePhase`
follows one socket and breaks on anything else, in particular on a message that is
written outside the time the socket is served and on two sockets being served at
once. `SingleConnection` is the invariant of the loop's top: no socket's life is
broken, and the only one that is not closed is the active connection's.
-/

namespace Pjsocky

open Support

/-- The phases of an accepted socket. -/
inductive Phase where
  | fresh
  | arrived
  | refused
  | serving
  | withdrawn
  | closed
  | broken
deriving DecidableEq, Repr

/-- How an observation moves a socket's phase. -/
def Phase.next (sock : Nat) (phase : Phase) : Obs → Phase
  | .accepted other =>
      if other ≠ sock then phase else if phase = .fresh then .arrived else .broken
  | .published other =>
      if other = sock then (if phase = .arrived then .serving else .broken)
      else if phase = .serving then .broken else phase
  | .unpublished => if phase = .serving then .withdrawn else phase
  | .closed other =>
      if other ≠ sock then phase
      else if phase = .arrived ∨ phase = .refused ∨ phase = .withdrawn then .closed else .broken
  | .wrote other origin _ _ =>
      if other ≠ sock then phase
      else if origin = .refusal then (if phase = .arrived then .refused else .broken)
      else if phase = .serving then .serving else .broken
  | .delivered _ _ => phase
  | .ran _ => phase

/-- The phase of a socket after a trace. -/
def lifePhase (sock : Nat) (trace : List Obs) : Phase :=
  Machine.run (Phase.next sock) .fresh trace

theorem lifePhase_append (sock : Nat) (first second : List Obs) :
    lifePhase sock (first ++ second) =
      Machine.run (Phase.next sock) (lifePhase sock first) second :=
  Machine.run_append _ _ _ _

/-- Whether an observation closes the socket. -/
def Obs.closes (sock : Nat) : Obs → Bool
  | .closed other => other = sock
  | _ => false

/-- How often a socket was closed. -/
def closings (sock : Nat) (trace : List Obs) : Nat := trace.countP (Obs.closes sock)

/-- What `refuse_conn` may write: a prefix of its one line. -/
def Obs.Polite (srv : Server) : Obs → Prop
  | .wrote _ .refusal message result =>
      message = srv.refusal ∧ result.accepted <+: srv.lib.writer.line srv.refusal
  | _ => True

@[simp] theorem Phase.next_broken (sock : Nat) (obs : Obs) :
    Phase.next sock .broken obs = .broken := by
  cases obs <;> simp [Phase.next]

/-- A broken life stays broken. -/
theorem run_broken (sock : Nat) (trace : List Obs) :
    Machine.run (Phase.next sock) .broken trace = .broken := by
  induction trace with
  | nil => rfl
  | cons obs rest ih => rw [Machine.run_cons, Phase.next_broken, ih]

/-- A life that does not break closes its socket at most once, and has done so
exactly when it is in the last phase. -/
theorem closings_of_phase {sock : Nat} {trace : List Obs} (phase : Phase)
    (unbroken : Machine.run (Phase.next sock) phase trace ≠ .broken) :
    (if phase = .closed then 1 else 0) + closings sock trace =
      if Machine.run (Phase.next sock) phase trace = .closed then 1 else 0 := by
  induction trace generalizing phase with
  | nil => rfl
  | cons obs rest ih =>
      rw [Machine.run_cons] at unbroken ⊢
      have later := ih _ unbroken
      have here : phase.next sock obs ≠ .broken := by
        intro broken
        rw [broken, run_broken] at unbroken
        exact unbroken rfl
      rw [← later, closings, closings, List.countP_cons]
      cases obs <;> simp only [Phase.next, Obs.closes] at here ⊢ <;> split_ifs at here ⊢ <;>
        grind

/-- In an unbroken life a message is written while the socket is served, and a
refusal before that. -/
theorem phase_of_wrote {sock : Nat} {origin : Origin} {message : JsonElem}
    {result : SendResult} {before after : List Obs}
    (unbroken : lifePhase sock (before ++ .wrote sock origin message result :: after) ≠ .broken) :
    lifePhase sock before = if origin = .refusal then .arrived else .serving := by
  rw [lifePhase_append, Machine.run_cons] at unbroken
  by_contra other
  have broken : Phase.next sock (lifePhase sock before) (.wrote sock origin message result) =
      .broken := by
    by_cases isRefusal : origin = .refusal <;> simp_all [Phase.next]
  rw [broken, run_broken] at unbroken
  exact unbroken rfl

theorem run_ne_fresh {sock : Nat} {phase : Phase} (past : phase ≠ .fresh) (trace : List Obs) :
    Machine.run (Phase.next sock) phase trace ≠ .fresh := by
  induction trace generalizing phase with
  | nil => exact past
  | cons obs rest ih =>
      apply ih
      cases obs with
      | delivered _ line => exact past
      | ran fn => exact past
      | _ =>
          simp only [Phase.next]
          split_ifs <;> simp_all

/-- Messages let through leave every phase alone. -/
theorem run_quiet {lib : Pjlib} {connected : Option Nat} {sock : Nat} {phase : Phase}
    {added : List Obs} (quiet : ∀ obs ∈ added, obs.Quiet lib connected)
    (serving : connected = some sock → phase = .serving) :
    Machine.run (Phase.next sock) phase added = phase := by
  induction added with
  | nil => rfl
  | cons obs rest ih =>
      have here := quiet obs List.mem_cons_self
      have same : phase.next sock obs = phase := by
        cases obs with
        | wrote other origin message result =>
            obtain ⟨published, notRefusal, -⟩ := here
            by_cases isSock : other = sock
            · have isServing := serving (by rw [published, isSock])
              simp [Phase.next, isSock, notRefusal, isServing]
            · simp [Phase.next, isSock]
        | delivered _ line => rfl
        | ran fn => rfl
        | accepted _ | closed _ | published _ | unpublished => exact here.elim
      rw [Machine.run_cons, same]
      exact ih fun obs member => quiet obs (List.mem_cons_of_mem _ member)

/-- The phase in which a socket should be when some are accepted and at most one is
served. -/
def expectedPhase (nextSock : Nat) (served : Option Nat) (sock : Nat) : Phase :=
  if sock < nextSock then (if served = some sock then .serving else .closed) else .fresh

@[simp] theorem expectedPhase_nextSock (nextSock : Nat) (served : Option Nat) :
    expectedPhase nextSock served nextSock = .fresh := by
  simp [expectedPhase]

theorem expectedPhase_succ {nextSock sock : Nat} (served : Option Nat)
    (other : sock ≠ nextSock) :
    expectedPhase (nextSock + 1) served sock = expectedPhase nextSock served sock := by
  unfold expectedPhase
  by_cases below : sock < nextSock
  · rw [if_pos below, if_pos (Nat.lt_succ_of_lt below)]
  · rw [if_neg below, if_neg (by omega)]

/-- The socket of the active connection. -/
def World.served (world : World) : Option Nat :=
  if world.conn.active then some world.conn.sock else none

/-- The invariant of the loop's top. -/
structure SingleConnection (srv : Server) (world : World) : Prop where
  /-- The event module points to the active connection, or nowhere. -/
  pointer : world.events = if world.conn.active then .conn else .null
  framing : world.conn.active = true → world.conn.framing.sock = world.conn.sock
  timed : srv.Timed world
  accepted : ∀ sock, world.served = some sock → sock < world.nextSock
  /-- Every accepted socket is closed, but the active one, which is served. -/
  phase : ∀ sock, lifePhase sock world.trace = expectedPhase world.nextSock world.served sock
  polite : ∀ obs ∈ world.trace, obs.Polite srv

variable {srv : Server} {world : World}

namespace SingleConnection

theorem events_conn (single : SingleConnection srv world) (active : world.conn.active = true) :
    world.events = .conn := by
  rw [single.pointer, if_pos active]

theorem events_null (single : SingleConnection srv world) (inactive : world.conn.active = false) :
    world.events = .null := by
  rw [single.pointer, inactive]
  rfl

/-- The published socket is that of the active connection. -/
theorem connected_eq (single : SingleConnection srv world) : world.connected = world.served := by
  cases active : world.conn.active with
  | false => simp [World.connected, World.served, single.events_null active, active]
  | true =>
      simp [World.connected, World.served, single.events_conn active, active,
        single.framing active]

theorem connected_active (single : SingleConnection srv world)
    (active : world.conn.active = true) : world.connected = some world.conn.sock := by
  rw [single.connected_eq, World.served, if_pos active]

theorem serving (single : SingleConnection srv world) {sock : Nat}
    (connected : world.connected = some sock) : lifePhase sock world.trace = .serving := by
  rw [single.connected_eq] at connected
  rw [single.phase, expectedPhase, if_pos (single.accepted sock connected), if_pos connected]

theorem start : SingleConnection srv Server.start.world where
  pointer := rfl
  framing := by intro active; cases active
  timed := by intro published; cases published
  accepted := by intro sock served; cases served
  phase _ := rfl
  polite := by intro obs member; cases member

/-- Letting messages through keeps the invariant. -/
theorem quiet (single : SingleConnection srv world) {after : World}
    (quiet : Quiet srv.lib world after) : SingleConnection srv after := by
  obtain ⟨added, trace, isQuiet⟩ := quiet.grows
  have served : after.served = world.served := by
    rw [World.served, World.served, quiet.active, quiet.sock]
  refine ⟨?_, ?_, single.timed.quiet quiet, ?_, fun sock => ?_, fun obs member => ?_⟩
  · rw [quiet.events, quiet.active, single.pointer]
  · rw [quiet.active, quiet.framingSock, quiet.sock]
    exact single.framing
  · rw [served, quiet.nextSock]
    exact single.accepted
  · rw [trace, lifePhase_append, run_quiet isQuiet fun connected => single.serving connected,
      single.phase, served, quiet.nextSock]
  · rw [trace] at member
    rcases List.mem_append.mp member with old | new
    · exact single.polite obs old
    · cases obs with
      | wrote sock origin message result =>
          have notRefusal := (isQuiet _ new).2.1
          cases origin with
          | refusal => exact absurd rfl notRefusal
          | _ => trivial
      | _ => trivial

/-- Closing the active connection leaves none. -/
theorem close (single : SingleConnection srv world) (active : world.conn.active = true)
    (before : List Push) : SingleConnection srv (srv.closeConn before world) := by
  have last := single.quiet (Server.callbacks_quiet before single.timed)
  have served : (srv.callbacks before world).served =
      some (srv.callbacks before world).conn.sock := by
    rw [World.served, Server.callbacks_conn, if_pos active]
  rw [Server.closeConn_eq]
  refine ⟨rfl, by simp, by simp [Server.Timed], by simp [World.served], fun sock => ?_,
    fun obs member => ?_⟩
  · have bound := last.accepted _ served
    rw [lifePhase_append, last.phase sock, served]
    simp only [World.served, expectedPhase, Option.some.injEq]
    by_cases isSock : sock = (srv.callbacks before world).conn.sock
    · simp [isSock, bound, Phase.next]
    · simp only [Ne.symm isSock, if_false]
      split <;> simp [Phase.next, Ne.symm isSock]
  · rcases List.mem_append.mp member with old | new
    · exact last.polite obs old
    · rcases List.mem_cons.mp new with rfl | closed
      · trivial
      · rw [List.mem_singleton.mp closed]
        trivial

theorem accept_phase (single : SingleConnection srv world) (sock : Nat) :
    lifePhase sock world.accept.trace =
      if sock = world.nextSock then .arrived
      else expectedPhase world.nextSock world.served sock := by
  rw [World.accept, World.record, lifePhase_append, single.phase, Machine.run_cons,
    Machine.run_nil, Phase.next]
  by_cases isSock : sock = world.nextSock
  · simp [isSock]
  · simp [isSock, Ne.symm isSock]

theorem accept_polite (single : SingleConnection srv world) :
    ∀ obs ∈ world.accept.trace, obs.Polite srv := by
  intro obs member
  rcases List.mem_append.mp member with old | new
  · exact single.polite obs old
  · rw [List.mem_singleton.mp new]
    trivial

/-- A socket that is closed after it arrived changes nothing else. -/
theorem giveUp (single : SingleConnection srv world) {added : List Obs}
    (own : Machine.run (Phase.next world.nextSock) .arrived added = .closed)
    (others : ∀ sock phase, sock ≠ world.nextSock →
      Machine.run (Phase.next sock) phase added = phase)
    (polite : ∀ obs ∈ added, obs.Polite srv) :
    SingleConnection srv { world.accept with trace := world.accept.trace ++ added } := by
  refine ⟨single.pointer, single.framing, single.timed, fun sock served => ?_, fun sock => ?_,
    fun obs member => ?_⟩
  · exact Nat.lt_succ_of_lt (single.accepted sock served)
  · change _ = expectedPhase (world.nextSock + 1) world.served sock
    rw [lifePhase_append, single.accept_phase]
    by_cases isSock : sock = world.nextSock
    · have notServed : world.served ≠ some world.nextSock :=
        fun served => Nat.lt_irrefl _ (single.accepted _ served)
      subst isSock
      rw [if_pos rfl, own, expectedPhase, if_pos (Nat.lt_succ_self _), if_neg notServed]
    · rw [if_neg isSock, others sock _ isSock, expectedPhase_succ _ isSock]
  · rcases List.mem_append.mp member with old | new
    · exact single.accept_polite obs old
    · exact polite obs new

/-- Refusing a connection only shows in that connection's own life. -/
theorem refuse (single : SingleConnection srv world) (env : RefuseEnv) :
    SingleConnection srv (srv.refuseConn env world.nextSock world.accept) := by
  obtain ⟨added, refused, isAdded⟩ := srv.refuseConn_eq env world.nextSock world.accept
  rw [refused]
  rcases isAdded with rfl | ⟨result, isPrefix, rfl⟩
  · exact single.giveUp (by simp [Phase.next])
      (fun sock phase other => by simp [Phase.next, Ne.symm other]) (by simp [Obs.Polite])
  · exact single.giveUp (by simp [Phase.next])
      (fun sock phase other => by simp [Phase.next, Ne.symm other])
      (by simp [Obs.Polite, isPrefix])

/-- A published connection is the served one. -/
theorem publish (single : SingleConnection srv world) (inactive : world.conn.active = false) :
    SingleConnection srv (srv.publish world.nextSock world.accept).activate := by
  refine ⟨rfl, fun _ => rfl, fun _ => rfl, ?_, fun sock => ?_, fun obs member => ?_⟩
  · rintro _ ⟨⟩
    exact Nat.lt_succ_self _
  · have trace := srv.publish_trace world.nextSock world.accept
    have none : world.served = none := by rw [World.served, inactive]; rfl
    change _ = expectedPhase (world.nextSock + 1) (some world.nextSock) sock
    rw [World.activate, trace, lifePhase_append, single.accept_phase, none]
    by_cases isSock : sock = world.nextSock
    · simp [isSock, Phase.next, expectedPhase]
    · rw [if_neg isSock, expectedPhase_succ _ isSock]
      simp only [Machine.run_cons, Machine.run_nil, Phase.next, Ne.symm isSock, if_false,
        expectedPhase, Option.some.injEq, reduceCtorEq]
      split <;> rfl
  · rcases List.mem_append.mp member with old | new
    · exact single.accept_polite obs old
    · rw [List.mem_singleton.mp new]
      trivial

/-- Opening a connection makes it the active one, or closes it. -/
theorem openConn (single : SingleConnection srv world) (inactive : world.conn.active = false)
    (env : OpenEnv) :
    SingleConnection srv (srv.openConn env world.nextSock world.accept) := by
  have unpublished : world.accept.events = .null := single.events_null inactive
  rw [Server.openConn_eq unpublished]
  split
  · exact (single.publish inactive).quiet (Server.greet_quiet env _ _).activate
  · exact single.giveUp (by simp [Phase.next])
      (fun sock phase other => by simp [Phase.next, Ne.symm other]) (by simp [Obs.Polite])

theorem serveInput (single : SingleConnection srv world) (active : world.conn.active = true)
    (env : IterationEnv) : SingleConnection srv (srv.serveInput env world) := by
  rcases Server.serveInput_quiet env (single.connected_active active) single.timed with
    quiet | ⟨state, quiet, closed⟩
  · exact single.quiet quiet
  · rw [closed]
    exact (single.quiet quiet).close (quiet.active.trans active) _

theorem iteration (single : SingleConnection srv world) (env : IterationEnv) :
    SingleConnection srv (srv.iteration env world).world := by
  have idle := single.quiet (Server.callbacks_quiet env.idle single.timed)
  refine Server.iteration_rule idle (fun active => ?_) (fun _ next holds active => ?_)
    (fun next holds _ => holds.refuse _) (fun next holds opens => holds.openConn opens.inactive _)
  · exact idle.serveInput (by rwa [Server.callbacks_conn]) env
  · exact holds.close active _

theorem step {loop : Loop} (single : SingleConnection srv loop.world) (input : LoopInput) :
    SingleConnection srv (srv.step loop input).world := by
  refine Server.step_rule single (fun world before isLoop _ active => ?_)
    (fun world env isLoop _ => ?_)
  · subst isLoop
    exact single.close active before
  · subst isLoop
    exact single.iteration env

/-- The invariant holds after every run. -/
theorem run (srv : Server) (inputs : List LoopInput) :
    SingleConnection srv (Machine.run srv.step Server.start inputs).world :=
  @Machine.invariant_always _ _ srv.step (fun loop => SingleConnection srv loop.world)
    (fun _ input single => single.step input) _ start inputs

theorem serveConn (single : SingleConnection srv world) (env : IterationEnv) (readable : Bool) :
    SingleConnection srv (srv.serveConn env readable world) := by
  unfold Server.serveConn
  split
  · rename_i readable
    exact single.serveInput (Bool.and_eq_true_iff.mp readable).1 env
  · exact single

/-- A connection that arrives while one is active is refused: it sees at most the
refusal, and the active connection is left alone. One that arrives when none is
active is served, unless it cannot be set up. -/
theorem arrival (single : SingleConnection srv world) {env : IterationEnv} {readable : Bool}
    (ready : env.select = .ready readable true) (accepted : env.accept = none) :
    let present := srv.serveConn env readable (srv.callbacks env.idle world)
    ∃ next, srv.iteration env world = .running next ∧
      (present.conn.active = true → next.conn = present.conn ∧ next.events = present.events ∧
        ∃ added, next.trace = present.accept.trace ++ added ∧
          (added = [.closed present.nextSock] ∨
            ∃ result : SendResult, result.accepted <+: srv.lib.writer.line srv.refusal ∧
              added = [.wrote present.nextSock .refusal srv.refusal result,
                .closed present.nextSock])) ∧
      (present.conn.active = false →
        if env.opening.nonblocking = none ∧ env.opening.pool = true then
          next.served = some present.nextSock ∧ next.events = .conn
        else next.conn.active = false ∧ next.events = .null ∧
          next.trace = present.accept.trace ++ [.closed present.nextSock]) := by
  intro present
  have here : SingleConnection srv present :=
    (single.quiet (Server.callbacks_quiet env.idle single.timed)).serveConn env readable
  have turn : srv.iteration env world = .running
      (if present.conn.active then srv.refuseConn env.refusing present.nextSock present.accept
      else srv.openConn env.opening present.nextSock present.accept) := by
    simp only [Server.iteration, Server.acceptConn, ready, accepted, if_true]
    rfl
  refine ⟨_, turn, fun active => ?_, fun inactive => ?_⟩
  · obtain ⟨added, refused, isAdded⟩ :=
      srv.refuseConn_eq env.refusing present.nextSock present.accept
    rw [if_pos active, refused]
    exact ⟨rfl, rfl, added, rfl, isAdded⟩
  · have unpublished : present.accept.events = .null := here.events_null inactive
    rw [inactive, if_neg Bool.false_ne_true, Server.openConn_eq unpublished]
    split
    · have greeted := @Server.greet_quiet srv env.opening present.nextSock present.accept
      refine ⟨?_, greeted.events⟩
      rw [World.served, World.activate, if_pos rfl]
      exact congrArg some greeted.sock
    · exact ⟨inactive, unpublished, rfl⟩

end SingleConnection

/-- A socket that has been accepted is past the first phase. -/
theorem not_fresh_of_accepted {sock : Nat} {trace : List Obs}
    (accepted : .accepted sock ∈ trace) (phase : Phase) :
    Machine.run (Phase.next sock) phase trace ≠ .fresh := by
  induction trace generalizing phase with
  | nil => cases accepted
  | cons obs rest ih =>
      rw [Machine.run_cons]
      rcases List.mem_cons.mp accepted with rfl | later
      · have moved : phase.next sock (.accepted sock) ≠ .fresh := by
          cases phase <;> simp [Phase.next]
        exact run_ne_fresh moved rest
      · exact ih later _

/-- The server has one connection at a time. After every run the event module points
to the active connection's framing or nowhere; every accepted socket has been closed
exactly once, except the active one, which has not; no message but a refusal is
written to a socket outside the time it is served, a refusal is the refused socket's
only line, and events fired while none is served are discarded; and a connection
that arrives is refused or served according to whether one is active by then. -/
theorem server_single_connection (srv : Server) (inputs : List LoopInput) :
    let world := (Machine.run srv.step Server.start inputs).world
    world.events = (if world.conn.active then .conn else .null) ∧
      (world.conn.active = true → world.conn.framing.sock = world.conn.sock) ∧
      (∀ sock, .accepted sock ∈ world.trace →
        closings sock world.trace = if world.served = some sock then 0 else 1) ∧
      (∀ sock, lifePhase sock world.trace ≠ .broken) ∧
      (∀ before sock origin message result after,
        world.trace = before ++ .wrote sock origin message result :: after →
        if origin = .refusal then
          lifePhase sock before = .arrived ∧ message = srv.refusal ∧
            result.accepted <+: srv.lib.writer.line srv.refusal
        else lifePhase sock before = .serving) ∧
      (world.conn.active = false → ∀ pushes, srv.callbacks pushes world = world) ∧
      ∀ (env : IterationEnv) (readable : Bool),
        env.select = .ready readable true → env.accept = none →
        let present := srv.serveConn env readable (srv.callbacks env.idle world)
        ∃ next, srv.iteration env world = .running next ∧
          (present.conn.active = true → next.conn = present.conn ∧ next.events = present.events ∧
            ∃ added, next.trace = present.accept.trace ++ added ∧
              (added = [.closed present.nextSock] ∨
                ∃ result : SendResult, result.accepted <+: srv.lib.writer.line srv.refusal ∧
                  added = [.wrote present.nextSock .refusal srv.refusal result,
                    .closed present.nextSock])) ∧
          (present.conn.active = false →
            if env.opening.nonblocking = none ∧ env.opening.pool = true then
              next.served = some present.nextSock ∧ next.events = .conn
            else next.conn.active = false ∧ next.events = .null ∧
              next.trace = present.accept.trace ++ [.closed present.nextSock]) := by
  intro world
  have single := SingleConnection.run srv inputs
  have unbroken : ∀ sock, lifePhase sock world.trace ≠ .broken := by
    intro sock
    rw [single.phase, expectedPhase]
    split_ifs <;> simp
  refine ⟨single.pointer, single.framing, fun sock accepted => ?_, unbroken, ?_,
    fun inactive pushes => Server.callbacks_null pushes (single.events_null inactive),
    fun env readable ready accepted => single.arrival ready accepted⟩
  · have count := closings_of_phase .fresh (unbroken sock)
    have phase := single.phase sock
    have known : lifePhase sock world.trace ≠ .fresh := not_fresh_of_accepted accepted .fresh
    have below : sock < world.nextSock := by
      by_contra above
      exact known (phase.trans (if_neg above))
    rw [expectedPhase, if_pos below] at phase
    change 0 + closings sock world.trace = if lifePhase sock world.trace = .closed then 1 else 0
      at count
    rw [phase] at count
    split_ifs at count ⊢ <;> simp_all
  · intro before sock origin message result after split
    have phase := phase_of_wrote (split ▸ unbroken sock)
    have polite := single.polite (.wrote sock origin message result) (by rw [split]; simp)
    cases origin with
    | refusal => exact ⟨phase, polite⟩
    | _ => exact phase

end Pjsocky
