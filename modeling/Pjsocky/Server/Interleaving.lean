import Pjsocky.Server.Locking

/-!
# Every interleaving is one of the server model

Any number of pjsua's threads push events while the control thread opens, serves and closes
connections. Between two acquisitions of the lock each of them may be anywhere in its code,
and a write may stop in the middle of a message for as long as the socket is full. What the
threads share is nevertheless, whenever the lock is free, what the server model makes of the
same calls in the order in which they took the lock (`interleaving_serial`), and at every
moment a socket has taken a beginning of what that makes of it (`interleaving_prefix`). No
thread ever writes to a socket that has been closed (`interleaving_safe`).
-/

namespace Pjsocky

open Support Support.Sections

/-! ## Writers -/

/-- Code that looks for the published connection and writes to nothing else. -/
inductive Speaks (connected : Option (Nat × Nat)) : Code Bus Status → Prop
  | ret (status : Status) : Speaks connected (.ret status)
  | look {next : Bus → Code Bus Status} {later : Code Bus Status}
      (sees : ∀ bus : Bus, bus.connected = connected → next bus = later)
      (speaks : Speaks connected later) : Speaks connected (.access id next)
  | send {sock timeoutMsec : Nat} {bytes : Bytes} {next : Bus → Code Bus Status}
      {later : Code Bus Status} (published : connected = some (sock, timeoutMsec))
      (sees : ∀ bus : Bus, bus.connected = connected → next bus = later)
      (speaks : Speaks connected later) : Speaks connected (.access (·.send sock bytes) next)

namespace Speaks

variable {connected : Option (Nat × Nat)} {code : Code Bus Status} {bus : Bus}

/-- One access of a writer. -/
theorem access {change : Bus → Bus} {next : Bus → Code Bus Status}
    (speaks : Speaks connected (.access change next)) (here : bus.connected = connected) :
    Speaks connected (next bus) ∧
      (change bus = bus ∨ ∃ sock timeoutMsec bytes, connected = some (sock, timeoutMsec) ∧
        change bus = bus.send sock bytes) := by
  cases speaks with
  | look sees later => exact ⟨sees bus here ▸ later, .inl rfl⟩
  | send published sees later =>
      exact ⟨sees bus here ▸ later, .inr ⟨_, _, _, published, rfl⟩⟩

theorem bind (speaks : Speaks connected code) {later : Status → Code Bus Status}
    (after : ∀ status, Speaks connected (later status)) :
    Speaks connected (code.bind later) := by
  induction speaks with
  | ret status => exact after status
  | look sees _ ih =>
      exact .look (fun bus here => congrArg (Code.bind · later) (sees bus here)) ih
  | send published sees _ ih =>
      exact .send published (fun bus here => congrArg (Code.bind · later) (sees bus here)) ih

theorem sendAll {sock timeoutMsec : Nat} (published : connected = some (sock, timeoutMsec))
    (started : Int) (steps : List SendStep) (buf : Bytes) :
    Speaks connected (sendAllCode sock timeoutMsec started steps buf) := by
  induction steps generalizing buf with
  | nil =>
      unfold sendAllCode
      split
      · exact .ret _
      · exact .send published (fun _ _ => rfl) (.ret _)
  | cons step rest ih =>
      unfold sendAllCode
      split
      · exact .ret _
      · cases step with
        | sent count =>
            dsimp only
            split
            · exact .ret _
            · exact .send published (fun _ _ => rfl) (ih _)
        | failed status => exact .ret _
        | blocked now wait =>
            dsimp only
            split
            · exact .ret _
            · refine .look (fun _ _ => rfl) ?_
              cases wait with
              | ready => exact ih _
              | expired => exact .ret _
              | failed status =>
                  dsimp only
                  split
                  · exact ih _
                  · exact .ret _

theorem writeLine {sock timeoutMsec : Nat} (published : connected = some (sock, timeoutMsec))
    (line : Bytes) (env : WriteEnv) : Speaks connected (writeLineCode line env) := by
  have points : ∀ bus : Bus, bus.connected = connected →
      bus.sock = sock ∧ bus.writeTimeoutMsec = timeoutMsec := by
    intro bus here
    rw [published, Bus.connected] at here
    split at here
    · cases here
    · exact Prod.mk.inj (Option.some.inj here)
  refine .look (fun bus here => by rw [(points bus here).1, (points bus here).2]) ?_
  refine bind (sendAll published _ _ _) fun status => ?_
  split
  · exact .ret _
  · exact .look (fun bus here => by rw [(points bus here).1, (points bus here).2])
      (sendAll published _ _ _)

theorem writeJson {sock timeoutMsec : Nat} (published : connected = some (sock, timeoutMsec))
    (writer : JsonWriter) (elem : JsonElem) (env : WriteEnv) :
    Speaks connected (writeJsonCode writer elem env) := by
  unfold writeJsonCode
  split
  · exact .ret _
  · exact writeLine published _ _

/-- The two functions of `events.c` that write. -/
theorem call (srv : Server) (connected : Option (Nat × Nat)) {call : LockCall}
    (writes : ∀ framing, call ≠ .setConn framing) : Speaks connected (call.code srv) := by
  have unpublished : ∀ bus : Bus, bus.connected = none → bus.events = .null := by
    intro bus here
    rw [Bus.connected] at here
    split at here
    · assumption
    · cases here
  have published : ∀ (bus : Bus) (target : Nat × Nat), bus.connected = some target →
      bus.events = .conn := by
    intro bus target here
    rw [Bus.connected] at here
    split at here
    · cases here
    · assumption
  cases call with
  | push origin event env =>
      cases connected with
      | none => exact .look (fun bus here => by rw [unpublished bus here]) (.ret .success)
      | some target =>
          refine .look (fun bus here => by rw [published bus target here]) ?_
          dsimp only
          split
          · exact writeJson rfl _ _ _
          · exact .ret _
  | writeResponse response env =>
      cases connected with
      | none => exact .look (fun bus here => by rw [unpublished bus here]) (.ret .success)
      | some target =>
          exact .look (fun bus here => by rw [published bus target here]) (writeJson rfl _ _ _)
  | setConn framing => exact absurd rfl (writes framing)

/-- A writer does not notice what happens to sockets other than its own. -/
theorem independent (speaks : Speaks connected code) {change : Bus → Bus} {nextSock : Nat}
    (keeps : ∀ bus : Bus, bus.connected = connected → (change bus).connected = connected)
    (commutes : ∀ (bus : Bus) (sock timeoutMsec : Nat) (bytes : Bytes),
      connected = some (sock, timeoutMsec) → bus.nextSock = nextSock →
      change (bus.send sock bytes) = (change bus).send sock bytes)
    (here : bus.connected = connected) (counted : bus.nextSock = nextSock) :
    code.Independent change bus := by
  induction speaks generalizing bus with
  | ret status => rfl
  | look sees _ ih =>
      have later := ih here counted
      rw [Code.Independent] at later ⊢
      rw [Code.run_access, Code.run_access, sees bus here, sees _ (keeps bus here)]
      exact later
  | @send sock timeoutMsec bytes next later published sees _ ih =>
      have sent : (bus.send sock bytes).connected = connected := here
      have rest := ih sent counted
      rw [Code.Independent] at rest ⊢
      rw [Code.run_access, Code.run_access, sees bus here, sees _ (keeps bus here), ← rest,
        commutes bus sock timeoutMsec bytes published counted]

/-- A writer only adds to what its socket has taken. -/
theorem streams_prefix (speaks : Speaks connected code) (bus : Bus)
    (here : bus.connected = connected) (sock : Nat) :
    bus.streams sock <+: (code.run bus).2.streams sock := by
  induction speaks generalizing bus with
  | ret status => exact List.prefix_rfl
  | look sees _ ih =>
      rw [Code.run_access, sees bus here]
      exact ih bus here
  | @send target timeoutMsec bytes next later published sees _ ih =>
      rw [Code.run_access, sees bus here]
      refine List.IsPrefix.trans ?_ (ih (bus.send target bytes) here)
      by_cases same : sock = target
      · subst same
        simp [Bus.send, Bus.add]
      · simp [Bus.send, Bus.add, Function.update_of_ne same]

end Speaks

/-! ## The threads -/

/-- Where the control thread is with its connection. -/
inductive Stage where
  | idle
  | opened
  | serving
  | withdrawn
deriving DecidableEq, Repr

/-- What the control thread has last stored in `events->framing`, or is about to. -/
def Stage.pointer : Stage → FramingPtr
  | .serving => .conn
  | _ => .null

/-- The functions of `events.c` that the control thread calls at this stage. -/
def Stage.Calls (stage : Stage) : LockCall → Prop
  | .push .. | .writeResponse .. | .setConn .null => stage = .serving
  | .setConn .conn => stage = .opened

/-- What the control thread does by itself at this stage. -/
def Stage.Takes (stage : Stage) : OwnStep → Prop
  | .arrive | .giveUp => stage = .idle
  | .refuse _ => stage = .serving
  | .close => stage = .withdrawn

/-- Where that leaves the control thread. -/
def Stage.after (stage : Stage) : OwnStep → Stage
  | .arrive => .opened
  | .close => .idle
  | _ => stage

/-- The threads with the stage of the control thread. -/
structure Traffic (Thread : Type) where
  threads : State Thread LockCall OwnStep Bus Status
  stage : Stage

namespace Traffic

variable {Thread : Type} [DecidableEq Thread] (srv : Server) (control : Thread)

/-- The stage that the control thread goes on to. -/
def next (stage : Stage) : Input Thread LockCall OwnStep → Stage
  | .call thread (.setConn .conn) => if thread = control then .serving else stage
  | .call thread (.setConn .null) => if thread = control then .withdrawn else stage
  | .apart own => stage.after own
  | _ => stage

def step (traffic : Traffic Thread) (input : Input Thread LockCall OwnStep) : Traffic Thread :=
  ⟨Sections.step srv.lock traffic.threads input, next control traffic.stage input⟩

def start : Traffic Thread := ⟨Sections.start Server.start.world.bus, .idle⟩

/-- The state after a list of steps. -/
abbrev run : Traffic Thread → List (Input Thread LockCall OwnStep) → Traffic Thread :=
  Machine.run (step srv control)

/-- What the program lets a thread do next: the control thread goes through `server.c`, the
others push the events of callbacks. -/
def Turn (traffic : Traffic Thread) : Input Thread LockCall OwnStep → Prop
  | .call thread call =>
      if thread = control then
        traffic.threads.place control = .outside ∧ traffic.stage.Calls call
      else ∃ event env, call = .push .callback event env
  | .apart own => traffic.threads.place control = .outside ∧ traffic.stage.Takes own
  | _ => True

/-! ## What holds between two accesses -/

/-- A socket that is still open. -/
def Open (stream : List SockObs) : Prop := ∃ bytes : Bytes, stream = bytes.map .byte

/-- A socket that has been closed, and has taken nothing since. -/
def Ended (stream : List SockObs) : Prop :=
  ∃ bytes : Bytes, stream = bytes.map .byte ++ [.closed]

/-- Where the control thread is in its code. -/
def ControlAt (stage : Stage) (bus : Bus) : Place LockCall Bus Status → Prop
  | .outside => bus.events = stage.pointer
  | .waiting (.setConn framing) =>
      framing = stage.pointer ∧ (stage = .serving ∨ stage = .withdrawn)
  | .waiting _ => bus.events = stage.pointer
  | .inside rest =>
      bus.events = stage.pointer ∧ Speaks bus.connected rest ∨
        rest = (LockCall.setConn stage.pointer).code srv ∧
          (stage = .serving ∨ stage = .withdrawn)

/-- Where another thread is in its code. -/
def OtherAt (bus : Bus) : Place LockCall Bus Status → Prop
  | .outside => True
  | .waiting call => ∃ event env, call = .push .callback event env
  | .inside rest => Speaks bus.connected rest

/-- The sockets at a stage: every accepted one is closed, but the connection's. -/
structure SocksAt (stage : Stage) (bus : Bus) : Prop where
  idle : stage = .idle → bus.events = .null
  paired : bus.connSock = bus.sock
  accepted : stage ≠ .idle → bus.sock < bus.nextSock
  fresh : ∀ sock, bus.nextSock ≤ sock → bus.streams sock = []
  lives : ∀ sock, sock < bus.nextSock →
    if stage ≠ .idle ∧ sock = bus.sock then Open (bus.streams sock) else Ended (bus.streams sock)

structure Sound (traffic : Traffic Thread) : Prop where
  exclusive : Exclusive traffic.threads
  controlled : ControlAt srv traffic.stage traffic.threads.shared (traffic.threads.place control)
  others : ∀ thread, thread ≠ control →
    OtherAt traffic.threads.shared (traffic.threads.place thread)
  socks : SocksAt traffic.stage traffic.threads.shared

variable {srv} {control} {traffic : Traffic Thread} {stage : Stage} {bus : Bus}

namespace SocksAt

/-- The stages between opening and closing differ only in who may write. -/
theorem move (socks : SocksAt stage bus) {later : Stage} (before : stage ≠ .idle)
    (after : later ≠ .idle) : SocksAt later bus where
  idle isIdle := absurd isIdle after
  paired := socks.paired
  accepted _ := socks.accepted before
  fresh := socks.fresh
  lives sock below := by simpa [before, after] using socks.lives sock below

theorem setEvents (socks : SocksAt stage bus) (active : stage ≠ .idle) (events : FramingPtr) :
    SocksAt stage { bus with events } where
  idle isIdle := absurd isIdle active
  paired := socks.paired
  accepted := socks.accepted
  fresh := socks.fresh
  lives := socks.lives

/-- A published socket is the connection's, and open. -/
theorem published (socks : SocksAt stage bus) {sock timeoutMsec : Nat}
    (connected : bus.connected = some (sock, timeoutMsec)) : stage ≠ .idle ∧ sock = bus.sock := by
  rw [Bus.connected] at connected
  split at connected
  · cases connected
  · rename_i isPublished
    refine ⟨fun isIdle => ?_, (Prod.mk.inj (Option.some.inj connected)).1.symm⟩
    exact nomatch (socks.idle isIdle).symm.trans isPublished

/-- Bytes for the published socket. -/
theorem send (socks : SocksAt stage bus) {sock timeoutMsec : Nat}
    (connected : bus.connected = some (sock, timeoutMsec)) (bytes : Bytes) :
    SocksAt stage (bus.send sock bytes) := by
  obtain ⟨active, rfl⟩ := socks.published connected
  have below := socks.accepted active
  refine ⟨socks.idle, socks.paired, socks.accepted, fun sock above => ?_, fun sock within => ?_⟩
  · have other : sock ≠ bus.sock := by
      have counted : bus.nextSock ≤ sock := above
      omega
    rw [Bus.send, Bus.add]
    exact (Function.update_of_ne other _ _).trans (socks.fresh sock above)
  · have life := socks.lives sock within
    by_cases same : sock = bus.sock
    · subst same
      rw [if_pos ⟨active, rfl⟩] at life
      obtain ⟨earlier, stream⟩ := life
      refine (if_pos ⟨active, rfl⟩).mpr ⟨earlier ++ bytes, ?_⟩
      rw [Bus.send, Bus.add, List.map_append, ← stream]
      exact Function.update_self ..
    · rw [if_neg fun both => same both.2] at life
      refine (if_neg fun both => same both.2).mpr ?_
      have kept : (bus.send bus.sock bytes).streams sock = bus.streams sock :=
        Function.update_of_ne same _ _
      rwa [kept]

/-- A new socket that is closed at once, having taken these bytes. -/
theorem dismiss (socks : SocksAt stage bus) (bytes : Bytes) :
    SocksAt stage ((bus.accept.send bus.nextSock bytes).add bus.nextSock [.closed]) := by
  have stream (sock : Nat) :
      ((bus.accept.send bus.nextSock bytes).add bus.nextSock [.closed]).streams sock =
        if sock = bus.nextSock then bytes.map .byte ++ [.closed] else bus.streams sock := by
    by_cases same : sock = bus.nextSock
    · simp [same, Bus.send, Bus.add, Bus.accept, socks.fresh _ le_rfl]
    · simp [same, Bus.send, Bus.add, Bus.accept]
  refine ⟨socks.idle, socks.paired, fun active => Nat.lt_succ_of_lt (socks.accepted active),
    fun sock above => ?_, fun sock within => ?_⟩
  · have counted : bus.nextSock + 1 ≤ sock := above
    rw [stream, if_neg (by omega)]
    exact socks.fresh sock (by omega)
  · rw [stream]
    by_cases same : sock = bus.nextSock
    · have other : ¬(stage ≠ .idle ∧ sock = bus.sock) := by
        rintro ⟨active, isConn⟩
        have below := socks.accepted active
        omega
      rw [if_pos same]
      exact (if_neg other).mpr ⟨bytes, rfl⟩
    · have counted : sock < bus.nextSock + 1 := within
      rw [if_neg same]
      exact socks.lives sock (by omega)

/-- What the control thread does by itself when nothing is published goes unnoticed. -/
private theorem unpublished (srv : Server) (own : OwnStep) (null : bus.events = .null)
    (keeps : ∀ other : Bus, (own.change srv other).events = other.events) :
    (own.change srv bus).connected = bus.connected ∧
      ∀ rest, Speaks bus.connected rest → rest.Independent (own.change srv) bus := by
  have connected {other : Bus} (empty : other.events = .null) : other.connected = none := by
    rw [Bus.connected, empty]
  have empty {other : Bus} (none : other.connected = none) : other.events = .null := by
    rw [Bus.connected] at none
    split at none
    · assumption
    · cases none
  have here := connected null
  refine ⟨(connected ((keeps bus).trans null)).trans here.symm, fun rest speaks => ?_⟩
  refine speaks.independent (fun other there => ?_) (fun _ _ _ _ published => ?_) rfl rfl
  · rw [here] at there ⊢
    exact connected ((keeps other).trans (empty there))
  · exact nomatch here.symm.trans published

/-- What the control thread does by itself leaves the published connection, if any, and goes
unnoticed by the writers. -/
theorem own (srv : Server) (socks : SocksAt stage bus) (pointer : bus.events = stage.pointer)
    {own : OwnStep} (takes : stage.Takes own) :
    (own.change srv bus).events = (stage.after own).pointer ∧
    (own.change srv bus).connected = bus.connected ∧
    SocksAt (stage.after own) (own.change srv bus) ∧
    ∀ rest, Speaks bus.connected rest → rest.Independent (own.change srv) bus := by
  cases own with
  | arrive =>
      obtain rfl : stage = .idle := takes
      obtain ⟨connected, unnoticed⟩ := unpublished srv .arrive pointer fun _ => rfl
      refine ⟨pointer, connected, ?_, unnoticed⟩
      refine ⟨fun _ => pointer, rfl, fun _ => Nat.lt_succ_self _, fun sock above => ?_,
        fun sock within => ?_⟩
      · exact socks.fresh sock (Nat.le_of_succ_le above)
      · by_cases same : sock = bus.nextSock
        · refine (if_pos ⟨by simp [Stage.after], same⟩).mpr ⟨[], ?_⟩
          exact socks.fresh sock same.ge
        · have below : sock < bus.nextSock := by
            have counted : sock < bus.nextSock + 1 := within
            omega
          have life := socks.lives sock below
          rw [if_neg fun both => both.1 rfl] at life
          exact (if_neg fun both => same both.2).mpr life
  | giveUp =>
      obtain rfl : stage = .idle := takes
      obtain ⟨connected, unnoticed⟩ := unpublished srv .giveUp pointer fun _ => rfl
      refine ⟨pointer, connected, ?_, unnoticed⟩
      have dismissed := socks.dismiss []
      rwa [Bus.send_nil] at dismissed
  | refuse env =>
      obtain rfl : stage = .serving := takes
      refine ⟨pointer, rfl, socks.dismiss _, fun rest speaks => ?_⟩
      refine speaks.independent (fun other there => there)
        (fun other sock timeoutMsec bytes published counted => ?_) rfl rfl
      have isConn := (socks.published published).2
      have below := socks.accepted (by simp)
      have different : sock ≠ other.nextSock := by omega
      change ((other.accept.send sock bytes).add other.nextSock _).add other.nextSock _ =
        ((other.accept.add other.nextSock _).add other.nextSock _).send sock bytes
      rw [Bus.add_add, Bus.add_add, Bus.send, Bus.send, Bus.add_comm _ different]
  | close =>
      obtain rfl : stage = .withdrawn := takes
      obtain ⟨connected, unnoticed⟩ := unpublished srv .close pointer fun _ => rfl
      refine ⟨pointer, connected, ⟨fun _ => pointer, socks.paired, fun active => absurd rfl active,
        fun sock above => ?_, fun sock within => ?_⟩, unnoticed⟩
      · have below := socks.accepted (by simp)
        have counted : bus.nextSock ≤ sock := above
        have other : sock ≠ bus.connSock := by
          rw [socks.paired]
          omega
        exact (Function.update_of_ne other _ _).trans (socks.fresh sock above)
      · refine (if_neg fun both => both.1 rfl).mpr ?_
        have life := socks.lives sock within
        by_cases same : sock = bus.sock
        · rw [if_pos ⟨by simp, same⟩] at life
          obtain ⟨bytes, stream⟩ := life
          refine ⟨bytes, ?_⟩
          rw [OwnStep.change, Bus.add, socks.paired, ← same, ← stream]
          exact Function.update_self ..
        · rw [if_neg fun both => same both.2] at life
          have kept : (OwnStep.change srv .close bus).streams sock = bus.streams sock :=
            Function.update_of_ne (socks.paired ▸ same) _ _
          rwa [kept]

end SocksAt

omit [DecidableEq Thread] in
theorem Sound.start : (start : Traffic Thread).Sound srv control where
  exclusive := exclusive_start _
  controlled := rfl
  others _ _ := trivial
  socks := ⟨fun _ => rfl, rfl, fun active => absurd rfl active, fun _ _ => rfl,
    fun _ below => absurd below (Nat.not_lt_zero _)⟩

namespace Sound

/-- A thread goes to another place, and nothing that is shared changes. -/
private theorem move (sound : traffic.Sound srv control) (thread : Thread)
    (place : Place LockCall Bus Status) {threads : State Thread LockCall OwnStep Bus Status}
    {later : Stage} (exclusive : Exclusive threads)
    (shared : threads.shared = traffic.threads.shared)
    (moved : threads.place = Function.update traffic.threads.place thread place)
    (socks : SocksAt later traffic.threads.shared)
    (controlled : thread = control → ControlAt srv later traffic.threads.shared place)
    (other : thread ≠ control →
      later = traffic.stage ∧ OtherAt traffic.threads.shared place) :
    (⟨threads, later⟩ : Traffic Thread).Sound srv control := by
  refine ⟨exclusive, ?_, fun another isOther => ?_, ?_⟩
  · dsimp only
    rw [shared, moved]
    by_cases same : thread = control
    · rw [← same, Function.update_self]
      exact controlled same
    · rw [Function.update_of_ne (Ne.symm same), (other same).1]
      exact sound.controlled
  · dsimp only
    rw [shared, moved]
    by_cases same : another = thread
    · subst same
      rw [Function.update_self]
      exact (other isOther).2
    · rw [Function.update_of_ne same]
      exact sound.others another isOther
  · dsimp only
    rw [shared]
    exact socks

/-- The control thread calls a function of `events.c`. -/
private theorem callControl (sound : traffic.Sound srv control) {call : LockCall}
    (outside : traffic.threads.place control = .outside) (calls : traffic.stage.Calls call) :
    SocksAt (next control traffic.stage (.call control call)) traffic.threads.shared ∧
      ControlAt srv (next control traffic.stage (.call control call)) traffic.threads.shared
        (.waiting call) := by
  have pointer := sound.controlled
  rw [outside] at pointer
  cases call with
  | push origin event env => exact ⟨sound.socks, pointer⟩
  | writeResponse response env => exact ⟨sound.socks, pointer⟩
  | setConn framing =>
      cases framing with
      | null =>
          have serving : traffic.stage = .serving := calls
          simp only [next, if_true]
          exact ⟨sound.socks.move (by simp [serving]) (by simp), rfl, .inr rfl⟩
      | conn =>
          have opened : traffic.stage = .opened := calls
          simp only [next, if_true]
          exact ⟨sound.socks.move (by simp [opened]) (by simp), rfl, .inl rfl⟩

theorem call (sound : traffic.Sound srv control) {thread : Thread} {call : LockCall}
    (turn : traffic.Turn control (.call thread call)) :
    (traffic.step srv control (.call thread call)).Sound srv control := by
  have exclusive : Exclusive (Sections.step srv.lock traffic.threads (.call thread call)) :=
    sound.exclusive.step _
  by_cases isControl : thread = control
  · subst isControl
    obtain ⟨outside, calls⟩ := (if_pos rfl).mp turn
    obtain ⟨socks, controlled⟩ := sound.callControl outside calls
    refine sound.move thread (.waiting call) exclusive ?_ ?_ socks (fun _ => controlled)
      fun other => absurd rfl other
    · rw [Sections.step, outside]
    · rw [Sections.step, outside]
  · obtain ⟨event, env, rfl⟩ := (if_neg isControl).mp turn
    cases place : traffic.threads.place thread with
    | outside =>
        refine sound.move thread (.waiting (.push .callback event env)) exclusive ?_ ?_ sound.socks
          (fun same => absurd same isControl) fun _ => ⟨rfl, event, env, rfl⟩
        · rw [Sections.step, place]
        · rw [Sections.step, place]
    | waiting earlier =>
        have same : step srv control traffic (.call thread (.push .callback event env)) =
            traffic := by
          rw [step, Sections.step, place]
          rfl
        rwa [same]
    | inside rest =>
        have same : step srv control traffic (.call thread (.push .callback event env)) =
            traffic := by
          rw [step, Sections.step, place]
          rfl
        rwa [same]

/-- A thread takes the lock. -/
theorem acquire (sound : traffic.Sound srv control) (thread : Thread) :
    (traffic.step srv control (.acquire thread)).Sound srv control := by
  have exclusive : Exclusive (Sections.step srv.lock traffic.threads (.acquire thread)) :=
    sound.exclusive.step _
  by_cases enters : traffic.threads.holder = none ∧
      ∃ call, traffic.threads.place thread = .waiting call
  · obtain ⟨free, call, waiting⟩ := enters
    refine sound.move thread (.inside (call.code srv)) exclusive ?_ ?_ sound.socks
      (fun isControl => ?_) fun isOther => ⟨rfl, ?_⟩
    · rw [Sections.step, free, waiting]
    · rw [Sections.step, free, waiting]
      rfl
    · have announced := sound.controlled
      rw [← isControl, waiting] at announced
      cases call with
      | push origin event env => exact .inl ⟨announced, Speaks.call srv _ (by simp)⟩
      | writeResponse response env => exact .inl ⟨announced, Speaks.call srv _ (by simp)⟩
      | setConn framing => exact .inr ⟨announced.1 ▸ rfl, announced.2⟩
    · have announced := sound.others thread isOther
      rw [waiting] at announced
      obtain ⟨event, env, rfl⟩ := announced
      exact Speaks.call srv _ (by simp)
  · have same : Sections.step srv.lock traffic.threads (.acquire thread) = traffic.threads := by
      unfold Sections.step
      dsimp only
      split
      · rename_i call free waiting
        exact absurd ⟨free, call, waiting⟩ enters
      · rfl
    rw [step, same]
    exact sound

/-- A writer's access leaves what the other threads rely on. -/
private theorem accessed (sound : traffic.Sound srv control) {thread : Thread}
    {change : Bus → Bus} {following : Bus → Code Bus Status}
    (inside : traffic.threads.place thread = .inside (.access change following))
    (speaks : Speaks traffic.threads.shared.connected (.access change following))
    (controlled : thread = control → traffic.threads.shared.events = traffic.stage.pointer) :
    (traffic.step srv control (.access thread)).Sound srv control := by
  have exclusive : Exclusive (Sections.step srv.lock traffic.threads (.access thread)) :=
    sound.exclusive.step _
  obtain ⟨later, changes⟩ := speaks.access rfl
  have stepped : Sections.step srv.lock traffic.threads (.access thread) =
      { traffic.threads with
        shared := change traffic.threads.shared
        place := Function.update traffic.threads.place thread
          (.inside (following traffic.threads.shared)) } := by
    rw [Sections.step, inside]
  have socks : SocksAt traffic.stage (change traffic.threads.shared) := by
    rcases changes with same | ⟨sock, timeoutMsec, bytes, published, same⟩
    · rw [same]
      exact sound.socks
    · rw [same]
      exact sound.socks.send published bytes
  have events : (change traffic.threads.shared).events = traffic.threads.shared.events := by
    rcases changes with same | ⟨sock, timeoutMsec, bytes, -, same⟩ <;> rw [same]
    rfl
  have connected : (change traffic.threads.shared).connected =
      traffic.threads.shared.connected := by
    rcases changes with same | ⟨sock, timeoutMsec, bytes, -, same⟩ <;> rw [same]
    rfl
  have here : Sound srv control ⟨{ traffic.threads with
      shared := change traffic.threads.shared }, traffic.stage⟩ := by
    refine ⟨sound.exclusive, ?_, fun another isOther => ?_, socks⟩
    · have before := sound.controlled
      dsimp only
      cases place : traffic.threads.place control with
      | outside =>
          rw [place] at before
          exact events.trans before
      | waiting call =>
          rw [place] at before
          cases call with
          | setConn framing => exact before
          | push origin event env => exact events.trans before
          | writeResponse response env => exact events.trans before
      | inside rest =>
          rw [place, ControlAt, ← events, ← connected] at before
          exact before
    · have before := sound.others another isOther
      dsimp only
      cases place : traffic.threads.place another with
      | outside => trivial
      | waiting call => rwa [place] at before
      | inside rest =>
          rw [place, OtherAt, ← connected] at before
          exact before
  have goesOn : Speaks (change traffic.threads.shared).connected
      (following traffic.threads.shared) := connected.symm ▸ later
  refine here.move thread (.inside (following traffic.threads.shared)) exclusive ?_ ?_ socks
    (fun isControl => .inl ⟨events.trans (controlled isControl), goesOn⟩)
    fun _ => ⟨rfl, goesOn⟩
  · rw [stepped]
  · rw [stepped]

/-- The control thread stores the pointer. -/
private theorem stored (sound : traffic.Sound srv control)
    (inside : traffic.threads.place control =
      .inside ((LockCall.setConn traffic.stage.pointer).code srv))
    (active : traffic.stage ≠ .idle) :
    (traffic.step srv control (.access control)).Sound srv control := by
  have exclusive : Exclusive (Sections.step srv.lock traffic.threads (.access control)) :=
    sound.exclusive.step _
  have holds := sound.exclusive.holder inside
  refine ⟨exclusive, ?_, fun another isOther => ?_, ?_⟩
  · simp only [step, Sections.step, inside, LockCall.code, Function.update_self]
    exact .inl ⟨rfl, .ret .success⟩
  · have before := sound.others another isOther
    simp only [step, Sections.step, inside, LockCall.code, Function.update_of_ne isOther]
    cases place : traffic.threads.place another with
    | outside => trivial
    | waiting call => rwa [place] at before
    | inside rest =>
        have alsoHolds := sound.exclusive.holder place
        exact absurd (Option.some.inj (alsoHolds.symm.trans holds)) isOther
  · simp only [step, Sections.step, inside, LockCall.code]
    exact sound.socks.setEvents active _

/-- A thread makes its next access. -/
theorem access (sound : traffic.Sound srv control) (thread : Thread) :
    (traffic.step srv control (.access thread)).Sound srv control := by
  by_cases moves : ∃ change following,
      traffic.threads.place thread = .inside (.access change following)
  · obtain ⟨change, following, inside⟩ := moves
    by_cases isControl : thread = control
    · subst isControl
      have place := sound.controlled
      rw [inside] at place
      rcases place with ⟨pointer, speaks⟩ | ⟨stores, active⟩
      · exact sound.accessed inside speaks fun _ => pointer
      · rw [stores] at inside
        exact sound.stored inside (by rcases active with now | now <;> simp [now])
    · have speaks := sound.others thread isControl
      rw [inside] at speaks
      exact sound.accessed inside speaks fun same => absurd same isControl
  · have same : Sections.step srv.lock traffic.threads (.access thread) = traffic.threads := by
      unfold Sections.step
      dsimp only
      split
      · rename_i change following inside
        exact absurd ⟨change, following, inside⟩ moves
      · rfl
    rw [step, same]
    exact sound

/-- A thread lets go of the lock. -/
theorem release (sound : traffic.Sound srv control) (thread : Thread) :
    (traffic.step srv control (.release thread)).Sound srv control := by
  have exclusive : Exclusive (Sections.step srv.lock traffic.threads (.release thread)) :=
    sound.exclusive.step _
  by_cases leaves : ∃ status, traffic.threads.place thread = .inside (.ret status)
  · obtain ⟨status, inside⟩ := leaves
    refine sound.move thread .outside exclusive ?_ ?_ sound.socks (fun isControl => ?_)
      fun _ => ⟨rfl, trivial⟩
    · rw [Sections.step, inside]
    · rw [Sections.step, inside]
    · subst isControl
      have place := sound.controlled
      rw [inside] at place
      rcases place with ⟨pointer, -⟩ | ⟨stores, -⟩
      · exact pointer
      · cases stores
  · have same : Sections.step srv.lock traffic.threads (.release thread) = traffic.threads := by
      unfold Sections.step
      dsimp only
      split
      · rename_i status inside
        exact absurd ⟨status, inside⟩ leaves
      · rfl
    rw [step, same]
    exact sound

/-- The control thread does something by itself. -/
theorem apart (sound : traffic.Sound srv control) {own : OwnStep}
    (turn : traffic.Turn control (.apart own)) :
    (traffic.step srv control (.apart own)).Sound srv control := by
  obtain ⟨outside, takes⟩ := turn
  have pointer := sound.controlled
  rw [outside] at pointer
  obtain ⟨events, connected, socks, -⟩ := sound.socks.own srv pointer takes
  have exclusive : Exclusive (Sections.step srv.lock traffic.threads (.apart own)) :=
    sound.exclusive.step _
  refine ⟨exclusive, ?_, fun another isOther => ?_, socks⟩
  · simp only [step, Sections.step, outside]
    exact events
  · have before := sound.others another isOther
    simp only [step, Sections.step]
    cases place : traffic.threads.place another with
    | outside => trivial
    | waiting call => rwa [place] at before
    | inside rest =>
        rw [place, OtherAt, ← connected] at before
        exact before

/-- Every step keeps what the threads rely on. -/
theorem step (sound : traffic.Sound srv control) {input : Input Thread LockCall OwnStep}
    (turn : traffic.Turn control input) : (traffic.step srv control input).Sound srv control := by
  cases input with
  | call thread call => exact sound.call turn
  | acquire thread => exact sound.acquire thread
  | access thread => exact sound.access thread
  | release thread => exact sound.release thread
  | apart own => exact sound.apart turn

/-- No section under way notices what the control thread does by itself. -/
theorem unnoticed (sound : traffic.Sound srv control) {input : Input Thread LockCall OwnStep}
    (turn : traffic.Turn control input) : Unnoticed srv.lock traffic.threads input := by
  cases input with
  | apart own =>
      obtain ⟨outside, takes⟩ := turn
      have pointer := sound.controlled
      rw [outside] at pointer
      obtain ⟨-, -, -, independent⟩ := sound.socks.own srv pointer takes
      intro thread rest inside
      have isOther : thread ≠ control := by
        rintro rfl
        exact nomatch outside.symm.trans inside
      have speaks := sound.others thread isOther
      rw [inside] at speaks
      exact independent rest speaks
  | _ => trivial

end Sound

/-- What holds in every state of a run in which the threads keep to the program. -/
theorem sound_run {inputs : List (Input Thread LockCall OwnStep)}
    (turns : Machine.Along (step srv control) (Turn control) start inputs) :
    (run srv control start inputs).Sound srv control ∧
      settled (run srv control start inputs).threads =
        serial srv.lock ([], Server.start.world.bus)
          (run srv control start inputs).threads.deeds := by
  refine @Machine.invariant_run _ _ (step srv control) (Turn control)
    (fun traffic => traffic.Sound srv control ∧ settled traffic.threads =
      serial srv.lock ([], Server.start.world.bus) traffic.threads.deeds) ?_ _ _
    ⟨Sound.start, rfl⟩ turns
  rintro traffic input ⟨sound, so⟩ turn
  exact ⟨sound.step turn, settled_step sound.exclusive input (sound.unnoticed turn) so⟩

theorem turn_control {call : LockCall} (outside : traffic.threads.place control = .outside)
    (calls : traffic.stage.Calls call) : traffic.Turn control (.call control call) :=
  (if_pos rfl).mpr ⟨outside, calls⟩

theorem turn_other {thread : Thread} (other : thread ≠ control) (event : Event) (env : PushEnv) :
    traffic.Turn control (.call thread (.push .callback event env)) :=
  (if_neg other).mpr ⟨event, env, rfl⟩

end Traffic

section Concrete

/-- A second client is refused while the event of a callback stands half written. -/
def refusedMeanwhile : List (Input Bool LockCall OwnStep) :=
  [.apart .arrive, .call true (.setConn .conn), .acquire true, .access true, .release true,
    .call false (.push .callback (.typing (ascii "a") (ascii "b") true) (.stalled 3)),
    .acquire false, .access false, .access false, .access false,
    .apart (.refuse ⟨true, .open⟩)]

set_option maxRecDepth 20000 in
theorem refusedMeanwhile_turns :
    Machine.Along (Traffic.step (sampleServer fun _ => none) true) (Traffic.Turn true)
      Traffic.start refusedMeanwhile :=
  ⟨⟨rfl, rfl⟩, Traffic.turn_control rfl rfl, trivial, trivial, trivial,
    Traffic.turn_other (by decide) _ _, trivial, trivial, trivial, trivial, ⟨rfl, rfl⟩, trivial⟩

end Concrete

/-- However the accesses of the threads are interleaved: at most one of them is inside the
lock, and once it has finished, what the threads share and what the calls have returned is
what the functions of the server model make of the same calls in the order in which they took
the lock. Whenever the lock is free that is so already. -/
theorem interleaving_serial {Thread : Type} [DecidableEq Thread] (srv : Server)
    (control : Thread) (inputs : List (Input Thread LockCall OwnStep))
    (turns : Machine.Along (Traffic.step srv control) (Traffic.Turn control) Traffic.start
      inputs) :
    let threads := (Traffic.run srv control .start inputs).threads
    let whole := srv.deeds ([], Server.start.world) threads.deeds
    (∀ first second firstRest secondRest, threads.place first = .inside firstRest →
      threads.place second = .inside secondRest → first = second) ∧
    settled threads = (whole.1, whole.2.bus) ∧
    (threads.holder = none → threads.returned = whole.1 ∧ threads.shared = whole.2.bus) := by
  obtain ⟨sound, so⟩ := Traffic.sound_run turns
  rw [srv.serial_deeds] at so
  refine ⟨fun first second _ _ here there => ?_, so, fun free => ?_⟩
  · exact Option.some.inj ((sound.exclusive.holder here).symm.trans (sound.exclusive.holder there))
  · rw [settled_free free] at so
    exact Prod.mk.inj so

set_option maxRecDepth 20000 in
/-- The event's thread holds the lock when the client is refused. -/
theorem refusedMeanwhile_serial :
    let threads := (Traffic.run (sampleServer fun _ => none) true .start refusedMeanwhile).threads
    let whole := (sampleServer fun _ => none).deeds ([], Server.start.world) threads.deeds
    threads.holder = some false ∧ settled threads = (whole.1, whole.2.bus) :=
  ⟨rfl, (interleaving_serial _ true refusedMeanwhile refusedMeanwhile_turns).2.1⟩

/-- A beginning of what a socket takes: whole pieces, and a beginning of the next message. -/
private theorem wire_beginning {sock : Nat} {trace : List Obs} {bytes : Bytes}
    (beginning : bytes <+: wire sock trace) :
    ∃ early late part, trace = early ++ late ∧ bytes = wire sock early ++ part ∧
      (part = [] ∨ ∃ origin message result rest,
        late = .wrote sock origin message result :: rest ∧ part <+: result.accepted) := by
  induction trace generalizing bytes with
  | nil => exact ⟨[], [], [], rfl, List.prefix_nil.mp beginning, .inl rfl⟩
  | cons obs rest ih =>
      have split : wire sock (obs :: rest) = obs.bytesTo sock ++ wire sock rest := rfl
      rw [split] at beginning
      rcases List.prefix_or_prefix_of_prefix beginning (List.prefix_append _ _) with
        inside | ⟨later, rfl⟩
      · refine ⟨[], obs :: rest, bytes, rfl, rfl, ?_⟩
        by_cases writes : ∃ origin message result, obs = .wrote sock origin message result
        · obtain ⟨origin, message, result, rfl⟩ := writes
          rw [Obs.bytesTo, if_pos rfl] at inside
          exact .inr ⟨origin, message, result, rest, rfl, inside⟩
        · have silent : obs.bytesTo sock = [] := by
            cases obs with
            | wrote other origin message result =>
                refine if_neg fun same => writes ⟨origin, message, result, ?_⟩
                rw [same]
            | _ => rfl
          rw [silent] at inside
          exact .inl (List.prefix_nil.mp inside)
      · rw [List.prefix_append_right_inj] at beginning
        obtain ⟨early, late, part, rfl, rfl, last⟩ := ih beginning
        exact ⟨obs :: early, late, part, rfl, (List.append_assoc _ _ _).symm, last⟩

/-- The section under way only adds to what the sockets have taken. -/
private theorem Traffic.Sound.streams_settled {Thread : Type} [DecidableEq Thread]
    {srv : Server} {control : Thread} {traffic : Traffic Thread}
    (sound : traffic.Sound srv control) (sock : Nat) :
    traffic.threads.shared.streams sock <+: (settled traffic.threads).2.streams sock := by
  cases holds : traffic.threads.holder with
  | none =>
      have same : (settled traffic.threads).2 = traffic.threads.shared := by rw [settled_free holds]
      exact same ▸ List.prefix_rfl
  | some thread =>
      obtain ⟨rest, inside⟩ := (sound.exclusive thread).mpr holds
      rw [settled_held holds inside]
      by_cases isControl : thread = control
      · have place := sound.controlled
        rw [← isControl, inside] at place
        rcases place with ⟨-, speaks⟩ | ⟨rfl, -⟩
        · exact speaks.streams_prefix _ rfl sock
        · exact List.prefix_rfl
      · have speaks := sound.others thread isControl
        rw [inside] at speaks
        exact speaks.streams_prefix _ rfl sock

/-- At every moment, whatever the threads are in the middle of, each socket has taken whole
messages of the server model's run, one after the other, and a beginning of at most one more. -/
theorem interleaving_prefix {Thread : Type} [DecidableEq Thread] (srv : Server)
    (control : Thread) (inputs : List (Input Thread LockCall OwnStep))
    (turns : Machine.Along (Traffic.step srv control) (Traffic.Turn control) Traffic.start
      inputs) (sock : Nat) :
    let threads := (Traffic.run srv control .start inputs).threads
    ∃ early late part,
      (srv.deeds ([], Server.start.world) threads.deeds).2.trace = early ++ late ∧
      threads.shared.bytes sock = wire sock early ++ part ∧
      (part = [] ∨ ∃ origin message result rest,
        late = .wrote sock origin message result :: rest ∧ part <+: result.accepted) := by
  obtain ⟨sound, so⟩ := Traffic.sound_run turns
  have streams := sound.streams_settled sock
  rw [so, srv.serial_deeds] at streams
  have beginning := streams.filterMap SockObs.out
  apply wire_beginning
  rw [← World.bytes_bus]
  exact beginning

set_option maxRecDepth 20000 in
/-- Three bytes of the event have gone out. -/
theorem refusedMeanwhile_prefix :
    let threads := (Traffic.run (sampleServer fun _ => none) true .start refusedMeanwhile).threads
    threads.shared.bytes 0 = ascii "\x7b\"e" ∧ ∃ early late part,
      ((sampleServer fun _ => none).deeds ([], Server.start.world) threads.deeds).2.trace =
        early ++ late ∧
      threads.shared.bytes 0 = wire 0 early ++ part ∧
      (part = [] ∨ ∃ origin message result rest,
        late = .wrote 0 origin message result :: rest ∧ part <+: result.accepted) :=
  ⟨by decide, interleaving_prefix _ true refusedMeanwhile refusedMeanwhile_turns 0⟩

private theorem closed_notMem (bytes : Bytes) (early late : List SockObs) :
    early ++ .closed :: late ≠ bytes.map .byte := by
  intro same
  have member : SockObs.closed ∈ bytes.map .byte := by simp [← same]
  simp at member

/-- Nothing comes after the only closing. -/
private theorem closed_last {bytes : Bytes} {early late : List SockObs}
    (same : early ++ .closed :: late = bytes.map .byte ++ [.closed]) : late = [] := by
  rcases List.eq_nil_or_concat late with empty | ⟨before, last, rfl⟩
  · exact empty
  · rw [List.concat_eq_append, ← List.cons_append, ← List.append_assoc] at same
    exact absurd (List.append_inj' same rfl).1 (closed_notMem bytes early before)

/-- Between any two accesses of the threads: a socket takes nothing once it is closed and is
closed once, and at most one accepted socket is open, the connection's. -/
theorem interleaving_safe {Thread : Type} [DecidableEq Thread] (srv : Server)
    (control : Thread) (inputs : List (Input Thread LockCall OwnStep))
    (turns : Machine.Along (Traffic.step srv control) (Traffic.Turn control) Traffic.start
      inputs) :
    let bus := (Traffic.run srv control .start inputs).threads.shared
    (∀ sock early late, bus.streams sock = early ++ .closed :: late → late = []) ∧
    ∀ first second, first < bus.nextSock → second < bus.nextSock →
      .closed ∉ bus.streams first → .closed ∉ bus.streams second → first = second := by
  obtain ⟨sound, -⟩ := Traffic.sound_run turns
  have socks := sound.socks
  have mine : ∀ sock, sock < (Traffic.run srv control .start inputs).threads.shared.nextSock →
      .closed ∉ (Traffic.run srv control .start inputs).threads.shared.streams sock →
      sock = (Traffic.run srv control .start inputs).threads.shared.sock := by
    intro sock accepted isOpen
    by_contra other
    have life := socks.lives sock accepted
    rw [if_neg fun both => other both.2] at life
    obtain ⟨bytes, stream⟩ := life
    rw [stream] at isOpen
    exact isOpen (by simp)
  refine ⟨fun sock early late stream => ?_, fun first second isFirst isSecond open1 open2 => ?_⟩
  · by_cases accepted : sock < (Traffic.run srv control .start inputs).threads.shared.nextSock
    · have life := socks.lives sock accepted
      split at life
      · obtain ⟨bytes, isOpen⟩ := life
        exact absurd (stream.symm.trans isOpen) (closed_notMem bytes early late)
      · obtain ⟨bytes, ended⟩ := life
        exact closed_last (stream.symm.trans ended)
    · have empty := socks.fresh sock (Nat.le_of_not_lt accepted)
      exact absurd (stream.symm.trans empty) (by simp)
  · exact (mine first isFirst open1).trans (mine second isSecond open2).symm

set_option maxRecDepth 20000 in
/-- The refused client's socket is closed, the other one is not. -/
theorem refusedMeanwhile_safe :
    let bus :=
      (Traffic.run (sampleServer fun _ => none) true .start refusedMeanwhile).threads.shared
    bus.nextSock = 2 ∧ .closed ∉ bus.streams 0 ∧
      ∀ sock early late, bus.streams sock = early ++ .closed :: late → late = [] :=
  ⟨rfl, by decide, (interleaving_safe _ true refusedMeanwhile refusedMeanwhile_turns).1⟩

end Pjsocky
