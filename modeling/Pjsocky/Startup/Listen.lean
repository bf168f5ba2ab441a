import Mathlib.Data.Nat.Bitwise
import Pjsocky.Base
import Pjsocky.Support.Interference

/-!
# The control socket

`pjsocky_server_create` and `pjsocky_server_destroy` as the system calls they make, each a step
of its own, and between any two of them whatever other processes do at the same path. Only the
path is modelled, in a directory where a file can be removed by its owner and the superuser
only. Everyone may try to connect at any time; the kernel admits who may write to the file.
-/

namespace Pjsocky

open Support

/-- A user; 0 is the superuser. -/
abbrev Uid := Nat

/-- What a file is: the socket that `pjsocky_server_create` has bound, or anything else, such
as the socket that an earlier run has left. -/
inductive FileKind where
  | controlSocket
  | other
deriving DecidableEq, Repr

/-- A file, with its permission bits. -/
structure PathFile where
  kind : FileKind
  owner : Uid
  mode : Nat
deriving DecidableEq, Repr

/-- `srv->listen_sock`. -/
inductive ListenSock where
  /-- `PJ_INVALID_SOCKET`. -/
  | invalid
  | opened
  | listening
  | closed
deriving DecidableEq, Repr

/-- What the processes share: the file at the path, the daemon's socket, and the users that
have been admitted to it. -/
structure Host where
  file : Option PathFile
  listenSock : ListenSock
  admitted : List Uid
deriving DecidableEq, Repr

/-- `S_IRUSR | S_IWUSR`. -/
def ownerOnly : Nat := 0o600

/-- Whether a user may write to a file; one class of permissions counts for each user. -/
def PathFile.mayWrite (file : PathFile) (user : Uid) (inGroup : Bool) : Bool :=
  user = 0 || file.mode.testBit (if user = file.owner then 7 else if inGroup then 4 else 1)

/-- Whether a user may remove a file or change its mode. -/
def PathFile.mayChange (file : PathFile) (user : Uid) : Bool := user = 0 || user = file.owner

/-- What another process does at the path. -/
inductive PathAct where
  | connect (user : Uid) (inGroup : Bool)
  | create (user : Uid) (mode : Nat)
  | unlink (user : Uid)
  | chmod (user : Uid) (mode : Nat)
deriving DecidableEq, Repr

namespace Host

/-- `unlink`, when the file system does not refuse it. -/
def unlink (user : Uid) (host : Host) : Host :=
  match host.file with
  | some file => if file.mayChange user then { host with file := none } else host
  | none => host

/-- `chmod`, when the file system does not refuse it. -/
def chmod (user : Uid) (mode : Nat) (host : Host) : Host :=
  match host.file with
  | some file =>
      if file.mayChange user then { host with file := some { file with mode } } else host
  | none => host

/-- A connection is admitted to a listening socket whose file the user may write to. -/
def connect (user : Uid) (inGroup : Bool) (host : Host) : Host :=
  match host.file with
  | some file =>
      if file.kind = .controlSocket ∧ host.listenSock = .listening ∧ file.mayWrite user inGroup
      then { host with admitted := host.admitted ++ [user] }
      else host
  | none => host

/-- A file is made where there is none. -/
def create (user : Uid) (mode : Nat) (host : Host) : Host :=
  match host.file with
  | some _ => host
  | none => { host with file := some ⟨.other, user, mode⟩ }

def act (host : Host) : PathAct → Host
  | .connect user inGroup => host.connect user inGroup
  | .create user mode => host.create user mode
  | .unlink user => host.unlink user
  | .chmod user mode => host.chmod user mode

end Host

/-- Apart from connecting, the superuser and the daemon's user leave the path alone. -/
def PathAct.Allowed (uid : Uid) : PathAct → Prop
  | .connect .. => True
  | .create user _ | .unlink user | .chmod user _ => user ≠ 0 ∧ user ≠ uid

/-! ## The code -/

/-- What the system calls answer, where other processes do not decide it. -/
structure ListenEnv where
  socket : Option Failure
  /-- Whether the stale file is removed, if the daemon may. -/
  unlinks : Bool
  bind : Option Failure
  /-- Whether the file system refuses the mode. -/
  chmodRefused : Bool
  /-- What is read from `errno` after the calls that follow a failed `chmod`. -/
  errno : Failure
  listen : Option Failure
  /-- Whether the daemon's own file is removed at last, if the daemon may. -/
  cleans : Bool

/-- `sizeof(srv->addr.sun_path)`. -/
def sunPathSize : Nat := 108

/-- `PJ_ENAMETOOLONG`. -/
def enametoolong : Status := .library 70005

/-- `EADDRINUSE`. -/
def eaddrinuse : Status := .fromOs 98

section Code

variable (uid : Uid) (umask : Nat) (path : Bytes) (env : ListenEnv)

def Host.setSock (sock : ListenSock) (host : Host) : Host := { host with listenSock := sock }

/-- `unlink` by the daemon, which goes on whether it works or not. -/
def Host.clear (works : Bool) (host : Host) : Host := if works then host.unlink uid else host

/-- Why `pj_sock_bind` fails, if it does. -/
def Host.bindStatus (host : Host) : Status :=
  match host.file, env.bind with
  | some _, _ => eaddrinuse
  | none, some status => status
  | none, none => .success

/-- `pj_sock_bind`, which makes the file with the mode that the process umask leaves. -/
def Host.bind (host : Host) : Host :=
  if host.bindStatus env = .success then
    { host with file := some ⟨.controlSocket, uid, Nat.ldiff 0o777 umask⟩ }
  else host

/-- Whether `chmod` succeeds. -/
def Host.narrows (host : Host) : Bool :=
  match host.file with
  | some file => file.mayChange uid && !env.chmodRefused
  | none => false

/-- `chmod` by the daemon. -/
def Host.narrow (host : Host) : Host :=
  if host.narrows uid env then host.chmod uid ownerOnly else host

/-- What follows a failed `chmod` or `pj_sock_listen`. -/
def abandonCode (status : Status) : Code Host Status :=
  .access (Host.setSock .closed) fun _ =>
    .access (Host.clear uid env.cleans) fun _ => .ret status

/-- `pjsocky_server_create`. -/
def serverCreateCode : Code Host Status :=
  if sunPathSize ≤ path.length then .ret enametoolong
  else
    match env.socket with
    | some status => .ret status
    | none =>
        .access (Host.setSock .opened) fun _ =>
          .access (Host.clear uid env.unlinks) fun _ =>
            .access (Host.bind uid umask env) fun host =>
              if host.bindStatus env ≠ .success then
                .access (Host.setSock .closed) fun _ => .ret (host.bindStatus env)
              else
                .access (Host.narrow uid env) fun host =>
                  if host.narrows uid env then
                    match env.listen with
                    | some status => abandonCode uid env status
                    | none => .access (Host.setSock .listening) fun _ => .ret .success
                  else abandonCode uid env env.errno

/-- `pjsocky_server_destroy`. -/
def serverDestroyCode : Code Host Unit :=
  .access (Host.setSock .closed) fun _ => .access (Host.clear uid env.cleans) fun _ => .ret ()

/-- The socket from `pjsocky_server_create` to `pjsocky_server_destroy`; `pjsocky_server_run`
comes in between, and does nothing to the file. -/
def socketLifeCode : Code Host Status :=
  (serverCreateCode uid umask path env).bind fun status =>
    if status = .success then (serverDestroyCode uid env).bind fun _ => .ret status
    else .ret status

end Code

/-! ## What holds at each place -/

/-- The daemon's own users. -/
def Trusted (uid user : Uid) : Prop := user = 0 ∨ user = uid

/-- The file at the path is not the daemon's socket. -/
def Foreign (file : Option PathFile) : Prop := ∀ found, file = some found → found.kind = .other

/-- The file at the path is the daemon's socket. -/
def Bound (uid : Uid) (file : Option PathFile) : Prop :=
  ∃ mode, file = some ⟨.controlSocket, uid, mode⟩

/-- The file at the path is the daemon's socket, for its owner only. -/
def Narrowed (uid : Uid) (file : Option PathFile) : Prop :=
  file = some ⟨.controlSocket, uid, ownerOnly⟩

/-- Others keep what is known of the file. -/
def KeptByOthers (uid : Uid) (known : Option PathFile → Prop) : Prop :=
  ∀ (host : Host) (other : PathAct), other.Allowed uid → known host.file →
    known (host.act other).file

namespace Host

/-- What is known at one place of the code: something of the socket and of the file, and who
may have been admitted. -/
structure At (place : ListenSock → Prop) (known : Option PathFile → Prop) (who : Uid → Prop)
    (host : Host) : Prop where
  sock : place host.listenSock
  file : known host.file
  admitted : ∀ user ∈ host.admitted, who user

/-- What always holds: only the daemon's own users have been admitted, and as long as the
socket listens its file is for its owner only. -/
structure Guarded (uid : Uid) (host : Host) : Prop where
  admitted : ∀ user ∈ host.admitted, Trusted uid user
  narrowed : host.listenSock = .listening → Narrowed uid host.file

variable {uid : Uid} {known : Option PathFile → Prop} {who : Uid → Prop} {host : Host}

theorem connect_file (host : Host) (user : Uid) (inGroup : Bool) :
    (host.connect user inGroup).file = host.file := by
  unfold connect
  split
  · split <;> rfl
  · rfl

theorem connect_listenSock (host : Host) (user : Uid) (inGroup : Bool) :
    (host.connect user inGroup).listenSock = host.listenSock := by
  unfold connect
  split
  · split <;> rfl
  · rfl

theorem create_listenSock (host : Host) (user : Uid) (mode : Nat) :
    (host.create user mode).listenSock = host.listenSock := by
  unfold create
  split <;> rfl

theorem create_admitted (host : Host) (user : Uid) (mode : Nat) :
    (host.create user mode).admitted = host.admitted := by
  unfold create
  split <;> rfl

theorem unlink_listenSock (host : Host) (user : Uid) :
    (host.unlink user).listenSock = host.listenSock := by
  unfold unlink
  split
  · split <;> rfl
  · rfl

theorem unlink_admitted (host : Host) (user : Uid) :
    (host.unlink user).admitted = host.admitted := by
  unfold unlink
  split
  · split <;> rfl
  · rfl

theorem chmod_listenSock (host : Host) (user : Uid) (mode : Nat) :
    (host.chmod user mode).listenSock = host.listenSock := by
  unfold chmod
  split
  · split <;> rfl
  · rfl

theorem chmod_admitted (host : Host) (user : Uid) (mode : Nat) :
    (host.chmod user mode).admitted = host.admitted := by
  unfold chmod
  split
  · split <;> rfl
  · rfl

theorem act_listenSock (host : Host) (other : PathAct) :
    (host.act other).listenSock = host.listenSock := by
  cases other with
  | connect user inGroup => exact connect_listenSock host user inGroup
  | create user mode => exact create_listenSock host user mode
  | unlink user => exact unlink_listenSock host user
  | chmod user mode => exact chmod_listenSock host user mode

/-- Nobody is admitted to a socket that does not listen. -/
theorem connect_refused (quiet : host.listenSock ≠ .listening) (user : Uid) (inGroup : Bool) :
    host.connect user inGroup = host := by
  unfold connect
  split
  · exact if_neg fun admits => quiet admits.2.1
  · rfl

/-- The daemon's own users may write to the narrowed file, and nobody else. -/
theorem mayWrite_ownerOnly (uid user : Uid) (inGroup : Bool) :
    PathFile.mayWrite ⟨.controlSocket, uid, ownerOnly⟩ user inGroup = true ↔ Trusted uid user := by
  have owner : ownerOnly.testBit 7 = true := by decide
  have group : ownerOnly.testBit 4 = false := by decide
  have others : ownerOnly.testBit 1 = false := by decide
  unfold PathFile.mayWrite Trusted
  by_cases same : user = uid
  · simp [same, owner]
  · cases inGroup <;> simp [same, group, others]

theorem connect_narrowed (listens : host.listenSock = .listening)
    (narrowed : Narrowed uid host.file) (user : Uid) (inGroup : Bool) :
    (Trusted uid user ∧
      host.connect user inGroup = { host with admitted := host.admitted ++ [user] }) ∨
    (¬Trusted uid user ∧ host.connect user inGroup = host) := by
  unfold connect
  rw [show host.file = _ from narrowed]
  by_cases trusted : Trusted uid user
  · exact .inl ⟨trusted,
      if_pos ⟨rfl, listens, (mayWrite_ownerOnly uid user inGroup).mpr trusted⟩⟩
  · refine .inr ⟨trusted, if_neg fun admits => ?_⟩
    exact trusted ((mayWrite_ownerOnly uid user inGroup).mp admits.2.2)

/-! ### What others keep -/

theorem foreign_kept (uid : Uid) : KeptByOthers uid Foreign := by
  intro host other allowed foreign
  cases other with
  | connect user inGroup =>
      intro found same
      exact foreign found ((connect_file host user inGroup).symm.trans same)
  | create user mode =>
      dsimp only [act, create]
      split
      · exact foreign
      · rintro found ⟨⟩
        rfl
  | unlink user =>
      dsimp only [act, unlink]
      split
      · split
        · intro found same
          cases same
        · exact foreign
      · exact foreign
  | chmod user mode =>
      dsimp only [act, chmod]
      split
      · rename_i file present
        split
        · rintro found ⟨⟩
          exact foreign file present
        · exact foreign
      · exact foreign

/-- A file of the daemon's user stays as it is. -/
theorem own_kept {file : PathFile} (own : file.owner = uid) :
    KeptByOthers uid fun found => found = some file := by
  intro host other allowed present
  have blocked {user : Uid} (stranger : user ≠ 0 ∧ user ≠ uid) :
      file.mayChange user = false := by
    simp [PathFile.mayChange, stranger.1, own, stranger.2]
  cases other with
  | connect user inGroup => exact (connect_file host user inGroup).trans present
  | create user mode =>
      dsimp only [act, create]
      rw [present]
      exact present
  | unlink user =>
      dsimp only [act, unlink]
      rw [present]
      dsimp only
      rw [blocked allowed]
      exact present
  | chmod user mode =>
      dsimp only [act, chmod]
      rw [present]
      dsimp only
      rw [blocked allowed]
      exact present

theorem bound_kept (uid : Uid) : KeptByOthers uid (Bound uid) := by
  rintro host other allowed ⟨mode, present⟩
  exact ⟨mode, own_kept rfl host other allowed present⟩

/-- An assertion of a place at which the socket does not listen. -/
theorem At.steady_quiet {place : ListenSock → Prop} (quiet : ¬place .listening)
    (kept : KeptByOthers uid known) (implies : ∀ user, who user → Trusted uid user) :
    Code.Steady (Code.rely Host.act (PathAct.Allowed uid))
      (Guarded uid) (At place known who) where
  kept := by
    rintro host after here ⟨other, allowed, rfl⟩
    have silent : host.listenSock ≠ .listening := fun listens => quiet (listens ▸ here.sock)
    refine ⟨(act_listenSock host other).symm ▸ here.sock, kept host other allowed here.file, ?_⟩
    have same : (host.act other).admitted = host.admitted := by
      cases other with
      | connect user inGroup =>
          rw [act, connect_refused silent]
      | create user mode => exact create_admitted host user mode
      | unlink user => exact unlink_admitted host user
      | chmod user mode => exact chmod_admitted host user mode
    rw [same]
    exact here.admitted
  safe host here :=
    ⟨fun user member => implies user (here.admitted user member),
      fun listens => (quiet (listens ▸ here.sock)).elim⟩

/-- The assertion while the socket listens. -/
theorem At.steady_listening (uid : Uid) :
    Code.Steady (Code.rely Host.act (PathAct.Allowed uid))
      (Guarded uid) (At (· = .listening) (Narrowed uid) (Trusted uid)) where
  kept := by
    rintro host after here ⟨other, allowed, rfl⟩
    refine ⟨(act_listenSock host other).trans here.sock,
      own_kept rfl host other allowed here.file, ?_⟩
    cases other with
    | connect user inGroup =>
        rw [act]
        obtain ⟨trusted, same⟩ | ⟨-, same⟩ := connect_narrowed here.sock here.file user inGroup
        · rw [same]
          intro member known
          obtain old | new := List.mem_append.mp known
          · exact here.admitted member old
          · rw [List.mem_singleton.mp new]
            exact trusted
        · rw [same]
          exact here.admitted
    | create user mode =>
        rw [act, create_admitted]
        exact here.admitted
    | unlink user =>
        rw [act, unlink_admitted]
        exact here.admitted
    | chmod user mode =>
        rw [act, chmod_admitted]
        exact here.admitted
  safe host here := ⟨here.admitted, fun _ => here.file⟩

/-! ## The outlines -/

variable (uid) (umask : Nat) (path : Bytes) (env : ListenEnv)

/-- The socket is down, and the file is gone if it can be removed. -/
def Ended (status : Status) : Host → Prop :=
  At (fun sock => sock = .invalid ∨ sock = .closed) (fun file => env.cleans = true → Foreign file)
    fun user => status = .success ∧ Trusted uid user

/-- What `pjsocky_server_create` leaves. -/
def Created (status : Status) : Host → Prop :=
  if status = .success then At (· = .listening) (Narrowed uid) (Trusted uid)
  else Ended uid env status

/-- What code of the daemon is proved of, whatever the others do. -/
abbrev Outlined {Result : Type} (post : Result → Host → Prop) (pre : Host → Prop)
    (code : Code Host Result) : Prop :=
  Code.Outline (Code.rely Host.act (PathAct.Allowed uid)) (Guarded uid) post pre code

variable {uid umask path env}

theorem cleaned_kept (uid : Uid) (env : ListenEnv) :
    KeptByOthers uid fun file => env.cleans = true → Foreign file :=
  fun host other allowed known cleans => foreign_kept uid host other allowed (known cleans)

theorem Ended.steady (uid : Uid) (env : ListenEnv) (status : Status) :
    Code.Steady (Code.rely Host.act (PathAct.Allowed uid)) (Guarded uid)
      (Ended uid env status) :=
  At.steady_quiet (by decide) (cleaned_kept uid env) fun _ => And.right

/-- Nobody has been admitted while the socket was only open. -/
theorem At.steady_opened (kept : KeptByOthers uid known) :
    Code.Steady (Code.rely Host.act (PathAct.Allowed uid)) (Guarded uid)
      (At (· = .opened) known fun _ => False) :=
  At.steady_quiet (by decide) kept fun _ => False.elim

/-- The daemon's own file goes when it can be removed. -/
theorem clear_foreign (bound : Bound uid host.file) (works : Bool) :
    works = true → Foreign (host.clear uid works).file := by
  rintro rfl
  obtain ⟨mode, present⟩ := bound
  unfold clear unlink
  rw [if_pos rfl, present]
  dsimp only
  rw [show PathFile.mayChange ⟨.controlSocket, uid, mode⟩ uid = true by
    simp [PathFile.mayChange]]
  intro found same
  cases same

theorem clear_listenSock (host : Host) (uid : Uid) (works : Bool) :
    (host.clear uid works).listenSock = host.listenSock := by
  unfold clear
  split
  · exact unlink_listenSock host uid
  · rfl

theorem clear_admitted (host : Host) (uid : Uid) (works : Bool) :
    (host.clear uid works).admitted = host.admitted := by
  unfold clear
  split
  · exact unlink_admitted host uid
  · rfl

/-- Closing the socket and removing its file. -/
theorem closing_outlined {place : ListenSock → Prop} {status : Status} {Result : Type}
    {post : Result → Host → Prop} {result : Result}
    (steady : Code.Steady (Code.rely Host.act (PathAct.Allowed uid)) (Guarded uid)
      (At place known who))
    (bound : ∀ file, known file → Bound uid file)
    (admits : ∀ user, who user → status = .success ∧ Trusted uid user)
    (ends : ∀ host, Ended uid env status host → post result host) :
    Outlined uid post (At place known who)
      (.access (setSock .closed) fun _ => .access (clear uid env.cleans) fun _ => .ret result) := by
  refine .step (At (· = .closed) (Bound uid) fun user => status = .success ∧ Trusted uid user)
    steady (fun host here => ?_) fun _ _ => .step (Ended uid env status) ?_ (fun host here => ?_)
    fun _ _ => .ret (Ended.steady uid env status) ends
  · exact ⟨rfl, bound _ here.file, fun user member => admits user (here.admitted user member)⟩
  · exact At.steady_quiet (by decide) (bound_kept uid) fun _ => And.right
  · refine ⟨.inr ((clear_listenSock ..).trans here.sock), clear_foreign here.file env.cleans, ?_⟩
    rw [clear_admitted]
    exact here.admitted

theorem Created.failed {status : Status} (failed : status ≠ .success) :
    Created uid env status = Ended uid env status := if_neg failed

theorem Created.succeeded :
    Created uid env .success = At (· = .listening) (Narrowed uid) (Trusted uid) := if_pos rfl

theorem abandonCode_outlined {status : Status} (failed : status ≠ .success) :
    Outlined uid (Created uid env) (At (· = .opened) (Bound uid) fun _ => False)
      (abandonCode uid env status) :=
  closing_outlined (At.steady_opened (bound_kept uid)) (fun _ => id) (fun _ => False.elim)
    fun _ ended => (Created.failed failed).symm ▸ ended

/-- `bind` takes a path that is free. -/
theorem bind_bound (bound : host.bindStatus env = .success) (umask : Nat) :
    Bound uid (host.bind uid umask env).file := by
  rw [bind, if_pos bound]
  exact ⟨_, rfl⟩

theorem bind_failed (failed : host.bindStatus env ≠ .success) (umask : Nat) :
    host.bind uid umask env = host := if_neg failed

theorem narrow_narrowed (bound : Bound uid host.file) (narrows : host.narrows uid env = true) :
    Narrowed uid (host.narrow uid env).file := by
  obtain ⟨mode, present⟩ := bound
  rw [narrow, if_pos narrows, chmod, present]
  dsimp only
  rw [show PathFile.mayChange ⟨.controlSocket, uid, mode⟩ uid = true by
    simp [PathFile.mayChange]]
  rfl

theorem narrow_failed (failed : ¬host.narrows uid env = true) : host.narrow uid env = host :=
  if_neg failed

theorem bind_listenSock (host : Host) (uid : Uid) (umask : Nat) (env : ListenEnv) :
    (host.bind uid umask env).listenSock = host.listenSock := by
  unfold bind
  split <;> rfl

theorem bind_admitted (host : Host) (uid : Uid) (umask : Nat) (env : ListenEnv) :
    (host.bind uid umask env).admitted = host.admitted := by
  unfold bind
  split <;> rfl

theorem narrow_listenSock (host : Host) (uid : Uid) (env : ListenEnv) :
    (host.narrow uid env).listenSock = host.listenSock := by
  unfold narrow
  split
  · exact chmod_listenSock host uid ownerOnly
  · rfl

theorem narrow_admitted (host : Host) (uid : Uid) (env : ListenEnv) :
    (host.narrow uid env).admitted = host.admitted := by
  unfold narrow
  split
  · exact chmod_admitted host uid ownerOnly
  · rfl

theorem clear_foreign_kept (foreign : Foreign host.file) (works : Bool) :
    Foreign (host.clear uid works).file := by
  unfold clear unlink
  split
  · split
    · split
      · intro found same
        cases same
      · exact foreign
    · exact foreign
  · exact foreign

/-- The last part of `pjsocky_server_create`, from `chmod` on. -/
theorem narrowing_outlined :
    Outlined uid (Created uid env) (At (· = .opened) (Bound uid) fun _ => False)
      (.access (narrow uid env) fun host =>
        if host.narrows uid env then
          match env.listen with
          | some status => abandonCode uid env status
          | none => .access (setSock .listening) fun _ => .ret .success
        else abandonCode uid env env.errno) := by
  -- What is known after `chmod` depends on whether it has succeeded.
  refine .access (At.steady_opened (bound_kept uid))
    (fun before => At (· = .opened) (if before.narrows uid env then Narrowed uid else Bound uid)
      fun _ => False) (fun host here => ?_) fun host here => ?_
  · refine ⟨(narrow_listenSock ..).trans here.sock, ?_, (narrow_admitted ..).symm ▸ here.admitted⟩
    split
    · rename_i narrows
      exact narrow_narrowed here.file narrows
    · rename_i failed
      rw [narrow_failed failed]
      exact here.file
  · split
    · have narrowed : Code.Steady (Code.rely Host.act (PathAct.Allowed uid)) (Guarded uid)
          (At (· = .opened) (Narrowed uid) fun _ => False) :=
        At.steady_opened (own_kept rfl)
      split
      · rename_i status _
        exact (abandonCode_outlined status.2).strengthen narrowed fun host known =>
          ⟨known.sock, ⟨ownerOnly, known.file⟩, known.admitted⟩
      · refine .step (At (· = .listening) (Narrowed uid) (Trusted uid)) narrowed
          (fun host known =>
            ⟨rfl, known.file, fun user member => (known.admitted user member).elim⟩)
          fun _ _ => .ret (At.steady_listening uid) fun host known => ?_
        rw [Created.succeeded]
        exact known
    · exact abandonCode_outlined env.errno.2

theorem serverCreateCode_outlined :
    Outlined uid (Created uid env) (At (· = .invalid) Foreign fun _ => False)
      (serverCreateCode uid umask path env) := by
  have start : Code.Steady (Code.rely Host.act (PathAct.Allowed uid)) (Guarded uid)
      (At (· = .invalid) Foreign fun _ => False) :=
    At.steady_quiet (by decide) (foreign_kept uid) fun _ => False.elim
  have opened : Code.Steady (Code.rely Host.act (PathAct.Allowed uid)) (Guarded uid)
      (At (· = .opened) Foreign fun _ => False) := At.steady_opened (foreign_kept uid)
  have refused {status : Status} (failed : status ≠ .success) :
      Outlined uid (Created uid env) (At (· = .invalid) Foreign fun _ => False) (.ret status) := by
    refine .ret start fun host here => ?_
    rw [Created.failed failed]
    exact ⟨.inl here.sock, fun _ => here.file, fun user member => (here.admitted user member).elim⟩
  unfold serverCreateCode
  split
  · exact refused (by decide)
  · split
    · rename_i status _
      exact refused status.2
    · refine .step (At (· = .opened) Foreign fun _ => False) start
        (fun host here => ⟨rfl, here.file, here.admitted⟩) fun _ _ => ?_
      refine .step (At (· = .opened) Foreign fun _ => False) opened
        (fun host here => ⟨(clear_listenSock ..).trans here.sock, clear_foreign_kept here.file _,
          (clear_admitted ..).symm ▸ here.admitted⟩) fun _ _ => ?_
      -- What is known after `bind` depends on whether it has succeeded.
      refine .access opened (fun before => At (· = .opened)
          (if before.bindStatus env = .success then Bound uid else Foreign) fun _ => False)
        (fun host here => ?_) fun host here => ?_
      · refine ⟨(bind_listenSock ..).trans here.sock, ?_, (bind_admitted ..).symm ▸ here.admitted⟩
        split
        · rename_i bound
          exact bind_bound bound umask
        · rename_i failed
          rw [bind_failed failed]
          exact here.file
      · by_cases bound : host.bindStatus env = .success
        · rw [if_pos bound, if_neg (not_not.mpr bound)]
          exact narrowing_outlined
        · rw [if_neg bound, if_pos bound]
          refine .step (Ended uid env (host.bindStatus env)) opened (fun after known => ?_)
            fun _ _ => .ret (Ended.steady ..) fun after known => ?_
          · exact ⟨.inr rfl, fun _ => known.file,
              fun user member => (known.admitted user member).elim⟩
          · rw [Created.failed bound]
            exact known

theorem socketLifeCode_outlined :
    Outlined uid (Ended uid env) (At (· = .invalid) Foreign fun _ => False)
      (socketLifeCode uid umask path env) := by
  refine serverCreateCode_outlined.bind fun status => ?_
  by_cases created : status = .success
  · subst created
    rw [if_pos rfl, Created.succeeded]
    exact closing_outlined (At.steady_listening uid) (fun _ narrowed => ⟨ownerOnly, narrowed⟩)
      (fun user trusted => ⟨rfl, trusted⟩) fun _ => id
  · rw [if_neg created, Created.failed created]
    exact .ret (Ended.steady ..) fun _ => id

end Host

/-- Whatever other users do at the path, and whatever the process umask and the system calls
answer: only the daemon's user and the superuser are ever admitted, and while the socket
listens these are, and nobody else is, let in. When all is over the socket is down, its file
is gone if it can be removed, and nobody has been admitted unless the socket was created. -/
theorem control_socket_guarded (uid : Uid) (umask : Nat) (path : Bytes) (env : ListenEnv)
    {file : Option PathFile} (foreign : Foreign file) (inputs : List (Option PathAct))
    (permitted : ∀ other, some other ∈ inputs → other.Allowed uid) :
    let state := Machine.run (Code.interleave Host.act)
      (⟨file, .invalid, []⟩, socketLifeCode uid umask path env) inputs
    (∀ user ∈ state.1.admitted, Trusted uid user) ∧
    (state.1.listenSock = .listening → ∀ user inGroup,
      user ∈ (state.1.connect user inGroup).admitted ↔ Trusted uid user) ∧
    ∀ status, state.2 = .ret status →
      state.1.listenSock ∈ [ListenSock.invalid, .closed] ∧
      (env.cleans = true → Foreign state.1.file) ∧
      (state.1.admitted ≠ [] → status = .success) := by
  intro state
  have start : Host.At (· = .invalid) Foreign (fun _ => False) ⟨file, .invalid, []⟩ :=
    ⟨rfl, foreign, List.forall_mem_nil _⟩
  obtain ⟨guarded, ends⟩ :=
    Code.outline_sound Host.socketLifeCode_outlined start permitted
  refine ⟨guarded.admitted, fun listens user inGroup => ⟨fun member => ?_, fun trusted => ?_⟩,
    fun status returned => ?_⟩
  · obtain ⟨trusted, -⟩ | ⟨-, same⟩ :=
      Host.connect_narrowed listens (guarded.narrowed listens) user inGroup
    · exact trusted
    · exact guarded.admitted user (same ▸ member)
  · obtain ⟨-, same⟩ | ⟨stranger, -⟩ :=
      Host.connect_narrowed listens (guarded.narrowed listens) user inGroup
    · rw [same]
      exact List.mem_append_right _ (List.mem_singleton_self user)
    · exact (stranger trusted).elim
  · have ended := ends status returned
    have down : state.1.listenSock = .invalid ∨ state.1.listenSock = .closed := ended.sock
    refine ⟨?_, ended.file, fun some => ?_⟩
    · obtain down | down := down
      · exact down ▸ List.mem_cons_self
      · exact down ▸ List.mem_cons_of_mem _ List.mem_cons_self
    · obtain ⟨user, member⟩ := List.exists_mem_of_ne_nil _ some
      exact (ended.admitted user member).1

/-! ## After a crash -/

/-- Nobody else puts a file at the path. -/
def PathAct.OnlyConnects : PathAct → Prop
  | .connect .. => True
  | _ => False

namespace Host

variable {uid : Uid}

/-- Whatever is at the path belongs to the daemon's user. -/
def Own (uid : Uid) (host : Host) : Prop := ∀ file, host.file = some file → file.owner = uid

theorem Own.clear {host : Host} (own : host.Own uid) (works : Bool) :
    (host.clear uid works).Own uid := by
  unfold Host.clear unlink
  split
  · split
    · split
      · intro file same
        cases same
      · exact own
    · exact own
  · exact own

theorem Own.bind {host : Host} (own : host.Own uid) (umask : Nat) (env : ListenEnv) :
    (host.bind uid umask env).Own uid := by
  unfold Host.bind
  split
  · rintro file ⟨⟩
    rfl
  · exact own

theorem Own.narrow {host : Host} (own : host.Own uid) (env : ListenEnv) :
    (host.narrow uid env).Own uid := by
  unfold Host.narrow chmod
  split
  · split
    · rename_i file present
      split
      · rintro found ⟨⟩
        exact own file present
      · exact own
    · exact own
  · exact own

theorem Own.steady (uid : Uid) :
    Code.Steady (Code.rely Host.act PathAct.OnlyConnects) (Own uid) (Own uid) where
  kept := by
    rintro before after own ⟨other, connects, rfl⟩
    cases other with
    | connect user inGroup =>
        intro file same
        exact own file ((connect_file before user inGroup).symm.trans same)
    | create | unlink | chmod => exact connects.elim
  safe _ := id

/-- One more access that leaves only an own file at the path. -/
theorem Own.access {Result : Type} {change : Host → Host} {next : Host → Code Host Result}
    (moves : ∀ host : Host, host.Own uid → (change host).Own uid)
    (rest : ∀ host, Code.Outline (Code.rely Host.act PathAct.OnlyConnects) (Own uid)
      (fun _ => Own uid) (Own uid) (next host)) :
    Code.Outline (Code.rely Host.act PathAct.OnlyConnects) (Own uid) (fun _ => Own uid) (Own uid)
      (.access change next) :=
  .step (Own uid) (Own.steady uid) moves fun host _ => rest host

theorem Own.ret {Result : Type} (result : Result) :
    Code.Outline (Code.rely Host.act PathAct.OnlyConnects) (Own uid) (fun _ => Own uid) (Own uid)
      (.ret result) :=
  .ret (Own.steady uid) fun _ => id

/-- The daemon itself never leaves a file of another user. -/
theorem socketLifeCode_own (umask : Nat) (path : Bytes) (env : ListenEnv) :
    Code.Outline (Code.rely Host.act PathAct.OnlyConnects) (Own uid) (fun _ => Own uid) (Own uid)
      (socketLifeCode uid umask path env) := by
  have abandons (status : Status) : Code.Outline (Code.rely Host.act PathAct.OnlyConnects)
      (Own uid) (fun _ => Own uid) (Own uid) (abandonCode uid env status) :=
    Own.access (fun _ => id) fun _ => Own.access (fun _ own => own.clear env.cleans) fun _ =>
      Own.ret status
  have creates : Code.Outline (Code.rely Host.act PathAct.OnlyConnects) (Own uid)
      (fun _ => Own uid) (Own uid) (serverCreateCode uid umask path env) := by
    unfold serverCreateCode
    split
    · exact Own.ret _
    · split
      · exact Own.ret _
      · refine Own.access (fun _ => id) fun _ => ?_
        refine Own.access (fun _ own => own.clear env.unlinks) fun _ => ?_
        refine Own.access (fun _ own => own.bind umask env) fun host => ?_
        split
        · exact Own.access (fun _ => id) fun _ => Own.ret _
        · refine Own.access (fun _ own => own.narrow env) fun host => ?_
          split
          · split
            · exact abandons _
            · exact Own.access (fun _ => id) fun _ => Own.ret _
          · exact abandons _
  refine creates.bind fun status => ?_
  split
  · exact Own.access (fun _ => id) fun _ => Own.access (fun _ own => own.clear env.cleans)
      fun _ => Own.ret _
  · exact Own.ret _

/-- What a process that is gone leaves: a socket nobody listens to. -/
def crashed (host : Host) : Host :=
  ⟨host.file.map fun file => { file with kind := .other }, .invalid, []⟩

/-- A file of the daemon's user does not stand in the way. -/
theorem create_succeeds {host : Host} {path : Bytes} (own : host.Own uid) (umask : Nat)
    (fits : path.length < sunPathSize) {env : ListenEnv} (socket : env.socket = none)
    (unlinks : env.unlinks = true) (bind : env.bind = none) (chmod : env.chmodRefused = false)
    (listen : env.listen = none) :
    ((serverCreateCode uid umask path env).run host).1 = .success := by
  have freed : ((host.setSock .opened).clear uid env.unlinks).file = none := by
    unfold Host.clear
    rw [if_pos unlinks]
    unfold unlink
    cases present : host.file with
    | none => simp [setSock, present]
    | some file => simp [setSock, present, PathFile.mayChange, own file present]
  have bound : Host.bindStatus env ((host.setSock .opened).clear uid env.unlinks) = .success := by
    rw [bindStatus, freed, bind]
  have narrows : Host.narrows uid env
      (((host.setSock .opened).clear uid env.unlinks).bind uid umask env) = true := by
    obtain ⟨mode, present⟩ := @bind_bound uid _ _ bound umask
    rw [Host.narrows, present, chmod]
    simp [PathFile.mayChange]
  rw [serverCreateCode, if_neg (not_le.mpr fits), socket]
  simp only [Code.run_access, bound, ne_eq, not_true_eq_false, if_false, narrows, if_true, listen]
  rfl

end Host

/-- Wherever a run of the daemon breaks off, the socket it has left does not keep the next run
of the same user from starting, as long as nobody else puts a file at the path. -/
theorem restart_succeeds (uid : Uid) (umask : Nat) (path : Bytes) (env : ListenEnv) {host : Host}
    (own : host.Own uid) (inputs : List (Option PathAct))
    (permitted : ∀ other, some other ∈ inputs → other.OnlyConnects)
    (fits : path.length < sunPathSize) {again : ListenEnv} (socket : again.socket = none)
    (unlinks : again.unlinks = true) (bind : again.bind = none)
    (chmod : again.chmodRefused = false) (listen : again.listen = none) :
    let left := (Machine.run (Code.interleave Host.act)
      (host, socketLifeCode uid umask path env) inputs).1
    ((serverCreateCode uid umask path again).run left.crashed).1 = .success := by
  obtain ⟨leftOwn, -⟩ :=
    Code.outline_sound (Host.socketLifeCode_own umask path env) own permitted
  refine Host.create_succeeds (fun file same => ?_) umask fits socket unlinks bind chmod listen
  obtain ⟨old, present, rfl⟩ := Option.map_eq_some_iff.mp same
  exact leftOwn old present

section Concrete

/-- Every system call succeeds. -/
def ListenEnv.sample : ListenEnv := ⟨none, true, none, false, ⟨.fromOs 1, by decide⟩, none, true⟩

/-- The socket that an earlier run of user 1000 has left. -/
def staleSocket : PathFile := ⟨.other, 1000, 0o600⟩

/-- A stranger tries to connect before the mode is set and again after, then user 1000 does. -/
def strangerTries : List (Option PathAct) :=
  [none, none, none, some (.connect 1001 true), none, none, some (.connect 1001 true),
    some (.connect 1000 false)]

theorem strangerTries_guarded :
    let state := Machine.run (Code.interleave Host.act)
      (⟨some staleSocket, .invalid, []⟩,
        socketLifeCode 1000 0 (ascii "/tmp/pjsocky.sock") .sample) strangerTries
    (∀ user ∈ state.1.admitted, Trusted 1000 user) ∧
    (state.1.listenSock = .listening → ∀ user inGroup,
      user ∈ (state.1.connect user inGroup).admitted ↔ Trusted 1000 user) ∧
    ∀ status, state.2 = .ret status →
      state.1.listenSock ∈ [ListenSock.invalid, .closed] ∧
      (ListenEnv.sample.cleans = true → Foreign state.1.file) ∧
      (state.1.admitted ≠ [] → status = .success) :=
  control_socket_guarded 1000 0 (ascii "/tmp/pjsocky.sock") .sample
    (by rintro found ⟨⟩; rfl) strangerTries (by simp [strangerTries, PathAct.Allowed])

example : (Machine.run (Code.interleave Host.act)
    (⟨some staleSocket, .invalid, []⟩,
      socketLifeCode 1000 0 (ascii "/tmp/pjsocky.sock") .sample) strangerTries).1 =
    ⟨some ⟨.controlSocket, 1000, 0o600⟩, .listening, [1000]⟩ := by decide

/-- The daemon is killed when it has just made the file. -/
theorem strangerTries_restarts :
    let left := (Machine.run (Code.interleave Host.act)
      (⟨some staleSocket, .invalid, []⟩,
        socketLifeCode 1000 0 (ascii "/tmp/pjsocky.sock") .sample) (strangerTries.take 4)).1
    ((serverCreateCode 1000 0 (ascii "/tmp/pjsocky.sock") .sample).run left.crashed).1 =
      .success :=
  restart_succeeds 1000 0 (ascii "/tmp/pjsocky.sock") .sample (by rintro file ⟨⟩; rfl)
    (strangerTries.take 4) (by simp [strangerTries, PathAct.OnlyConnects]) (by decide) rfl rfl rfl
    rfl rfl

end Concrete

end Pjsocky
