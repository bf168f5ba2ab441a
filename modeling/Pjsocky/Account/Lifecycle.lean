import Mathlib.Data.Set.Insert
import Pjsocky.Command.Sip

/-!
# The account over whole runs

pjsua keeps its own accounts; the daemon keeps one id and one flag. `Endpoint` puts the two
side by side: beside the SIP side of the daemon it has the accounts that pjsua has added
and not deleted, each with its last registration callback whose info could be read. In
every run the daemon's two globals say just what pjsua's accounts are, so the guards of
the commands that read them are guards on the accounts.
-/

namespace Pjsocky

open Support

/-- An account that pjsua has added. -/
structure Account where
  /-- The last registration callback of this account that could read its info: whether it
  was about a REGISTER, and the info. -/
  last : Option (Bool × AccInfo)

/-- The last callback was about a REGISTER that had a 2xx answer. -/
def Account.Confirmed (account : Account) : Prop :=
  ∃ info, account.last = some (true, info) ∧ 200 ≤ info.status ∧ info.status < 300

/-- What a request does to pjsua's accounts. -/
def Action.onAccounts (accounts : AccId → Option Account) : Action → AccId → Option Account
  | .accAdd _ (some accId) => Function.update accounts accId (some ⟨none⟩)
  | .accDel accId true => Function.update accounts accId none
  | _ => accounts

/-- The daemon's SIP side with pjsua's accounts. -/
structure Endpoint where
  sip : Sip
  accounts : AccId → Option Account

namespace Endpoint

def start : Endpoint := ⟨.start, fun _ => none⟩

/-- What a callback tells about pjsua's accounts. No callback outlives its account, so one
that can read the account's info is about the account that has the id now. -/
def heard (accounts : AccId → Option Account) : SipInput → AccId → Option Account
  | .regState2 accId renew (.ok info) =>
      Function.update accounts accId ((accounts accId).map fun _ => ⟨some (renew, info)⟩)
  | _ => accounts

def step (build : Build) (endpoint : Endpoint) (input : SipInput) : Endpoint where
  sip := endpoint.sip.step build input
  accounts :=
    heard ((endpoint.sip.requests build input).foldl Action.onAccounts endpoint.accounts) input

/-- The state after a list of inputs. -/
abbrev run (build : Build) : Endpoint → List SipInput → Endpoint := Machine.run (step build)

/-- What pjsua promises: a new account has an id that no other has, and the info of an
account that it does not have cannot be read. -/
def Possible (endpoint : Endpoint) : SipInput → Prop
  | .line _ outcomes =>
      ∀ accId, outcomes.accAdd = .ok accId → accId ≠ invalidId ∧ endpoint.accounts accId = none
  | .regState2 accId _ info => endpoint.accounts accId = none → ∃ status, info = .error status
  | _ => True

/-- The ids of pjsua's accounts. -/
def present (endpoint : Endpoint) : Set AccId := { accId | endpoint.accounts accId ≠ none }

/-- The daemon knows pjsua's accounts, and whether its own is registered. -/
structure Sound (endpoint : Endpoint) : Prop where
  present : endpoint.present =
    if endpoint.sip.daemon.accId = invalidId then ∅ else {endpoint.sip.daemon.accId}
  registered : endpoint.sip.daemon.registered = true ↔
    ∃ account, endpoint.accounts endpoint.sip.daemon.accId = some account ∧ account.Confirmed

/-- A request for a new call or a message names an account that pjsua has, the daemon's own,
and that is registered. -/
def Sends (endpoint : Endpoint) : Action → Prop
  | .makeCall accId .. | .imSend accId .. | .imTyping accId .. =>
      accId = endpoint.sip.daemon.accId ∧
        ∃ account, endpoint.accounts accId = some account ∧ account.Confirmed
  | _ => True

/-- What a step may do, in terms of pjsua's accounts: configure an account only when there
is none, remove one only when it is not registered, and send only as the registered
account. -/
structure Guarded (build : Build) (endpoint : Endpoint) (input : SipInput) : Prop where
  configures : ∀ line outcomes, input = .line line outcomes →
    (endpoint.sip.daemon.dispatchLine build outcomes line).1.Succeeded .accountConfigure →
    endpoint.present = ∅
  removes : ∀ line outcomes, input = .line line outcomes →
    (endpoint.sip.daemon.dispatchLine build outcomes line).1.Succeeded .accountRemove →
    ∃ account, endpoint.accounts endpoint.sip.daemon.accId = some account ∧ ¬account.Confirmed
  sends : ∀ action ∈ endpoint.sip.requests build input, endpoint.Sends action

end Endpoint

/-! ## The log and pjsua's accounts -/

/-- A request that neither adds nor deletes an account. -/
def Action.KeepsAccounts : Action → Prop
  | .accAdd _ (some _) | .accDel _ true => False
  | _ => True

theorem Action.KeepsAccounts.onAccounts {action : Action} (keeps : action.KeepsAccounts)
    (accounts : AccId → Option Account) : Action.onAccounts accounts action = accounts := by
  cases action with
  | accAdd config added =>
      cases added with
      | none => rfl
      | some accId => exact keeps.elim
  | accDel accId deleted =>
      cases deleted with
      | false => rfl
      | true => exact keeps.elim
  | _ => rfl

theorem Action.foldl_onAccounts {actions : List Action}
    (keep : ∀ action ∈ actions, action.KeepsAccounts) (accounts : AccId → Option Account) :
    actions.foldl Action.onAccounts accounts = accounts :=
  Machine.run_idle fun action member => (keep action member).onAccounts accounts

theorem Action.Plain.keepsAccounts {calls : CallLib} {daemon : Daemon} {action : Action}
    (isPlain : action.Plain calls daemon) : action.KeepsAccounts := by
  cases action with
  | accAdd config added =>
      cases isPlain
      trivial
  | accDel accId deleted =>
      obtain ⟨-, -, rfl⟩ := isPlain
      trivial
  | _ => trivial

theorem Action.OfCallback.keepsAccounts {subject : Option CallId} {action : Action}
    (ofCallback : action.OfCallback subject) : action.KeepsAccounts := by
  obtain ⟨event, rfl⟩ | ⟨callId, -, about | rfl⟩ := ofCallback
  · trivial
  · cases action with
    | accAdd | accDel => exact about.elim
    | _ => trivial
  · trivial

namespace Daemon

variable {daemon before after : Daemon} {calls : CallLib}

theorem Logs.speaks (logs : Logs calls before after) :
    Speaks Action.KeepsAccounts before after := by
  obtain ⟨added, rfl, plain⟩ := logs
  exact ⟨⟨added, rfl, fun action member => (plain action member).keepsAccounts⟩, rfl, rfl⟩

/-- `account.configure` succeeds only without an account. -/
theorem cmdAccountConfigure_success (calls : CallLib) {outcomes : Outcomes}
    {params : Option JsonElem}
    (succeeded : (daemon.cmdAccountConfigure outcomes params).1.status = .success) :
    daemon.accId = invalidId := by
  unfold cmdAccountConfigure at succeeded
  split at succeeded
  · rename_i sipUri registrarUri username password _ _ _ _
    dsimp only at succeeded
    obtain same | ⟨unconfigured, -⟩ :=
      accountConfigure_cases calls outcomes daemon sipUri registrarUri username password
        ((getStringMember params "realm").getD (ascii "*"))
    · rw [same] at succeeded
      cases succeeded
    · exact unconfigured
  · cases succeeded

/-- `account.remove` succeeds only with an account that is not registered. -/
theorem cmdAccountRemove_success {outcomes : Outcomes}
    (succeeded : (daemon.cmdAccountRemove outcomes).1.status = .success) :
    daemon.accId ≠ invalidId ∧ daemon.registered = false := by
  unfold cmdAccountRemove accountRemove bareCmd at succeeded
  split at succeeded
  · cases succeeded
  · rename_i account
    split at succeeded
    · cases succeeded
    · rename_i unregistered
      exact ⟨account, Bool.not_eq_true _ ▸ unregistered⟩

end Daemon

/-- A command keeps the account, adds one when there is none, or deletes it. -/
theorem CmdStep.account_cases {build : Build} {outcomes : Outcomes} {params : Option JsonElem}
    {daemon after : Daemon} {fn : CmdFn} {status : Status}
    (step : CmdStep build outcomes params daemon fn status after)
    (flag : daemon.accId = invalidId → daemon.registered = false) :
    Daemon.Speaks Action.KeepsAccounts daemon after ∨
    (daemon.accId = invalidId ∧ ∃ asked config accId, outcomes.accAdd = .ok accId ∧
      Daemon.Speaks Action.KeepsAccounts daemon asked ∧
      after = { asked.record (.accAdd config (some accId)) with accId }) ∨
    (daemon.accId ≠ invalidId ∧
      after = { daemon.record (.accDel daemon.accId true) with
        accId := invalidId, registered := false }) := by
  have unchanged := Daemon.Speaks.refl Action.KeepsAccounts daemon
  -- With no account the flag that `account.configure` resets is down already.
  have reset (unconfigured : daemon.accId = invalidId) :
      { daemon with registered := false } = daemon := by rw [← flag unconfigured]
  cases step with
  | plain logs => exact .inl logs.speaks
  | configured unconfigured added logs =>
      rw [reset unconfigured] at logs
      exact .inr (.inl ⟨unconfigured, _, _, _, added, logs.speaks, rfl⟩)
  | notConfigured unconfigured logs =>
      rw [reset unconfigured] at logs
      exact .inl logs.speaks
  | removed account _ => exact .inr (.inr ⟨account, rfl⟩)
  | selected device logs =>
      exact .inl ⟨logs.speaks.log, logs.speaks.accId, logs.speaks.registered⟩
  | dialled callId uri video =>
      refine .inl (Daemon.Speaks.record ?_ _ trivial)
      exact unchanged.set rfl rfl rfl
  | limited => exact .inl (unchanged.set rfl rfl rfl)
  | hangsUp => exact .inl (unchanged.record (.hangup ..) trivial)
  | hangsUpAll => exact .inl (unchanged.record (.hangup ..) trivial)
  | answers _ _ logs => exact .inl (logs.speaks.record (.answer ..) trivial)

/-! ## One step -/

namespace Endpoint

variable {build : Build} {endpoint : Endpoint} {input : SipInput}

theorem heard_callback (callback : input.IsCallback) (accounts : AccId → Option Account) :
    heard accounts input = accounts := by
  cases input with
  | line | regState2 => exact callback.elim
  | _ => rfl

namespace Sound

theorem start : Sound start := by
  refine ⟨?_, ?_⟩
  · simp [Endpoint.present, Endpoint.start, Sip.start, Daemon.start]
  · constructor
    · nofun
    · rintro ⟨account, ⟨⟩, -⟩

theorem account_iff (sound : endpoint.Sound) (accId : AccId) :
    endpoint.accounts accId ≠ none ↔
      endpoint.sip.daemon.accId ≠ invalidId ∧ accId = endpoint.sip.daemon.accId := by
  change accId ∈ endpoint.present ↔ _
  rw [sound.present]
  split
  · rename_i unconfigured
    simp [unconfigured]
  · rename_i account
    simp [account]

/-- The daemon's flag is down when it has no account. -/
theorem unregistered (sound : endpoint.Sound)
    (unconfigured : endpoint.sip.daemon.accId = invalidId) :
    endpoint.sip.daemon.registered = false := by
  rw [← Bool.not_eq_true, sound.registered]
  rintro ⟨account, found, -⟩
  have isAccount := (sound.account_iff endpoint.sip.daemon.accId).mp (by rw [found]; nofun)
  exact isAccount.1 unconfigured

/-- A step that keeps pjsua's accounts and the daemon's two globals. -/
theorem kept (sound : endpoint.Sound)
    (speaks : Daemon.Speaks Action.KeepsAccounts endpoint.sip.daemon
      (endpoint.sip.step build input).daemon)
    (unheard : ∀ accounts, heard accounts input = accounts) :
    (endpoint.step build input).Sound := by
  obtain ⟨added, grown, keep⟩ := speaks.log
  have same : (endpoint.step build input).accounts = endpoint.accounts := by
    rw [step, Sip.requests_eq grown, Action.foldl_onAccounts keep, unheard]
  refine ⟨?_, ?_⟩
  · rw [Endpoint.present, same]
    change endpoint.present = _
    rw [sound.present, step, speaks.accId]
  · rw [same, step, speaks.accId, speaks.registered]
    exact sound.registered

/-- pjsua adds an account when the daemon had none. -/
theorem configured {line : Bytes} {outcomes : Outcomes} {asked : Daemon} {config : AccConfig}
    {accId : AccId} (sound : endpoint.Sound)
    (unconfigured : endpoint.sip.daemon.accId = invalidId) (isId : accId ≠ invalidId)
    (speaks : Daemon.Speaks Action.KeepsAccounts endpoint.sip.daemon asked)
    (leaves : (endpoint.sip.step build (.line line outcomes)).daemon =
      { asked.record (.accAdd config (some accId)) with accId }) :
    (endpoint.step build (.line line outcomes)).Sound := by
  obtain ⟨added, grown, keep⟩ := speaks.log
  have allAdded : (endpoint.sip.step build (.line line outcomes)).daemon.log =
      endpoint.sip.daemon.log ++ (added ++ [.accAdd config (some accId)]) := by
    rw [leaves, ← List.append_assoc, ← grown]
    rfl
  have same : (endpoint.step build (.line line outcomes)).accounts =
      Function.update endpoint.accounts accId (some ⟨none⟩) := by
    rw [step, Sip.requests_eq allAdded, List.foldl_append, Action.foldl_onAccounts keep]
    rfl
  have empty (other : AccId) : endpoint.accounts other = none := by
    by_contra found
    exact ((sound.account_iff other).mp found).1 unconfigured
  have down : asked.registered = false := speaks.registered.trans (sound.unregistered unconfigured)
  refine ⟨?_, ?_⟩
  · rw [Endpoint.present, same, step, leaves, if_neg isId]
    ext other
    by_cases other = accId <;> simp_all
  · rw [same, step, leaves]
    refine iff_of_false ?_ ?_
    · rw [Bool.not_eq_true]
      exact down
    · rw [Function.update_self]
      rintro ⟨account, ⟨⟩, info, ⟨⟩, -⟩

/-- pjsua deletes the daemon's account. -/
theorem removed {line : Bytes} {outcomes : Outcomes} (sound : endpoint.Sound)
    (leaves : (endpoint.sip.step build (.line line outcomes)).daemon =
      { endpoint.sip.daemon.record (.accDel endpoint.sip.daemon.accId true) with
        accId := invalidId, registered := false }) :
    (endpoint.step build (.line line outcomes)).Sound := by
  have same : (endpoint.step build (.line line outcomes)).accounts =
      Function.update endpoint.accounts endpoint.sip.daemon.accId none := by
    have grown : (endpoint.sip.step build (.line line outcomes)).daemon.log =
        endpoint.sip.daemon.log ++ [.accDel endpoint.sip.daemon.accId true] := by
      rw [leaves]
      rfl
    rw [step, Sip.requests_eq grown]
    rfl
  have empty (other : AccId) :
      Function.update endpoint.accounts endpoint.sip.daemon.accId none other = none := by
    by_cases own : other = endpoint.sip.daemon.accId
    · rw [own, Function.update_self]
    · rw [Function.update_of_ne own]
      by_contra found
      exact own ((sound.account_iff other).mp found).2
  refine ⟨?_, ?_⟩
  · rw [Endpoint.present, same, step, leaves, if_pos rfl]
    ext other
    simp [empty]
  · rw [same, step, leaves, empty]
    refine iff_of_false Bool.false_ne_true ?_
    rintro ⟨account, ⟨⟩, -⟩

/-- A registration callback is about the daemon's account, or can read nothing. -/
theorem heard (sound : endpoint.Sound) {accId : AccId} {renew : Bool}
    {info : Except Failure AccInfo}
    (possible : endpoint.Possible (.regState2 accId renew info)) :
    (endpoint.step build (.regState2 accId renew info)).Sound := by
  have asked := (Daemon.Speaks.refl Action.KeepsAccounts endpoint.sip.daemon).record
    (.accGetInfo accId) trivial
  cases info with
  | error status => exact sound.kept asked fun _ => rfl
  | ok info =>
      have found : endpoint.accounts accId ≠ none := by
        intro missing
        obtain ⟨status, ⟨⟩⟩ := possible missing
      obtain ⟨account, rfl⟩ := (sound.account_iff accId).mp found
      have same : (endpoint.step build
          (.regState2 endpoint.sip.daemon.accId renew (.ok info))).accounts =
          Function.update endpoint.accounts endpoint.sip.daemon.accId
            (some ⟨some (renew, info)⟩) := by
        obtain ⟨old, isOld⟩ := Option.ne_none_iff_exists'.mp found
        have grown : (endpoint.sip.step build
            (.regState2 endpoint.sip.daemon.accId renew (.ok info))).daemon.log =
            endpoint.sip.daemon.log ++ [.accGetInfo endpoint.sip.daemon.accId,
              .push (.regState info (renew && info.status / 100 = 2))] :=
          List.append_assoc endpoint.sip.daemon.log [_] [_]
        rw [step, Sip.requests_eq grown]
        change Function.update endpoint.accounts _ ((endpoint.accounts _).map _) = _
        rw [isOld]
        rfl
      have unchanged : (endpoint.step build (.regState2 endpoint.sip.daemon.accId renew
          (.ok info))).sip.daemon.accId = endpoint.sip.daemon.accId := rfl
      have flag : (endpoint.step build (.regState2 endpoint.sip.daemon.accId renew
          (.ok info))).sip.daemon.registered = (renew && info.status / 100 = 2) := rfl
      refine ⟨?_, ?_⟩
      · rw [Endpoint.present, same, unchanged, ← sound.present]
        ext other
        by_cases own : other = endpoint.sip.daemon.accId
        · subst own
          rw [Set.mem_ofPred_eq, Function.update_self]
          exact iff_of_true (Option.some_ne_none _) found
        · rw [Set.mem_ofPred_eq, Function.update_of_ne own]
          rfl
      · rw [same, unchanged, flag, Function.update_self, Bool.and_eq_true, decide_eq_true_iff]
        constructor
        · rintro ⟨rfl, success⟩
          exact ⟨_, rfl, info, rfl, by omega, by omega⟩
        · rintro ⟨-, ⟨⟩, read, ⟨⟩, atLeast, below⟩
          exact ⟨rfl, by omega⟩

theorem step (sound : endpoint.Sound) (possible : endpoint.Possible input) :
    (endpoint.step build input).Sound := by
  obtain ⟨line, outcomes, rfl⟩ | ⟨accId, renew, info, rfl⟩ | callback := input.kinds
  · obtain same | ⟨fn, params, status, -, command⟩ :=
      Daemon.dispatchLine_cases build outcomes endpoint.sip.daemon line
    · refine sound.kept ?_ fun _ => rfl
      rw [Sip.step, same]
      exact Daemon.Speaks.refl _ _
    · obtain speaks | ⟨unconfigured, asked, config, accId, added, speaks, leaves⟩ | ⟨-, leaves⟩ :=
        command.account_cases sound.unregistered
      · exact sound.kept speaks fun _ => rfl
      · exact sound.configured unconfigured (possible accId added).1 speaks leaves
      · exact sound.removed leaves
  · exact sound.heard possible
  · refine sound.kept ?_ (heard_callback callback)
    exact (Sip.step_speaks callback).mono fun _ => Action.OfCallback.keepsAccounts

/-- New calls and messages go out only as the registered account. -/
theorem sends (sound : endpoint.Sound) (action : Action)
    (member : action ∈ endpoint.sip.requests build input) : endpoint.Sends action := by
  have own (accId : AccId) (named : accId = endpoint.sip.daemon.accId)
      (registered : endpoint.sip.daemon.registered = true) :
      accId = endpoint.sip.daemon.accId ∧
        ∃ account, endpoint.accounts accId = some account ∧ account.Confirmed := by
    subst named
    exact ⟨rfl, sound.registered.mp registered⟩
  cases Sip.requests_asks member with
  | command runs ofCommand =>
      cases ofCommand with
      | plain isPlain =>
          cases action with
          | imSend accId | imTyping accId => exact own accId isPlain.1 isPlain.2.2
          | makeCall => exact isPlain.elim
          | _ => trivial
      | dials account registered => exact own endpoint.sip.daemon.accId rfl registered
      | _ => trivial
  | account | registration => trivial
  | callback _ ofCallback =>
      obtain ⟨event, rfl⟩ | ⟨callId, -, about | rfl⟩ := ofCallback
      · trivial
      · cases action with
        | makeCall | imSend | imTyping => exact about.elim
        | _ => trivial
      · trivial

theorem guarded (sound : endpoint.Sound) : endpoint.Guarded build input := by
  refine ⟨?_, ?_, sound.sends⟩
  · rintro line outcomes rfl succeeded
    obtain ⟨params, -, success⟩ := Daemon.dispatchLine_succeeded succeeded
    rw [sound.present, if_pos (Daemon.cmdAccountConfigure_success build.calls success)]
  · rintro line outcomes rfl succeeded
    obtain ⟨params, -, success⟩ := Daemon.dispatchLine_succeeded succeeded
    obtain ⟨account, unregistered⟩ := Daemon.cmdAccountRemove_success success
    obtain ⟨found, isFound⟩ :=
      Option.ne_none_iff_exists'.mp ((sound.account_iff _).mpr ⟨account, rfl⟩)
    refine ⟨found, isFound, fun confirmed => ?_⟩
    have registered := sound.registered.mpr ⟨found, isFound, confirmed⟩
    rw [unregistered] at registered
    cases registered

end Sound

/-- In every run in which pjsua keeps its promises, after every step the daemon's id and flag
say what pjsua's accounts are and whether the account is registered, and every step is
guarded in those terms. -/
theorem account_lifecycle (build : Build) (inputs : List SipInput)
    (possible : Machine.Along (Endpoint.step build) Possible start inputs) :
    (∀ before after, inputs = before ++ after → (run build start before).Sound) ∧
    Machine.Along (Endpoint.step build) (Guarded build) start inputs := by
  constructor
  · rintro before after rfl
    refine Machine.invariant_run (fun _ _ sound => sound.step) Sound.start ?_
    exact (Machine.along_append.mp possible).1
  · exact Machine.along_of_invariant (fun _ _ sound => sound.step)
      (fun _ _ sound _ => sound.guarded) Sound.start possible

/-- The line of `account.configure` in a concrete run. -/
def configureLine : Bytes :=
  requestLine "account.configure"
    ("\"sip_uri\":\"sip:a@b\",\"registrar_uri\":\"sip:b\"," ++
      "\"username\":\"a\",\"password\":\"p\"")

/-- What is parsed from it. -/
def configureRequest : JsonElem :=
  request "account.configure"
    [addString "sip_uri" (ascii "sip:a@b"), addString "registrar_uri" (ascii "sip:b"),
      addString "username" (ascii "a"), addString "password" (ascii "p")]

/-- A build that parses it. -/
def configuringBuild : Build :=
  sampleBuild [(configureLine, request "account.configure"
    [addString "sip_uri" (ascii "sip:a@b"), addString "registrar_uri" (ascii "sip:b"),
      addString "username" (ascii "a"), addString "password" (ascii "p")])]

/-- An account is configured and its REGISTER is answered with 200. -/
def registeringRun : List SipInput :=
  [.line configureLine .sample, .regState2 0 true (.ok ⟨0, 200, ascii "OK"⟩)]

theorem registeringRun_registered :
    Machine.Along (Endpoint.step configuringBuild) Possible start registeringRun ∧
    (run configuringBuild start registeringRun).Sound ∧
    (run configuringBuild start registeringRun).sip.daemon.registered = true := by
  have configured : (Endpoint.step configuringBuild start (.line configureLine .sample)).accounts 0
      = some ⟨none⟩ := rfl
  have possible : Machine.Along (Endpoint.step configuringBuild) Possible start registeringRun := by
    refine ⟨?_, ?_, trivial⟩
    · rintro accId ⟨⟩
      exact ⟨by decide, rfl⟩
    · intro missing
      rw [configured] at missing
      cases missing
  refine ⟨possible, ?_, rfl⟩
  exact (account_lifecycle configuringBuild registeringRun possible).1 registeringRun [] rfl

end Endpoint
end Pjsocky
