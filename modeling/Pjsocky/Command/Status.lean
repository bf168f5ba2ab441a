import Mathlib.Tactic.Ring
import Pjsocky.Account.Lifecycle

/-!
# What `status.get` says

The answer of `status.get` is put together from three globals. Over every run of the SIP side
the flag stands for the account's last registration outcome, so the answer agrees with itself
as long as a call is tracked only while there is an account. Two steps can break that: an
account that is deleted under a call, and a call that comes in without one. In both the answer
is "idle" with the id of a call.
-/

namespace Pjsocky

open Support

/-- Only -1 is shown as -1: a larger number stays even when it is rounded. -/
theorem toFloat_eq_neg_one {value : Int} : toFloat value = -1 ↔ value = -1 := by
  unfold toFloat
  dsimp only
  split
  · norm_cast
  · rename_i large
    have distinct : value ≠ -1 := by
      rintro rfl
      exact large (by decide)
    refine iff_of_false (fun same => ?_) distinct
    have power : 24 ≤ value.natAbs.log2 := by
      rw [Nat.le_log2 (by omega)]
      omega
    obtain ⟨half, isHalf⟩ : ∃ half, 2 ^ (value.natAbs.log2 - 23) = 2 * half := by
      refine ⟨2 ^ (value.natAbs.log2 - 24), ?_⟩
      rw [← Nat.pow_succ']
      congr 1
      omega
    rw [isHalf] at same
    generalize (if 2 * (value.natAbs % (2 * half)) < 2 * half then _ else _ : Nat) = rounded
      at same
    have integral : value.sign * ((rounded * (2 * half) : Nat) : Int) = -1 := by
      exact_mod_cast same
    have even : (2 : Int) ∣ -1 := by
      rw [← integral]
      refine Dvd.dvd.mul_left ?_ _
      exact ⟨rounded * half, by push_cast; ring⟩
    exact absurd even (by decide)

namespace Endpoint

variable {build : Build} {endpoint : Endpoint} {input : SipInput}

/-- What `status.get` says agrees with itself and with pjsua's account. -/
structure Consistent (endpoint : Endpoint) (state accId callId : Option JsonElem) : Prop where
  inCall : state = some (.str (ascii "in_call")) ↔ callId ≠ some (.num (-1))
  idle : state = some (.str (ascii "idle")) ↔
    accId = some (.num (-1)) ∧ callId = some (.num (-1))
  registered : state = some (.str (ascii "registered")) →
    accId ≠ some (.num (-1)) ∧ callId = some (.num (-1)) ∧
      ∃ account, endpoint.accounts endpoint.sip.daemon.accId = some account ∧ account.Confirmed

/-- Whatever pjsua reads of the account, a `status.get` that succeeds is consistent. -/
def StatusConsistent (endpoint : Endpoint) : Prop :=
  ∀ outcomes, let reply := (endpoint.sip.daemon.cmdStatusGet outcomes).1
    reply.status = .success →
    let member := jsonFind (.obj reply.result)
    endpoint.Consistent (member "state") (member "acc_id") (member "call_id")

/-- A call is tracked only while there is an account. -/
def CallHasAccount (endpoint : Endpoint) : Prop :=
  endpoint.sip.daemon.accId = invalidId → endpoint.sip.daemon.callId = invalidId

/-- The account is not deleted while a call is tracked, and no call comes in without one. -/
def KeepsAccount (build : Build) (endpoint : Endpoint) : SipInput → Prop
  | .line line outcomes => ∀ params,
      Daemon.executed build line = some (.accountRemove, params) →
      endpoint.sip.daemon.accId ≠ invalidId → endpoint.sip.daemon.registered = false →
      outcomes.status = .success → endpoint.sip.daemon.callId = invalidId
  | .incomingCall callId _ => endpoint.sip.daemon.accId = invalidId → callId = invalidId
  | _ => True

/-! ## One answer -/

theorem num_eq_neg_one {value : Int} :
    some (Json.num (toFloat value)) = some (.num (-1)) ↔ value = invalidId := by
  rw [Option.some_inj, Json.num.injEq, toFloat_eq_neg_one]
  rfl

theorem str_eq {first second : Bytes} :
    some (Json.str first : JsonElem) = some (.str second) ↔ first = second := by
  rw [Option.some_inj, Json.str.injEq]

/-- Without an account the answer is "idle", with whatever call is tracked. -/
theorem statusConsistent_unconfigured (unconfigured : endpoint.sip.daemon.accId = invalidId) :
    endpoint.StatusConsistent ↔ endpoint.sip.daemon.callId = invalidId := by
  have answer (outcomes : Outcomes) : endpoint.sip.daemon.cmdStatusGet outcomes =
      (.reply _ (statusMembers_named (ascii "idle") (-1) 0 endpoint.sip.daemon.callId),
        endpoint.sip.daemon) := if_pos unconfigured
  constructor
  · intro consistent
    have reply := consistent .sample
    rw [answer] at reply
    exact num_eq_neg_one.mp ((reply rfl).idle.mp rfl).2
  · intro untracked outcomes
    rw [answer]
    intro reply success
    refine ⟨?_, ?_, ?_⟩
    · refine iff_of_false (fun same => ?_) (not_not.mpr (num_eq_neg_one.mpr untracked))
      exact absurd (str_eq.mp same) (by decide)
    · exact iff_of_true rfl ⟨num_eq_neg_one.mpr rfl, num_eq_neg_one.mpr untracked⟩
    · intro same
      exact absurd (str_eq.mp same) (by decide)

/-- The state of an account without a call. -/
theorem registration_state (registered : Bool) :
    let state := if registered then ascii "registered" else ascii "registering"
    state ≠ ascii "in_call" ∧ state ≠ ascii "idle" ∧
      (state = ascii "registered" → registered = true) := by
  cases registered with
  | false => decide
  | true => decide

/-- With an account the answer is consistent. -/
theorem Sound.statusConsistent (sound : endpoint.Sound)
    (account : endpoint.sip.daemon.accId ≠ invalidId) : endpoint.StatusConsistent := by
  intro outcomes
  unfold Daemon.cmdStatusGet
  rw [if_neg account]
  cases outcomes.accInfo with
  | error status =>
      intro reply success
      exact (status.2 success).elim
  | ok info =>
      intro reply success member
      have shown : member "acc_id" ≠ some (.num (-1)) :=
        num_eq_neg_one.not.mpr account
      by_cases tracked : endpoint.sip.daemon.callId = invalidId
      · have state : member "state" =
            some (.str (if endpoint.sip.daemon.registered then ascii "registered"
              else ascii "registering")) :=
          congrArg (fun text => some (Json.str text)) (if_neg (not_not.mpr tracked))
        have absent : member "call_id" = some (.num (-1)) :=
          num_eq_neg_one.mpr tracked
        obtain ⟨notInCall, notIdle, registered⟩ :=
          registration_state endpoint.sip.daemon.registered
        rw [state, absent]
        refine ⟨?_, ?_, fun isRegistered => ?_⟩
        · exact iff_of_false (fun same => notInCall (str_eq.mp same)) (not_not.mpr rfl)
        · exact iff_of_false (fun same => notIdle (str_eq.mp same)) fun both => shown both.1
        · have isUp := registered (str_eq.mp isRegistered)
          exact ⟨shown, rfl, sound.registered.mp isUp⟩
      · have state : member "state" = some (.str (ascii "in_call")) :=
          congrArg (fun text => some (Json.str text)) (if_pos tracked)
        have present : member "call_id" ≠ some (.num (-1)) :=
          num_eq_neg_one.not.mpr tracked
        rw [state]
        refine ⟨iff_of_true rfl present, ?_, fun isRegistered => ?_⟩
        · refine iff_of_false (fun same => ?_) fun both => shown both.1
          exact absurd (str_eq.mp same) (by decide)
        · exact absurd (str_eq.mp isRegistered) (by decide)

/-- So all that can go wrong is a call without an account. -/
theorem Sound.statusConsistent_iff (sound : endpoint.Sound) :
    endpoint.StatusConsistent ↔ endpoint.CallHasAccount := by
  by_cases account : endpoint.sip.daemon.accId = invalidId
  · rw [statusConsistent_unconfigured account, CallHasAccount]
    exact ⟨fun untracked _ => untracked, fun untracked => untracked account⟩
  · exact iff_of_true (sound.statusConsistent account) fun none => (account none).elim

/-! ## One step -/

/-- `account.remove` deletes an account that is not registered when pjsua lets it, and changes
nothing else. -/
theorem cmdAccountRemove_cases (outcomes : Outcomes) (daemon : Daemon) :
    let after := (daemon.cmdAccountRemove outcomes).2
    after.callId = daemon.callId ∧
      if daemon.accId ≠ invalidId ∧ daemon.registered = false ∧ outcomes.status = .success then
        after.accId = invalidId
      else after.accId = daemon.accId := by
  unfold Daemon.cmdAccountRemove Daemon.accountRemove Daemon.bareCmd
  by_cases account : daemon.accId = invalidId
  · simp [account]
  · cases registered : daemon.registered with
    | true => simp [account]
    | false =>
        by_cases deleted : outcomes.status = .success
        · simp [account, deleted, Daemon.record]
        · simp [account, deleted, Daemon.record]

/-- Every other command keeps a call's account. -/
theorem CallHasAccount.command {outcomes : Outcomes} {params : Option JsonElem} {fn : CmdFn}
    {status : Status} {before after : Daemon}
    (holds : before.accId = invalidId → before.callId = invalidId)
    (isId : ∀ accId, outcomes.accAdd = .ok accId → accId ≠ invalidId)
    (step : CmdStep build outcomes params before fn status after) (other : fn ≠ .accountRemove) :
    after.accId = invalidId → after.callId = invalidId := by
  cases step with
  | plain logs | notConfigured _ logs | selected _ logs =>
      obtain ⟨added, rfl, -⟩ := logs
      exact holds
  | configured _ added _ =>
      intro unconfigured
      exact (isId _ added unconfigured).elim
  | removed => exact (other rfl).elim
  | dialled _ _ _ account =>
      intro unconfigured
      exact (account unconfigured).elim
  | limited | hangsUp | hangsUpAll => exact holds
  | answers _ _ logs =>
      obtain ⟨added, rfl, -⟩ := logs
      exact holds

/-- A line keeps a call's account exactly when it does not delete it under the call. -/
theorem callHasAccount_line_iff {line : Bytes} {outcomes : Outcomes}
    (holds : endpoint.CallHasAccount) (possible : endpoint.Possible (.line line outcomes)) :
    (endpoint.step build (.line line outcomes)).CallHasAccount ↔
      endpoint.KeepsAccount build (.line line outcomes) := by
  have leaves : (endpoint.step build (.line line outcomes)).sip.daemon =
      (endpoint.sip.daemon.dispatchLine build outcomes line).2 := rfl
  rw [CallHasAccount, leaves]
  cases runs : Daemon.executed build line with
  | none =>
      rw [Daemon.dispatchLine_unexecuted runs]
      refine iff_of_true holds fun params impossible => ?_
      rw [runs] at impossible
      cases impossible
  | some command =>
      obtain ⟨fn, params⟩ := command
      obtain ⟨id, same⟩ := Daemon.dispatchLine_executed outcomes endpoint.sip.daemon runs
      rw [same]
      by_cases removes : fn = .accountRemove
      · subst removes
        obtain ⟨tracked, deletes⟩ := cmdAccountRemove_cases outcomes endpoint.sip.daemon
        rw [Daemon.runCmd, tracked]
        split at deletes
        · rename_i deleted
          constructor
          · intro after _ _ _ _ _
            exact after deletes
          · intro keeps _
            exact keeps params runs deleted.1 deleted.2.1 deleted.2.2
        · rename_i kept
          rw [deletes]
          refine iff_of_true holds fun _ _ account unregistered deleted => ?_
          exact (kept ⟨account, unregistered, deleted⟩).elim
      · have step := Daemon.runCmd_step build outcomes params endpoint.sip.daemon fn
        refine iff_of_true (CallHasAccount.command holds (fun accId added =>
          (possible accId added).1) step removes) fun others impossible => ?_
        rw [runs] at impossible
        exact (removes (congrArg Prod.fst (Option.some.inj impossible))).elim

/-- A callback other than `on_incoming_call` tracks no other call. -/
theorem step_callId (callback : input.IsCallback)
    (notIncoming : ∀ callId answers, input ≠ .incomingCall callId answers) (sip : Sip) :
    (sip.step build input).daemon.callId = sip.daemon.callId ∨
      (sip.step build input).daemon.callId = invalidId := by
  cases input with
  | line | regState2 => exact callback.elim
  | incomingCall callId answers => exact (notIncoming callId answers rfl).elim
  | callState callId answers =>
      by_cases goesOn : ∀ info, answers.info 0 = .ok info → info.state ≠ .disconnected
      · exact .inl (Daemon.onCallState_keeps callId goesOn).tracked
      · simp only [not_forall, not_not] at goesOn
        obtain ⟨info, read, ended⟩ := goesOn
        have tracked := @Daemon.onCallState_ended_tracked sip.daemon answers info callId read ended
        split at tracked
        · exact .inr tracked
        · exact .inl tracked
  | callMediaState callId answers =>
      exact .inl (Daemon.onCallMediaState_keeps answers callId sip.daemon).tracked
  | callMediaEvent callId medIdx event =>
      exact .inl (Daemon.onCallMediaEvent_tracked callId medIdx event sip.daemon)
  | callRxOffer | pager2 | pagerStatus2 | typing2 | dequeue => exact .inl rfl
  | fire answers =>
      obtain ⟨daemon, pending⟩ := sip
      cases pending with
      | none => exact .inl rfl
      | some name =>
          cases name with
          | ring => exact .inl (Daemon.ringTimerCb_keeps answers daemon).tracked
          | watchdog => exact .inl (Daemon.videoWatchdogCb_tracked build.calls answers daemon)
          | report => exact .inl (Daemon.mediaReportCb_keeps build.calls answers daemon).tracked

/-- One step keeps a call's account exactly when it neither deletes it under the call nor brings
a call without one. -/
theorem callHasAccount_step_iff (holds : endpoint.CallHasAccount)
    (possible : endpoint.Possible input) :
    (endpoint.step build input).CallHasAccount ↔ endpoint.KeepsAccount build input := by
  obtain ⟨line, outcomes, rfl⟩ | ⟨accId, renew, info, rfl⟩ | callback := input.kinds
  · exact callHasAccount_line_iff holds possible
  · refine iff_of_true ?_ trivial
    cases info with
    | error status => exact holds
    | ok info => exact holds
  · have account : (endpoint.step build input).sip.daemon.accId = endpoint.sip.daemon.accId :=
      (Sip.step_speaks callback).accId
    rw [CallHasAccount, account]
    by_cases incoming : ∃ callId answers, input = .incomingCall callId answers
    · obtain ⟨callId, answers, rfl⟩ := incoming
      have tracked : (endpoint.step build (.incomingCall callId answers)).sip.daemon.callId =
          callId := (Daemon.onIncomingCall_keeps answers callId endpoint.sip.daemon).tracked
      rw [tracked]
      exact Iff.rfl
    · have keeps : endpoint.KeepsAccount build input := by
        cases input with
        | line => exact callback.elim
        | incomingCall callId answers => exact (incoming ⟨callId, answers, rfl⟩).elim
        | _ => trivial
      refine iff_of_true (fun unconfigured => ?_) keeps
      obtain same | ended := @step_callId build input callback
        (fun callId answers same => incoming ⟨callId, answers, same⟩) endpoint.sip
      · exact same.trans (holds unconfigured)
      · exact ended

/-- In every run in which pjsua keeps its promises, `status.get` is consistent in every state
exactly when no account is deleted while a call is tracked and no call comes in without an
account. -/
theorem status_consistent_iff (build : Build) (inputs : List SipInput)
    (possible : Machine.Along (Endpoint.step build) Possible start inputs) :
    (∀ before after, inputs = before ++ after → (run build start before).StatusConsistent) ↔
      Machine.Along (Endpoint.step build) (KeepsAccount build) start inputs := by
  have startHolds : start.CallHasAccount := fun _ => rfl
  rw [← Machine.invariant_iff_along (fun _ _ => callHasAccount_step_iff) startHolds possible]
  refine forall_congr' fun before => forall_congr' fun after => imp_congr_right fun same => ?_
  have sound : (run build start before).Sound := by
    rw [same] at possible
    exact Machine.invariant_run (fun _ _ sound => sound.step) Sound.start
      (Machine.along_append.mp possible).1
  exact sound.statusConsistent_iff

/-- An account is configured and a call comes in for it. -/
def calledRun : List SipInput :=
  [.line configureLine .sample, .incomingCall 0 (.sample 0 .incoming [])]

theorem calledRun_consistent :
    Machine.Along (Endpoint.step configuringBuild) Possible start calledRun ∧
    (run configuringBuild start calledRun).sip.daemon.callId = 0 ∧
    (run configuringBuild start calledRun).StatusConsistent := by
  have possible : Machine.Along (Endpoint.step configuringBuild) Possible start calledRun := by
    refine ⟨?_, trivial, trivial⟩
    rintro accId ⟨⟩
    exact ⟨by decide, rfl⟩
  have keeps : Machine.Along (Endpoint.step configuringBuild) (KeepsAccount configuringBuild)
      start calledRun := by
    refine ⟨?_, ?_, trivial⟩
    · rintro params ⟨⟩
    · intro unconfigured
      cases unconfigured
  exact ⟨possible, rfl,
    (status_consistent_iff configuringBuild calledRun possible).mpr keeps calledRun [] rfl⟩

def removeLine : Bytes := requestLine "account.remove" ""

def removingBuild : Build :=
  sampleBuild [(configureLine, configureRequest), (removeLine, request "account.remove" [])]

/-- The account is removed while its call rings. -/
def removedRun : List SipInput :=
  calledRun ++ [.line removeLine { Outcomes.sample with accAdd := .error sampleFailure }]

/-- `status.get` says "idle", with the id of the call. -/
theorem removedRun_inconsistent :
    Machine.Along (Endpoint.step removingBuild) Possible start removedRun ∧
    ((run removingBuild start removedRun).sip.daemon.cmdStatusGet .sample).1.result =
      statusMembers (ascii "idle") (-1) 0 0 ∧
    ¬(run removingBuild start removedRun).StatusConsistent := by
  have possible : Machine.Along (Endpoint.step removingBuild) Possible start removedRun := by
    refine ⟨?_, trivial, ?_, trivial⟩
    · rintro accId ⟨⟩
      exact ⟨by decide, rfl⟩
    · rintro accId ⟨⟩
  refine ⟨possible, rfl, fun consistent => ?_⟩
  have untracked := (statusConsistent_unconfigured rfl).mp consistent
  exact absurd untracked (by decide)

end Endpoint
end Pjsocky
