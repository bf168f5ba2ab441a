import Pjsocky.Call.Frame

/-!
# The tracked call

`g_call_id` is one variable for any number of calls. It is coherent with the live calls
as long as no call ends, and no dial fails, in a way that clears it while another call
is up: `Benign` says so of one step, and `tracked_iff_benign` that this is exact.
-/

namespace Pjsocky

open Support

namespace Phone

/-- No call is live. -/
def Idle (phone : Phone) : Prop := ∀ callId, ¬phone.Live callId

/-- `g_call_id` is `PJSUA_INVALID_ID` just when no call is live, and names a live call
otherwise. -/
structure Coherent (phone : Phone) : Prop where
  invalid_iff : phone.daemon.callId = invalidId ↔ phone.Idle
  names_live : phone.daemon.callId ≠ invalidId → phone.Live phone.daemon.callId

/-- `call.hangup_all` succeeds without asking pjsua anything. -/
def HangupAllSilent (phone : Phone) : Prop :=
  ∀ status, phone.daemon.hangupAll status = (.success, phone.daemon)

/-- pjsua lets `on_call_state` read the call's info. -/
def Readable (_ : Phone) : CallInput → Prop
  | .callState _ _ answers => ∃ info, answers.info 0 = .ok info
  | _ => True

/-- A dial that pjsua fails finds no live call, and a call that ends while it is tracked
is the only live one. -/
def Benign (phone : Phone) : CallInput → Prop
  | .dial _ _ (.failed _ _) =>
      phone.daemon.accId ≠ invalidId → phone.daemon.registered = true → phone.Idle
  | .callState callId .disconnected _ =>
      callId = phone.daemon.callId → ∀ other, phone.Live other → other = callId
  | _ => True

variable {lib : CallLib} {phone : Phone} {callId : CallId}

theorem hangupAllSilent_iff : phone.HangupAllSilent ↔ phone.daemon.callId = invalidId := by
  constructor
  · intro silent
    by_contra tracked
    have asked := congrArg (fun result => result.2.log.length) (silent .success)
    simp [Daemon.hangupAll, tracked] at asked
  · intro untracked status
    rw [Daemon.hangupAll, if_pos untracked]

/-- What only the tracked call and the live calls decide. -/
theorem Coherent.of_eq {after : Phone} (coherent : phone.Coherent)
    (tracked : after.daemon.callId = phone.daemon.callId)
    (live : ∀ callId, after.Live callId ↔ phone.Live callId) : after.Coherent where
  invalid_iff := by
    rw [tracked, coherent.invalid_iff]
    exact forall_congr' fun callId => not_congr (live callId).symm
  names_live named := by
    rw [tracked] at named ⊢
    exact (live _).mpr (coherent.names_live named)

theorem live_moveTo {state : InvState} {daemon : Daemon} {other : CallId} :
    Live ⟨daemon, phone.moveTo callId state⟩ other ↔
      phone.Live other ∧ (state = .disconnected → other ≠ callId) := by
  by_cases same : other = callId
  · subst same
    by_cases ended : state = .disconnected
    · simp [Live, moveTo, ended]
    · simp [Live, moveTo, ended]
  · simp [Live, moveTo, same]

theorem live_report {media : List CallMedia} {daemon : Daemon} {other : CallId} :
    Live ⟨daemon, phone.report callId media⟩ other ↔ phone.Live other := by
  by_cases same : other = callId
  · subst same
    simp [Live, report]
  · simp [Live, report, same]

theorem Fresh.ne_invalid (fresh : phone.Fresh lib callId) : callId ≠ invalidId := by
  have valid := fresh.1
  simp only [CallLib.isValidCallId, decide_eq_true_eq] at valid
  rintro rfl
  exact absurd valid.1 (by decide)

/-- A new call that is tracked makes the state coherent. -/
theorem coherent_create {after : Phone} {state : InvState} (fresh : phone.Fresh lib callId)
    (tracked : after.daemon.callId = callId) (calls : after.calls = phone.create callId state) :
    after.Coherent := by
  have live : after.Live callId := by
    rw [Live, calls, create, Function.update_self]
    exact Option.some_ne_none _
  refine ⟨⟨fun invalid => ?_, fun idle => absurd live (idle callId)⟩, fun _ => tracked.symm ▸ live⟩
  exact absurd (tracked.symm.trans invalid) fresh.ne_invalid

/-- A dial keeps coherence just when it creates a call, or changes nothing, or finds no
live call. -/
theorem coherent_dial_iff {uri : Bytes} {video : Bool} {outcome : MakeCallOutcome}
    (coherent : phone.Coherent) (possible : phone.Possible lib (.dial uri video outcome)) :
    (phone.step lib (.dial uri video outcome)).Coherent ↔
      phone.Benign (.dial uri video outcome) := by
  rcases phone.step_dial_cases uri video outcome with
    ⟨refused, unchanged⟩ | ⟨account, registered, ⟨callId, rfl, calls, keeps⟩ |
      ⟨status, written, rfl, calls, keeps⟩⟩
  · rw [unchanged]
    cases outcome with
    | created callId => exact iff_of_true coherent trivial
    | failed status written =>
        refine iff_of_true coherent fun account registered => ?_
        rcases refused with none | unregistered
        · exact absurd none account
        · exact Bool.noConfusion (registered.symm.trans unregistered)
  · exact iff_of_true (coherent_create possible keeps.tracked calls) trivial
  · have live : ∀ other, (phone.step lib (.dial uri video (.failed status written))).Live other ↔
        phone.Live other := fun other => by rw [Live, calls, Live]
    constructor
    · intro after _ _ other otherLive
      exact after.invalid_iff.mp keeps.tracked other ((live other).mpr otherLive)
    · intro benign
      have idle : phone.Idle := benign account registered
      refine ⟨⟨fun _ other => ?_, fun _ => keeps.tracked⟩, fun named => absurd keeps.tracked named⟩
      exact (not_congr (live other)).mpr (idle other)

/-- A call that ends keeps coherence just when it is not the tracked one or is the only
one. -/
theorem coherent_ended_iff {answers : Answers} (coherent : phone.Coherent)
    (live : phone.Live callId) {info : CallInfo} (read : answers.info 0 = .ok info)
    (ended : info.state = .disconnected) :
    (phone.step lib (.callState callId .disconnected answers)).Coherent ↔
      phone.Benign (.callState callId .disconnected answers) := by
  have tracked : (phone.daemon.onCallState answers callId).callId =
      if callId = phone.daemon.callId then invalidId else phone.daemon.callId :=
    Daemon.onCallState_ended_tracked callId read ended
  by_cases isTracked : callId = phone.daemon.callId
  · rw [if_pos isTracked] at tracked
    constructor
    · intro after _ other otherLive
      by_contra different
      exact after.invalid_iff.mp tracked other (live_moveTo.mpr ⟨otherLive, fun _ => different⟩)
    · intro only
      have idle : (phone.step lib (.callState callId .disconnected answers)).Idle := by
        intro other otherLive
        obtain ⟨otherLive, different⟩ := live_moveTo.mp otherLive
        exact different rfl (only isTracked other otherLive)
      exact ⟨⟨fun _ => idle, fun _ => tracked⟩, fun named => absurd tracked named⟩
  · rw [if_neg isTracked] at tracked
    refine iff_of_true ?_ fun same => absurd same isTracked
    -- The ended call was live, so the tracked one is, and it is another.
    have named : phone.daemon.callId ≠ invalidId := fun invalid =>
      coherent.invalid_iff.mp invalid callId live
    have stillLive : (phone.step lib (.callState callId .disconnected answers)).Live
        phone.daemon.callId :=
      live_moveTo.mpr ⟨coherent.names_live named, fun _ => Ne.symm isTracked⟩
    refine ⟨⟨fun invalid => absurd (tracked.symm.trans invalid) named, fun idle => ?_⟩, fun _ => ?_⟩
    · exact absurd stillLive (idle _)
    · exact tracked.symm ▸ stillLive

theorem Coherent.quiet {input : CallInput} (coherent : phone.Coherent) (quiet : Quiet input) :
    (phone.step lib input).Coherent := by
  obtain ⟨calls, keeps⟩ := @step_quiet lib phone input quiet
  exact coherent.of_eq keeps.tracked fun callId => by rw [Live, calls, Live]

/-- One step keeps coherence just when it is benign. -/
theorem coherent_step_iff (input : CallInput) (coherent : phone.Coherent)
    (possible : phone.Possible lib input ∧ phone.Readable input) :
    (phone.step lib input).Coherent ↔ phone.Benign input := by
  obtain ⟨possible, readable⟩ := possible
  cases input with
  | dial uri video outcome => exact coherent_dial_iff coherent possible
  | answer | hangup | hangupAll | setRingTimeout | account | captureDevice | callRxOffer =>
      exact iff_of_true (coherent.quiet trivial) trivial
  | incomingCall callId answers =>
      have keeps := Daemon.onIncomingCall_keeps answers callId phone.daemon
      exact iff_of_true (coherent_create possible keeps.tracked rfl) trivial
  | callState callId state answers =>
      obtain ⟨call, live, tells⟩ := possible
      obtain ⟨info, read⟩ := readable
      have reported : info.state = state := (tells.agrees read).1
      by_cases ended : state = .disconnected
      · subst ended
        exact coherent_ended_iff coherent (live_of_some live) read reported
      · have benign : phone.Benign (.callState callId state answers) := by
          cases state <;> first | exact trivial | exact absurd rfl ended
        refine iff_of_true (coherent.of_eq ?_ fun other => ?_) benign
        · refine (Daemon.onCallState_keeps callId fun again reread => ?_).tracked
          rw [Except.ok.inj (reread.symm.trans read), reported]
          exact ended
        · rw [step, live_moveTo]
          exact and_iff_left fun isEnded => absurd isEnded ended
  | callMediaState callId media answers =>
      refine iff_of_true (coherent.of_eq ?_ fun other => live_report) trivial
      exact (Daemon.onCallMediaState_keeps answers callId phone.daemon).tracked
  | callMediaEvent callId medIdx event =>
      refine iff_of_true (coherent.of_eq ?_ fun _ => Iff.rfl) trivial
      exact Daemon.onCallMediaEvent_tracked callId medIdx event phone.daemon
  | expires name answers =>
      cases name with
      | ring | report => exact iff_of_true (coherent.quiet trivial) trivial
      | watchdog =>
          refine iff_of_true (coherent.of_eq ?_ fun _ => Iff.rfl) trivial
          exact Daemon.videoWatchdogCb_tracked lib answers _

theorem start_coherent : Phone.start.Coherent where
  invalid_iff := ⟨fun _ _ live => live rfl, fun _ => rfl⟩
  names_live named := absurd rfl named

/-- Along a run the tracked call is coherent with the live calls in every state, and
`call.hangup_all` silent only with nothing to hang up, exactly when every step of the
run is benign. -/
theorem tracked_iff_benign (lib : CallLib) (inputs : List CallInput)
    (possible : Machine.Along (step lib)
      (fun phone input => phone.Possible lib input ∧ phone.Readable input) start inputs) :
    (∀ before after, inputs = before ++ after →
      (run lib start before).Coherent ∧
        ((run lib start before).HangupAllSilent → (run lib start before).Idle)) ↔
      Machine.Along (step lib) Benign start inputs := by
  rw [← Machine.invariant_iff_along (fun phone input coherent possible =>
    coherent_step_iff input coherent possible) start_coherent possible]
  refine forall_congr' fun before => forall_congr' fun after => imp_congr_right fun _ => ?_
  refine and_iff_left_of_imp fun coherent silent => ?_
  exact coherent.invalid_iff.mp (hangupAllSilent_iff.mp silent)

/-- Call 0 rings, call 1 rings too, then call 0 is cancelled and then call 1. -/
def overlappingCalls : List CallInput :=
  [.incomingCall 0 (.sample 0 .incoming []), .incomingCall 1 (.sample 1 .incoming []),
    .callState 0 .disconnected (.sample 0 .disconnected []),
    .callState 1 .disconnected (.sample 1 .disconnected [])]

/-- Call 0 rings, call 1 rings too and is cancelled. -/
def secondCall : List CallInput :=
  [.incomingCall 0 (.sample 0 .incoming []), .incomingCall 1 (.sample 1 .incoming []),
    .callState 1 .disconnected (.sample 1 .disconnected [])]

/-- The second call stays tracked when the first ends, and is forgotten when it ends
itself. -/
theorem tracked_overlappingCalls :
    (run sampleCallLib start (overlappingCalls.take 3)).Coherent ∧
      (run sampleCallLib start overlappingCalls).Coherent := by
  have tracked := (tracked_iff_benign sampleCallLib overlappingCalls ?_).mpr ?_
  · exact ⟨(tracked _ (overlappingCalls.drop 3) rfl).1, (tracked overlappingCalls [] rfl).1⟩
  · refine ⟨⟨⟨rfl, by decide⟩, trivial⟩, ⟨⟨rfl, by decide⟩, trivial⟩, ⟨?_, _, rfl⟩, ⟨?_, _, rfl⟩,
      trivial⟩
    · exact ⟨_, rfl, Answers.sample_tell _ _ _ ⟨rfl, nofun⟩⟩
    · exact ⟨_, rfl, Answers.sample_tell _ _ _ ⟨rfl, nofun⟩⟩
  · refine ⟨trivial, trivial, fun isTracked => absurd isTracked (by decide), ?_, trivial⟩
    -- Call 0 has ended and no other was made, so nothing but call 1 can be live.
    intro _ other live
    by_contra different
    by_cases first : other = 0
    · exact live (by rw [first]; decide)
    · have made : (run sampleCallLib start (overlappingCalls.take 2)).calls other = none :=
        (Function.update_of_ne different _ _).trans (Function.update_of_ne first _ _)
      exact live ((Function.update_of_ne first _ _).trans made)

/-- When the second call ends, the daemon holds that no call is up, though the first still
rings: `call.hangup_all` then does nothing. -/
theorem secondCall_untracks :
    Machine.Along (step sampleCallLib)
      (fun phone input => phone.Possible sampleCallLib input ∧ phone.Readable input) start
      secondCall ∧
    (run sampleCallLib start secondCall).daemon.callId = invalidId ∧
    (run sampleCallLib start secondCall).Live 0 ∧
    ¬(run sampleCallLib start secondCall).Coherent ∧
    (run sampleCallLib start secondCall).HangupAllSilent := by
  have untracked : (run sampleCallLib start secondCall).daemon.callId = invalidId := by decide
  have live : (run sampleCallLib start secondCall).Live 0 := by decide
  refine ⟨⟨⟨⟨rfl, by decide⟩, trivial⟩, ⟨⟨rfl, by decide⟩, trivial⟩, ?_, trivial⟩, untracked, live,
    fun coherent => coherent.invalid_iff.mp untracked 0 live, hangupAllSilent_iff.mpr untracked⟩
  exact ⟨⟨_, rfl, Answers.sample_tell _ _ _ ⟨rfl, nofun⟩⟩, _, rfl⟩

end Phone
end Pjsocky
