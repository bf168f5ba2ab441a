import Pjsocky.Account.Lifecycle

/-!
# Commands that fail

A command that fails leaves the daemon as it was, `call.dial` apart. Some handlers write a
global before they ask pjsua and do not restore it; that this is harmless is a fact about
the account over whole runs, not about the handler.
-/

namespace Pjsocky

open Support

/-- The types of a parameter that the handlers ask for. -/
inductive ParamType where
  | string
  | number
  | boolean
deriving DecidableEq, Repr

def ParamType.matches : ParamType → JsonElem → Bool
  | .string, .str _ | .number, .num _ | .boolean, .bool _ => true
  | _, _ => false

/-- The parameters that a command cannot do without. -/
def CmdFn.required : CmdFn → List (String × ParamType)
  | .accountConfigure =>
      [("sip_uri", .string), ("registrar_uri", .string), ("username", .string),
        ("password", .string)]
  | .deviceSetAudio => [("capture_id", .number), ("playback_id", .number)]
  | .deviceSetVideo => [("capture_id", .number)]
  | .callDial => [("uri", .string)]
  | .callHangup | .callGetInfo | .callAnswer => [("call_id", .number)]
  | .configSetRingTimeout => [("seconds", .number)]
  | .imSend => [("to", .string), ("content", .string)]
  | .imTyping => [("to", .string), ("is_typing", .boolean)]
  | _ => []

/-- A required parameter is missing or of the wrong type. -/
def CmdFn.BadParams (fn : CmdFn) (params : Option JsonElem) : Prop :=
  ∃ param ∈ fn.required, ∀ elem, findMember params param.1 = some elem →
    param.2.matches elem = false

variable {build : Build} {outcomes : Outcomes} {params : Option JsonElem} {daemon : Daemon}

theorem getStringMember_bad {name : String}
    (bad : ∀ elem, findMember params name = some elem → ParamType.string.matches elem = false) :
    getStringMember params name = none := by
  unfold getStringMember
  split
  · rename_i value found
    cases bad _ found
  · rfl

theorem getIntMember_bad {name : String}
    (bad : ∀ elem, findMember params name = some elem → ParamType.number.matches elem = false) :
    getIntMember build params name = none := by
  unfold getIntMember
  split
  · rename_i value found
    cases bad _ found
  · rfl

theorem getBoolMember_bad {name : String}
    (bad : ∀ elem, findMember params name = some elem → ParamType.boolean.matches elem = false) :
    getBoolMember params name = none := by
  unfold getBoolMember
  split
  · rename_i value found
    cases bad _ found
  · rfl

/-- Bad parameters are refused before anything else is done. -/
theorem Daemon.runCmd_badParams {fn : CmdFn} (bad : fn.BadParams params) :
    daemon.runCmd build outcomes params fn = (.bare .einval, daemon) := by
  obtain ⟨⟨name, type⟩, required, wrong⟩ := bad
  cases fn with
  | accountConfigure =>
      simp only [CmdFn.required, List.mem_cons, List.not_mem_nil, or_false, Prod.mk.injEq]
        at required
      obtain ⟨rfl, rfl⟩ | ⟨rfl, rfl⟩ | ⟨rfl, rfl⟩ | ⟨rfl, rfl⟩ := required
      all_goals simp [runCmd, cmdAccountConfigure, getStringMember_bad wrong]
  | deviceSetAudio =>
      obtain ⟨⟨⟩⟩ | ⟨⟨⟩⟩ := List.mem_pair.mp required
      all_goals simp [runCmd, cmdDeviceSetAudio, getIntMember_bad wrong]
  | imSend =>
      obtain ⟨⟨⟩⟩ | ⟨⟨⟩⟩ := List.mem_pair.mp required
      all_goals simp [runCmd, cmdImSend, getStringMember_bad wrong]
  | imTyping =>
      obtain ⟨⟨⟩⟩ | ⟨⟨⟩⟩ := List.mem_pair.mp required
      · simp [runCmd, cmdImTyping, getStringMember_bad wrong]
      · simp [runCmd, cmdImTyping, getBoolMember_bad wrong]
  | deviceSetVideo =>
      cases List.mem_singleton.mp required
      simp [runCmd, cmdDeviceSetVideo, getIntMember_bad wrong]
  | callDial =>
      cases List.mem_singleton.mp required
      simp [runCmd, cmdCallDial, getStringMember_bad wrong]
  | callHangup =>
      cases List.mem_singleton.mp required
      simp [runCmd, cmdCallHangup, getIntMember_bad wrong]
  | callGetInfo =>
      cases List.mem_singleton.mp required
      simp [runCmd, cmdCallGetInfo, getIntMember_bad wrong]
  | callAnswer =>
      cases List.mem_singleton.mp required
      simp [runCmd, cmdCallAnswer, getIntMember_bad wrong]
  | configSetRingTimeout =>
      cases List.mem_singleton.mp required
      simp [runCmd, cmdConfigSetRingTimeout, getIntMember_bad wrong]
  | _ => cases required

/-- A failed command, other than `call.dial`, has only asked. The flag matters for
`account.configure`, which has cleared it. -/
theorem CmdStep.failed {fn : CmdFn} {status : Status} {after : Daemon}
    (step : CmdStep build outcomes params daemon fn status after)
    (failed : status ≠ .success) (other : fn ≠ .callDial)
    (flag : daemon.accId = invalidId → daemon.registered = false) :
    ∃ added, after = { daemon with log := daemon.log ++ added } := by
  cases step with
  | plain logs =>
      obtain ⟨added, rfl, -⟩ := logs
      exact ⟨added, rfl⟩
  | configured | removed | selected | limited => exact (failed rfl).elim
  | notConfigured unconfigured logs =>
      obtain ⟨added, rfl, -⟩ := logs
      exact ⟨added, by rw [← flag unconfigured]⟩
  | dialled => exact (other rfl).elim
  | hangsUp | hangsUpAll => exact ⟨[_], rfl⟩
  | answers _ _ logs =>
      obtain ⟨added, rfl, -⟩ := logs
      exact ⟨added ++ [_], by rw [Daemon.record, List.append_assoc]⟩

namespace Endpoint

/-- What a step does when it is a line that fails: the daemon's state stays as it is, and
when a parameter is missing or of the wrong type pjsua is not asked for anything either. -/
structure Harmless (build : Build) (endpoint : Endpoint) (input : SipInput) : Prop where
  unchanged : ∀ line outcomes, input = .line line outcomes →
    (∀ params, Daemon.executed build line ≠ some (.callDial, params)) →
    (endpoint.sip.daemon.dispatchLine build outcomes line).1.Failed →
    ∃ added, endpoint.sip.step build input = endpoint.sip.set
      { endpoint.sip.daemon with log := endpoint.sip.daemon.log ++ added }
  unasked : ∀ line outcomes fn params, input = .line line outcomes →
    Daemon.executed build line = some (fn, params) → fn.BadParams params →
    (∃ id, (endpoint.sip.daemon.dispatchLine build outcomes line).1 =
      .answered (fail id (ascii "invalid_params") (build.lib.strerror .einval)) (some fn)) ∧
    endpoint.sip.step build input = endpoint.sip

theorem Sound.harmless {endpoint : Endpoint} {input : SipInput} (sound : endpoint.Sound) :
    endpoint.Harmless build input := by
  refine ⟨?_, ?_⟩
  · rintro line outcomes rfl other failed
    rw [Sip.step]
    obtain idle | ⟨fn, params, runs, status⟩ := Daemon.dispatchLine_failed failed
    · rw [Daemon.dispatchLine_unexecuted idle]
      exact ⟨[], by rw [List.append_nil]⟩
    · obtain ⟨id, same⟩ := Daemon.dispatchLine_executed outcomes endpoint.sip.daemon runs
      have notDial : fn ≠ .callDial := by
        rintro rfl
        exact other params runs
      obtain ⟨added, leaves⟩ :=
        (Daemon.runCmd_step build outcomes params endpoint.sip.daemon fn).failed status notDial
          sound.unregistered
      rw [same, leaves]
      exact ⟨added, rfl⟩
  · rintro line outcomes fn params rfl runs bad
    obtain ⟨id, same⟩ := Daemon.dispatchLine_executed outcomes endpoint.sip.daemon runs
    rw [Daemon.runCmd_badParams bad] at same
    rw [Sip.step, same]
    exact ⟨⟨id, rfl⟩, rfl⟩

/-- In every run in which pjsua keeps its promises, a line that fails changes nothing,
unless it is a `call.dial`. -/
theorem failures_change_nothing (build : Build) (inputs : List SipInput)
    (possible : Machine.Along (Endpoint.step build) Possible start inputs) :
    Machine.Along (Endpoint.step build) (Harmless build) start inputs :=
  Machine.along_of_invariant (fun _ _ sound => sound.step)
    (fun _ _ sound _ => sound.harmless) Sound.start possible

/-- pjsua fails to add the account. -/
def unaddedRun : List SipInput :=
  [.line configureLine { Outcomes.sample with accAdd := .error sampleFailure }]

theorem unaddedRun_unchanged :
    Machine.Along (Endpoint.step configuringBuild) Possible start unaddedRun ∧
    ∃ added, (run configuringBuild start unaddedRun).sip =
      Sip.start.set { Daemon.start with log := added } := by
  have possible : Machine.Along (Endpoint.step configuringBuild) Possible start unaddedRun := by
    refine ⟨?_, trivial⟩
    rintro accId ⟨⟩
  have harmless := (failures_change_nothing configuringBuild unaddedRun possible).1
  obtain ⟨added, same⟩ := harmless.unchanged _ _ rfl (by rintro params ⟨⟩) rfl
  exact ⟨possible, added, same⟩

end Endpoint

/-! ## `call.dial` -/

namespace Sip

variable {sip : Sip} {input : SipInput}

/-- A `call.dial` that fails leaves the tracked call as it was. -/
def DialKeepsCall (build : Build) (sip : Sip) (input : SipInput) : Prop :=
  ∀ line outcomes params, input = .line line outcomes →
    Daemon.executed build line = some (.callDial, params) →
    (sip.daemon.dispatchLine build outcomes line).1.Failed →
    (sip.step build input).daemon.callId = sip.daemon.callId

/-- When `pjsua_call_make_call` is called and fails, no call is tracked. -/
def DialsUntracked (build : Build) (sip : Sip) (input : SipInput) : Prop :=
  ∀ line outcomes params uri status written, input = .line line outcomes →
    Daemon.executed build line = some (.callDial, params) →
    getStringMember params "uri" = some uri →
    sip.daemon.accId ≠ invalidId → sip.daemon.registered = true →
    outcomes.makeCall = .failed status written → sip.daemon.callId = invalidId

/-- A `call.dial` that reaches pjsua and fails there ends with no call tracked, whatever
pjsua has written. -/
theorem cmdCallDial_failed (build : Build) {uri : Bytes} {status : Failure}
    {written : Option CallId} (given : getStringMember params "uri" = some uri)
    (account : daemon.accId ≠ invalidId) (registered : daemon.registered = true)
    (fails : outcomes.makeCall = .failed status written) :
    (daemon.cmdCallDial build outcomes params).1.status = status ∧
      (daemon.cmdCallDial build outcomes params).2.callId = invalidId := by
  simp only [Daemon.cmdCallDial, given, fails, Daemon.dial_failed account registered]
  exact ⟨rfl, rfl⟩

/-- Any other `call.dial` succeeds or changes nothing. -/
theorem cmdCallDial_cases (build : Build) (outcomes : Outcomes) (params : Option JsonElem)
    (daemon : Daemon) :
    (daemon.cmdCallDial build outcomes params).1.status = .success ∨
    (daemon.cmdCallDial build outcomes params).2 = daemon ∨
    ∃ uri status written, getStringMember params "uri" = some uri ∧
      daemon.accId ≠ invalidId ∧ daemon.registered = true ∧
      outcomes.makeCall = .failed status written := by
  cases given : getStringMember params "uri" with
  | none =>
      apply Or.inr
      apply Or.inl
      simp only [Daemon.cmdCallDial, given]
  | some uri =>
      by_cases refused : daemon.accId = invalidId ∨ daemon.registered = false
      · apply Or.inr
        apply Or.inl
        simp only [Daemon.cmdCallDial, given, Daemon.dial_refused refused]
      · obtain ⟨account, registered⟩ : daemon.accId ≠ invalidId ∧ daemon.registered = true := by
          simpa using refused
        cases outcome : outcomes.makeCall with
        | created callId =>
            apply Or.inl
            simp only [Daemon.cmdCallDial, given, outcome,
              Daemon.dial_created account registered, HandlerResult.reply]
        | failed status written =>
            exact .inr (.inr ⟨uri, status, written, rfl, account, registered, rfl⟩)

/-- One step keeps the tracked call exactly when no dial that fails in pjsua finds one. -/
theorem dialKeepsCall_iff : sip.DialKeepsCall build input ↔ sip.DialsUntracked build input := by
  constructor
  · rintro keeps line outcomes params uri status written rfl runs given account registered fails
    obtain ⟨id, same⟩ := Daemon.dispatchLine_executed outcomes sip.daemon runs
    obtain ⟨replied, untracked⟩ := cmdCallDial_failed build given account registered fails
    have failed : (sip.daemon.dispatchLine build outcomes line).1.Failed := by
      rw [same, Dispatched.Failed, Daemon.responseFor_ok, Daemon.runCmd, replied,
        decide_eq_false status.2]
    have kept := keeps line outcomes params rfl runs failed
    rw [step, same] at kept
    exact kept.symm.trans untracked
  · rintro untracked line outcomes params rfl runs failed
    obtain ⟨id, same⟩ := Daemon.dispatchLine_executed outcomes sip.daemon runs
    rw [same, Dispatched.Failed, Daemon.responseFor_ok, Daemon.runCmd] at failed
    rw [step, same, Daemon.runCmd]
    obtain succeeded | unchanged | ⟨uri, status, written, given, account, registered, fails⟩ :=
      cmdCallDial_cases build outcomes params sip.daemon
    · rw [succeeded] at failed
      cases failed
    · exact congrArg Daemon.callId unchanged
    · have idle := untracked line outcomes params uri status written rfl runs given account
        registered fails
      exact (cmdCallDial_failed build given account registered fails).2.trans idle.symm

/-- In every run, a `call.dial` that fails leaves the tracked call as it was exactly when no
call is tracked whenever one fails in pjsua. -/
theorem failed_dial_keeps_call_iff (build : Build) (inputs : List SipInput) :
    Machine.Along (step build) (DialKeepsCall build) start inputs ↔
      Machine.Along (step build) (DialsUntracked build) start inputs :=
  Machine.along_congr fun _ _ => dialKeepsCall_iff

/-- The lines of a run that configures an account and dials twice, with a build for them. -/
def dialLine : Bytes := requestLine "call.dial" "\"uri\":\"sip:bob@example.com\""

def badDialLine : Bytes := requestLine "call.dial" "\"uri\":\"bob\""

def hangupAllLine : Bytes := requestLine "call.hangup_all" ""

def diallingBuild : Build :=
  sampleBuild [(Endpoint.configureLine, request "account.configure"
      [addString "sip_uri" (ascii "sip:a@b"), addString "registrar_uri" (ascii "sip:b"),
        addString "username" (ascii "a"), addString "password" (ascii "p")]),
    (dialLine, request "call.dial" [addString "uri" (ascii "sip:bob@example.com")]),
    (badDialLine, request "call.dial" [addString "uri" (ascii "bob")]),
    (hangupAllLine, request "call.hangup_all" [])]

/-- Call 0 is up when a second number is dialled that pjsua refuses. -/
def redialledRun : List SipInput :=
  [.line Endpoint.configureLine .sample, .regState2 0 true (.ok ⟨0, 200, ascii "OK"⟩),
    .line dialLine .sample,
    .line badDialLine { Outcomes.sample with makeCall := .failed sampleFailure none }]

/-- The call is no longer tracked, and `call.hangup_all` asks pjsua for nothing. -/
theorem redialledRun_loses_call :
    (run diallingBuild start (redialledRun.take 3)).daemon.callId = 0 ∧
    (run diallingBuild start redialledRun).daemon.callId = invalidId ∧
    (run diallingBuild start redialledRun).requests diallingBuild
      (.line hangupAllLine .sample) = [] ∧
    ¬Machine.Along (step diallingBuild) (DialKeepsCall diallingBuild) start redialledRun := by
  refine ⟨rfl, rfl, rfl, fun keeps => ?_⟩
  have last : DialKeepsCall diallingBuild _ _ := keeps.2.2.2.1
  have kept := last _ _ _ rfl rfl rfl
  exact absurd kept (by decide)

end Sip
end Pjsocky
