import Pjsocky.Command.Sip

/-!
# The status codes that reach pjsua

`call.answer` and `call.hangup` pass the client's `code` on to pjsua, converted to `int` and
then to `unsigned`. Unlike the call id it is not checked, so a code that is no status code
of SIP reaches pjsua just when it comes with a call id that passes the check.
-/

namespace Pjsocky

open Support

/-- A status code of SIP. -/
def IsStatusCode (code : Nat) : Prop := 100 ≤ code ∧ code ≤ 699

/-- The status code that pjsua is given, if any, is one of SIP; a hangup may leave it to
pjsua. -/
def Action.CodeInRange : Action → Prop
  | .answer _ _ code => IsStatusCode code
  | .hangup _ code => code = 0 ∨ IsStatusCode code
  | _ => True

/-- The code that the command of a request would pass on may be passed on. -/
def CmdFn.CodeInRange (build : Build) (params : Option JsonElem) : CmdFn → Prop
  | .callAnswer => IsStatusCode (unsigned ((getIntMember build params "code").getD 200))
  | .callHangup =>
      unsigned ((getIntMember build params "code").getD 486) = 0 ∨
        IsStatusCode (unsigned ((getIntMember build params "code").getD 486))
  | _ => True

/-- A command about the call with the id that the client sent. -/
def CmdFn.NamesCall (fn : CmdFn) : Prop :=
  fn = .callHangup ∨ fn = .callAnswer ∨ fn = .callGetInfo

/-- A request with another code is refused before pjsua is asked for anything. -/
def Sip.RefusesCodes (build : Build) (sip : Sip) (input : SipInput) : Prop :=
  ∀ line outcomes fn params, input = .line line outcomes →
    Daemon.executed build line = some (fn, params) → ¬fn.CodeInRange build params →
    (∃ id, (sip.daemon.dispatchLine build outcomes line).1 =
      .answered (fail id (ascii "invalid_params") (build.lib.strerror .einval)) (some fn)) ∧
    sip.step build input = sip

/-- A request whose call id is in range has a code that is, too. -/
def SipInput.CodesInRange (build : Build) (input : SipInput) : Prop :=
  ∀ line outcomes fn params callId, input = .line line outcomes →
    Daemon.executed build line = some (fn, params) →
    getIntMember build params "call_id" = some callId →
    build.calls.isValidCallId callId = true → fn.CodeInRange build params

namespace Daemon

variable {build : Build} {outcomes : Outcomes} {params : Option JsonElem} {daemon : Daemon}
variable {fn : CmdFn}

/-- Only two commands have a code. -/
theorem code_commands (bad : ¬fn.CodeInRange build params) : fn.NamesCall := by
  cases fn with
  | callHangup => exact .inl rfl
  | callAnswer => exact .inr (.inl rfl)
  | _ => exact (bad trivial).elim

/-- The commands refuse a request without a call id in range. -/
theorem runCmd_strayId (namesCall : fn.NamesCall)
    (stray : ∀ callId, getIntMember build params "call_id" = some callId →
      build.calls.isValidCallId callId = false) :
    daemon.runCmd build outcomes params fn = (.bare .einval, daemon) := by
  cases given : getIntMember build params "call_id" with
  | none =>
      rcases namesCall with rfl | rfl | rfl <;>
        simp [runCmd, cmdCallHangup, cmdCallAnswer, cmdCallGetInfo, given]
  | some callId =>
      have invalid := stray callId given
      rcases namesCall with rfl | rfl | rfl
      · simp [runCmd, cmdCallHangup, given, hangup, invalid, bareCmd]
      · cases video : getBoolMember params "video" with
        | none =>
            simp [runCmd, cmdCallAnswer, given, video, remoteOfferedVideo, getInfo, invalid,
              Except.map]
        | some video => simp [runCmd, cmdCallAnswer, given, video, answer, invalid, bareCmd]
      · simp [runCmd, cmdCallGetInfo, given, getInfo, invalid]

theorem Logs.first {calls : CallLib} {before after : Daemon} {action : Action}
    (logs : Logs calls (before.record action) after) :
    ∃ added, after.log = before.log ++ action :: added := by
  obtain ⟨added, rfl, -⟩ := logs
  exact ⟨added, List.append_assoc before.log [action] added⟩

/-- They ask pjsua for something when the call id is in range. -/
theorem runCmd_asks (outcomes : Outcomes) (daemon : Daemon) {callId : CallId}
    (namesCall : fn.NamesCall) (given : getIntMember build params "call_id" = some callId)
    (valid : build.calls.isValidCallId callId = true) :
    ∃ action added, (daemon.runCmd build outcomes params fn).2.log =
      daemon.log ++ action :: added ∧ ∀ device, action ≠ .vidDevGetInfo device := by
  have asks : daemon.getInfo build.calls outcomes.answers 0 callId =
      (outcomes.answers.info 0, daemon.record (.getInfo callId)) := by simp [getInfo, valid]
  have asked := Logs.refl build.calls (daemon.record (.getInfo callId))
  rcases namesCall with rfl | rfl | rfl
  · refine ⟨.hangup callId (unsigned ((getIntMember build params "code").getD 486)), [], ?_,
      fun _ same => by cases same⟩
    simp [runCmd, cmdCallHangup, given, hangup, valid, bareCmd]
  · cases video : getBoolMember params "video" with
    | none =>
        refine ⟨.getInfo callId, ?_⟩
        cases reading : outcomes.answers.info 0 with
        | error status =>
            refine ⟨[], ?_, fun _ same => by cases same⟩
            simp [runCmd, cmdCallAnswer, given, video, remoteOfferedVideo, asks, reading,
              Except.map]
        | ok info =>
            refine ⟨[.answer callId (setting build.calls (0 < info.remVidCnt))
              (unsigned ((getIntMember build params "code").getD 200))], ?_,
              fun _ same => by cases same⟩
            simp [runCmd, cmdCallAnswer, given, video, remoteOfferedVideo, asks, valid, reading,
              Except.map, answer, bareCmd]
    | some wanted =>
        refine ⟨.answer callId (setting build.calls wanted)
          (unsigned ((getIntMember build params "code").getD 200)), [], ?_,
          fun _ same => by cases same⟩
        simp [runCmd, cmdCallAnswer, given, video, answer, valid, bareCmd]
  · refine ⟨.getInfo callId, ?_⟩
    have read : ∃ after, Logs build.calls (daemon.record (.getInfo callId)) after ∧
        (daemon.cmdCallGetInfo build outcomes params).2 = after := by
      refine ⟨_, ?_, rfl⟩
      simp only [cmdCallGetInfo, given, asks]
      split
      · exact asked
      · exact (asked.getRtpCounters _ 1 callId .audio).getRtpCounters _ 2 callId .video
    obtain ⟨after, logs, same⟩ := read
    obtain ⟨added, grown⟩ := logs.first
    exact ⟨added, (congrArg Daemon.log same).trans grown, fun _ same => by cases same⟩

end Daemon

namespace Sip

variable {build : Build} {sip : Sip} {input : SipInput}

/-- One step passes on only status codes, and refuses the others, exactly when a request with
a call id in range has a code in range. -/
theorem step_codes_iff :
    ((∀ action ∈ sip.requests build input, action.CodeInRange) ∧ sip.RefusesCodes build input) ↔
      input.CodesInRange build := by
  constructor
  · rintro ⟨-, refuses⟩ line outcomes fn params callId rfl runs given valid
    by_contra bad
    obtain ⟨-, unchanged⟩ := refuses line outcomes fn params rfl runs bad
    obtain ⟨id, same⟩ := Daemon.dispatchLine_executed outcomes sip.daemon runs
    rw [step, same] at unchanged
    obtain ⟨action, added, grown, -⟩ := Daemon.runCmd_asks outcomes sip.daemon
      (Daemon.code_commands bad) given valid
    have sameLog : (sip.daemon.runCmd build outcomes params fn).2.log = sip.daemon.log :=
      congrArg (fun sip => sip.daemon.log) unchanged
    rw [sameLog] at grown
    cases List.self_eq_append_right.mp grown
  · intro inRange
    refine ⟨fun action member => ?_, ?_⟩
    · cases requests_asks member with
      | command runs ofCommand =>
          cases ofCommand with
          | plain isPlain =>
              cases action with
              | hangup | answer => exact isPlain.elim
              | _ => trivial
          | hangsUp given valid => exact inRange _ _ _ _ _ rfl runs given valid
          | hangsUpAll => exact .inl rfl
          | answers given valid => exact inRange _ _ _ _ _ rfl runs given valid
          | adds | deletes | dials => trivial
      | account | registration => trivial
      | callback _ ofCallback =>
          obtain ⟨event, rfl⟩ | ⟨callId, -, about | rfl⟩ := ofCallback
          · trivial
          · cases action with
            | hangup | answer => exact about.elim
            | _ => trivial
          · exact .inr ⟨by decide, by decide⟩
    · rintro line outcomes fn params rfl runs bad
      have stray (callId : CallId) (given : getIntMember build params "call_id" = some callId) :
          build.calls.isValidCallId callId = false := by
        by_contra valid
        exact bad (inRange line outcomes fn params callId rfl runs given (by simpa using valid))
      obtain ⟨id, same⟩ := Daemon.dispatchLine_executed outcomes sip.daemon runs
      rw [Daemon.runCmd_strayId (Daemon.code_commands bad) stray] at same
      rw [step, same]
      exact ⟨⟨id, rfl⟩, rfl⟩

theorem step_requests (build : Build) (sip : Sip) (input : SipInput) :
    (sip.step build input).daemon.log = sip.daemon.log ++ sip.requests build input := by
  obtain ⟨added, grown, -⟩ := sip.step_log build input
  rw [grown, requests_eq grown]

/-- What holds of everything in the log holds of what each step has added. -/
theorem log_run_iff {allowed : Action → Prop} {inputs : List SipInput} :
    (∀ action ∈ (run build sip inputs).daemon.log, allowed action) ↔
      (∀ action ∈ sip.daemon.log, allowed action) ∧
      Machine.Along (step build)
        (fun sip input => ∀ action ∈ sip.requests build input, allowed action) sip inputs := by
  induction inputs generalizing sip with
  | nil => exact ⟨fun all => ⟨all, trivial⟩, fun both => both.1⟩
  | cons input rest ih =>
      rw [run, Machine.run_cons, ih, step_requests, List.forall_mem_append, and_assoc]
      rfl

/-- In every run pjsua is given only status codes of SIP, and requests with another code are
refused, exactly when every request with a call id in range has a code in range. -/
theorem codes_in_range_iff (build : Build) (inputs : List SipInput) :
    ((∀ action ∈ (run build start inputs).daemon.log, action.CodeInRange) ∧
      Machine.Along (step build) (RefusesCodes build) start inputs) ↔
    Machine.Along (step build) (fun _ input => input.CodesInRange build) start inputs := by
  have fresh : ∀ action ∈ start.daemon.log, action.CodeInRange :=
    List.forall_mem_nil _
  rw [log_run_iff, and_iff_right fresh, ← Machine.along_and]
  exact Machine.along_congr fun _ _ => step_codes_iff

/-- A line that hangs a call up with -1. -/
def oddCode : Bytes := requestLine "call.hangup" "\"call_id\":0,\"code\":-1"

/-- pjsua is told to hang up with a number that is no status code. -/
theorem oddCode_reaches_pjsua :
    let build := sampleBuild [(oddCode, request "call.hangup"
      [addNumber "call_id" 0, addNumber "code" (-1)])]
    Action.hangup 0 4294967295 ∈ (run build start [.line oddCode .sample]).daemon.log ∧
    ¬((∀ action ∈ (run build start [.line oddCode .sample]).daemon.log, action.CodeInRange) ∧
      Machine.Along (step build) (RefusesCodes build) start [.line oddCode .sample]) := by
  intro build
  have member : Action.hangup 0 4294967295 ∈
      (run build start [.line oddCode .sample]).daemon.log := List.mem_singleton_self _
  refine ⟨member, ?_⟩
  rintro ⟨inRange, -⟩
  have code : 4294967295 = 0 ∨ IsStatusCode 4294967295 := inRange _ member
  unfold IsStatusCode at code
  omega

end Sip
end Pjsocky
