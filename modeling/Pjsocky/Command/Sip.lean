import Pjsocky.Call.Phone
import Pjsocky.Command.Steps

/-!
# Runs of the SIP side

Everything that changes the daemon's SIP-side state: the lines a client sends, pjsua's
callbacks and the timers, in any order. As with two threads, the expiry of a timer is two
steps, and anything may happen between them.
-/

namespace Pjsocky

open Support

/-- The daemon's SIP side. -/
structure Sip where
  daemon : Daemon
  /-- The entry that has left the heap and whose callback has yet to run. -/
  pending : Option TimerName

/-- One step of a run, with what pjsua answers in it. -/
inductive SipInput where
  /-- `pjsocky_dispatch_line` is called. -/
  | line (line : Bytes) (outcomes : Outcomes)
  | regState2 (accId : AccId) (renew : Bool) (info : Except Failure AccInfo)
  | incomingCall (callId : CallId) (answers : Answers)
  | callState (callId : CallId) (answers : Answers)
  | callMediaState (callId : CallId) (answers : Answers)
  | callMediaEvent (callId : CallId) (medIdx : Nat) (event : Option MediaEvent)
  | callRxOffer (callId : CallId) (offer : Option (List SdpMedia)) (opt : Option CallSetting)
  | pager2 (source target mimeType body : Bytes)
  | pagerStatus2 (target body : Bytes) (status : Nat) (reason : Bytes)
  | typing2 (source target : Bytes) (isTyping : Bool)
  /-- The heap gives up an expired entry. -/
  | dequeue (name : TimerName)
  /-- The callback of the entry that was given up runs. -/
  | fire (answers : Answers)

namespace Sip

def start : Sip := ⟨.start, none⟩

/-- A step that leaves the pending entry alone. -/
def set (sip : Sip) (daemon : Daemon) : Sip := { sip with daemon }

def step (build : Build) (sip : Sip) : SipInput → Sip
  | .line line outcomes => sip.set (sip.daemon.dispatchLine build outcomes line).2
  | .regState2 accId renew info => sip.set (sip.daemon.onRegState2 accId renew info)
  | .incomingCall callId answers => sip.set (sip.daemon.onIncomingCall answers callId)
  | .callState callId answers => sip.set (sip.daemon.onCallState answers callId)
  | .callMediaState callId answers => sip.set (sip.daemon.onCallMediaState answers callId)
  | .callMediaEvent callId medIdx event =>
      sip.set (sip.daemon.onCallMediaEvent callId medIdx event)
  | .callRxOffer _ _ _ => sip
  | .pager2 source target mimeType body =>
      sip.set (sip.daemon.onPager2 source target mimeType body)
  | .pagerStatus2 target body status reason =>
      sip.set (sip.daemon.onPagerStatus2 target body status reason)
  | .typing2 source target isTyping => sip.set (sip.daemon.onTyping2 source target isTyping)
  | .dequeue name => ⟨sip.daemon.dequeueTimer name, some name⟩
  | .fire answers =>
      match sip.pending with
      | none => sip
      | some name => ⟨Phone.timerCb build.calls answers name sip.daemon, none⟩

/-- The state after a list of inputs. -/
abbrev run (build : Build) : Sip → List SipInput → Sip := Machine.run (step build)

end Sip

/-! ## Command lines -/

/-- The client gets a response with `ok` false, or an error event. -/
def Dispatched.Failed : Dispatched → Prop
  | .rejected _ => True
  | .answered response _ => jsonFind response "ok" = some (.bool false)

/-- This command ran, and the client gets a response with `ok` true. -/
def Dispatched.Succeeded (fn : CmdFn) : Dispatched → Prop
  | .rejected _ => False
  | .answered response ran => ran = some fn ∧ jsonFind response "ok" = some (.bool true)

namespace Daemon

variable {build : Build} {outcomes : Outcomes} {daemon : Daemon} {line : Bytes}

/-- The response of a command with this outcome. -/
def responseFor (lib : Pjlib) (id : Bytes) (outcome : HandlerResult) : JsonElem :=
  if outcome.status ≠ .success then
    fail id (errorCodeFor outcome.status) (lib.strerror outcome.status)
  else succeed id outcome.result

/-- `ok` says whether the command succeeded. -/
theorem responseFor_ok (lib : Pjlib) (id : Bytes) (outcome : HandlerResult) :
    jsonFind (responseFor lib id outcome) "ok" = some (.bool (outcome.status = .success)) := by
  by_cases succeeded : outcome.status = .success
  · rw [responseFor, if_neg (not_not.mpr succeeded), decide_eq_true succeeded]
    rfl
  · rw [responseFor, if_pos succeeded, decide_eq_false succeeded]
    rfl

/-- A line that reaches a handler is answered with its outcome and leaves its state. -/
theorem dispatchLine_executed (outcomes : Outcomes) (daemon : Daemon) {fn : CmdFn}
    {params : Option JsonElem} (runs : executed build line = some (fn, params)) :
    ∃ id, daemon.dispatchLine build outcomes line =
      (.answered (responseFor build.lib id (daemon.runCmd build outcomes params fn).1) (some fn),
        (daemon.runCmd build outcomes params fn).2) := by
  rw [dispatchLine, runs]
  unfold executed at runs
  unfold Pjsocky.dispatchLine
  dsimp only
  split at runs
  · rename_i members _ parsed
    split at runs
    · rename_i id cmd hasId hasCmd
      obtain ⟨found, known, same⟩ := Option.map_eq_some_iff.mp runs
      obtain ⟨rfl, rfl⟩ := Prod.mk.inj same
      refine ⟨id, ?_⟩
      simp only [parsed, hasId, hasCmd, known, responseFor, handlers]
      by_cases succeeded : (daemon.runCmd build outcomes
        (jsonFind (.obj members) "params") found).1.status = .success
      · simp [succeeded]
      · simp [succeeded]
    · cases runs
  · cases runs

/-- A line that reaches no handler leaves the state as it is. -/
theorem dispatchLine_unexecuted (idle : executed build line = none) :
    (daemon.dispatchLine build outcomes line).2 = daemon := by
  rw [dispatchLine, idle]

/-- No command succeeds for a line that reaches no handler. -/
theorem not_succeeded_unexecuted (idle : executed build line = none) (fn : CmdFn) :
    ¬(daemon.dispatchLine build outcomes line).1.Succeeded fn := by
  unfold dispatchLine Pjsocky.dispatchLine
  unfold executed at idle
  dsimp only
  split
  · rename_i members _ parsed
    split
    · rename_i id hasId
      split
      · rename_i cmd hasCmd
        simp only [parsed, hasId, hasCmd, Option.map_eq_none_iff] at idle
        rw [idle]
        rintro ⟨⟨⟩, -⟩
      · rintro ⟨⟨⟩, -⟩
    · exact id
  · exact id

/-- A line fails when no command is run for it or the command fails. -/
theorem dispatchLine_failed
    (failed : (daemon.dispatchLine build outcomes line).1.Failed) :
    executed build line = none ∨
    ∃ fn params, executed build line = some (fn, params) ∧
      (daemon.runCmd build outcomes params fn).1.status ≠ .success := by
  cases runs : executed build line with
  | none => exact .inl rfl
  | some command =>
      obtain ⟨fn, params⟩ := command
      obtain ⟨id, same⟩ := dispatchLine_executed outcomes daemon runs
      rw [same, Dispatched.Failed, responseFor_ok] at failed
      exact .inr ⟨fn, params, rfl, by simpa using failed⟩

/-- A line succeeds only when its command was run and succeeded. -/
theorem dispatchLine_succeeded {fn : CmdFn}
    (succeeded : (daemon.dispatchLine build outcomes line).1.Succeeded fn) :
    ∃ params, executed build line = some (fn, params) ∧
      (daemon.runCmd build outcomes params fn).1.status = .success := by
  cases runs : executed build line with
  | none => exact (not_succeeded_unexecuted runs fn succeeded).elim
  | some command =>
      obtain ⟨ran, params⟩ := command
      obtain ⟨id, same⟩ := dispatchLine_executed outcomes daemon runs
      rw [same, Dispatched.Succeeded, responseFor_ok] at succeeded
      obtain ⟨⟨⟩, ok⟩ := succeeded
      exact ⟨params, rfl, by simpa using ok⟩

/-- A line leaves the state as it is, or does what a command can do. -/
theorem dispatchLine_cases (build : Build) (outcomes : Outcomes) (daemon : Daemon)
    (line : Bytes) :
    (daemon.dispatchLine build outcomes line).2 = daemon ∨
    ∃ fn params status, executed build line = some (fn, params) ∧
      CmdStep build outcomes params daemon fn status
        (daemon.dispatchLine build outcomes line).2 := by
  cases runs : executed build line with
  | none => exact .inl (dispatchLine_unexecuted runs)
  | some command =>
      obtain ⟨fn, params⟩ := command
      obtain ⟨id, same⟩ := dispatchLine_executed outcomes daemon runs
      have step := runCmd_step build outcomes params daemon fn
      rw [same]
      exact .inr ⟨fn, params, _, rfl, step⟩

end Daemon

/-- A line that reaches a handler leaves the handler's state. -/
theorem Sip.step_executed {build : Build} {sip : Sip} {line : Bytes} {outcomes : Outcomes}
    {fn : CmdFn} {params : Option JsonElem}
    (runs : Daemon.executed build line = some (fn, params)) :
    (sip.step build (.line line outcomes)).daemon =
      (sip.daemon.runCmd build outcomes params fn).2 := by
  rw [step, Daemon.dispatchLine, runs]
  rfl

/-! ## Callbacks -/

/-- A callback other than `on_reg_state2`, or a step of a timer. -/
def SipInput.IsCallback : SipInput → Prop
  | .line .. | .regState2 .. => False
  | _ => True

/-- The three kinds of step. -/
theorem SipInput.kinds (input : SipInput) :
    (∃ line outcomes, input = .line line outcomes) ∨
    (∃ accId renew info, input = .regState2 accId renew info) ∨ input.IsCallback := by
  cases input with
  | line line outcomes => exact .inl ⟨line, outcomes, rfl⟩
  | regState2 accId renew info => exact .inr (.inl ⟨accId, renew, info, rfl⟩)
  | _ => exact .inr (.inr trivial)

/-- The call that a step is about. -/
def Sip.subject (sip : Sip) : SipInput → Option CallId
  | .incomingCall callId _ | .callState callId _ | .callMediaState callId _
  | .callMediaEvent callId _ _ | .callRxOffer callId _ _ => some callId
  | .fire _ => sip.pending.map fun name => (sip.daemon.timers name).userData
  | _ => none

/-- What a callback does outside the daemon's state: it pushes an event, or it is about a
call and does something about that call, or hangs it up with 480. -/
def Action.OfCallback (subject : Option CallId) (action : Action) : Prop :=
  (∃ event, action = .push event) ∨
  ∃ callId, subject = some callId ∧
    (action.About callId ∨ action = .hangup callId temporarilyUnavailable)

/-- A callback leaves the account alone and asks only about its own call. -/
theorem Sip.step_speaks {build : Build} {sip : Sip} {input : SipInput}
    (callback : input.IsCallback) :
    Daemon.Speaks (Action.OfCallback (sip.subject input)) sip.daemon
      (sip.step build input).daemon := by
  have widen {callId : CallId} {after : Daemon}
      (speaks : Daemon.Speaks (Action.About callId) sip.daemon after) :
      Daemon.Speaks (Action.OfCallback (some callId)) sip.daemon after :=
    speaks.mono fun _ about => .inr ⟨callId, rfl, .inl about⟩
  have pushes (event : Event) : Daemon.Speaks (Action.OfCallback none) sip.daemon
      (sip.daemon.record (.push event)) := (Daemon.Speaks.refl _ _).record _ (.inl ⟨event, rfl⟩)
  cases input with
  | line | regState2 => exact callback.elim
  | incomingCall callId answers => exact widen (Daemon.onIncomingCall_speaks answers callId _)
  | callState callId answers => exact widen (Daemon.onCallState_speaks answers callId _)
  | callMediaState callId answers => exact widen (Daemon.onCallMediaState_speaks answers callId _)
  | callMediaEvent callId medIdx event =>
      exact widen (Daemon.onCallMediaEvent_speaks callId medIdx event _)
  | callRxOffer => exact Daemon.Speaks.refl _ _
  | pager2 => exact pushes _
  | pagerStatus2 => exact pushes _
  | typing2 => exact pushes _
  | dequeue name => exact (Daemon.Speaks.refl _ _).setTimer name _
  | fire answers =>
      obtain ⟨daemon, pending⟩ := sip
      cases pending with
      | none => exact Daemon.Speaks.refl _ _
      | some name =>
          cases name with
          | ring =>
              exact (Daemon.ringTimerCb_speaks answers daemon).mono
                fun _ allowed => .inr ⟨_, rfl, allowed⟩
          | watchdog => exact widen (Daemon.videoWatchdogCb_speaks build.calls answers daemon)
          | report => exact widen (Daemon.mediaReportCb_speaks build.calls answers daemon)

/-- What a step adds to the log. -/
def Sip.requests (build : Build) (sip : Sip) (input : SipInput) : List Action :=
  (sip.step build input).daemon.log.drop sip.daemon.log.length

theorem Sip.requests_eq {build : Build} {sip : Sip} {input : SipInput} {added : List Action}
    (grown : (sip.step build input).daemon.log = sip.daemon.log ++ added) :
    sip.requests build input = added := by
  rw [requests, grown, List.drop_left]

/-- What a step may ask of pjsua. -/
inductive Sip.Asks (build : Build) (sip : Sip) : SipInput → Action → Prop
  | command {line : Bytes} {outcomes : Outcomes} {fn : CmdFn} {params : Option JsonElem}
      {action : Action} (runs : Daemon.executed build line = some (fn, params))
      (ofCommand : action.OfCommand build params sip.daemon fn) :
      Asks build sip (.line line outcomes) action
  | account {accId : AccId} {renew : Bool} {info : Except Failure AccInfo} :
      Asks build sip (.regState2 accId renew info) (.accGetInfo accId)
  | registration {accId : AccId} {renew : Bool} {info : Except Failure AccInfo}
      (event : Event) : Asks build sip (.regState2 accId renew info) (.push event)
  | callback {input : SipInput} {action : Action} (callback : input.IsCallback)
      (ofCallback : action.OfCallback (sip.subject input)) : Asks build sip input action

/-- The log only grows, by what a step may ask. -/
theorem Sip.step_log (build : Build) (sip : Sip) (input : SipInput) :
    ∃ added, (sip.step build input).daemon.log = sip.daemon.log ++ added ∧
      ∀ action ∈ added, sip.Asks build input action := by
  obtain ⟨line, outcomes, rfl⟩ | ⟨accId, renew, info, rfl⟩ | callback := input.kinds
  · obtain same | ⟨fn, params, status, runs, command⟩ :=
      Daemon.dispatchLine_cases build outcomes sip.daemon line
    · refine ⟨[], ?_, List.forall_mem_nil _⟩
      rw [step, same, List.append_nil]
      rfl
    · obtain ⟨added, grown, ofCommand⟩ := command.log
      exact ⟨added, grown, fun action member => .command runs (ofCommand action member)⟩
  · cases info with
    | error status =>
        refine ⟨[.accGetInfo accId], rfl, fun action member => ?_⟩
        rw [List.mem_singleton.mp member]
        exact .account
    | ok info =>
        refine ⟨_, List.append_assoc sip.daemon.log [_] [_], fun action member => ?_⟩
        rcases List.mem_append.mp member with first | second
        · rw [List.mem_singleton.mp first]
          exact .account
        · rw [List.mem_singleton.mp second]
          exact .registration _
  · obtain ⟨added, grown, ofCallback⟩ := (step_speaks callback).log
    exact ⟨added, grown, fun action member => .callback callback (ofCallback action member)⟩

theorem Sip.requests_asks {build : Build} {sip : Sip} {input : SipInput} {action : Action}
    (member : action ∈ sip.requests build input) : sip.Asks build input action := by
  obtain ⟨added, grown, asks⟩ := sip.step_log build input
  rw [requests_eq grown] at member
  exact asks action member

section Concrete

/-- A line for concrete runs, with the members of its `params` as they are written. -/
def requestLine (cmd params : String) : Bytes :=
  ascii "\x7b\"id\":\"1\",\"cmd\":\"" ++ ascii cmd ++ ascii "\",\"params\":\x7b" ++
    ascii params ++ ascii "\x7d\x7d"

/-- What is parsed from such a line. -/
def request (cmd : String) (params : Members) : JsonElem :=
  .obj [addString "id" (ascii "1"), addString "cmd" (ascii cmd), (ascii "params", .obj params)]

/-- A build for concrete runs, whose parser is applied to the listed lines only. -/
def sampleBuild (requests : List (Bytes × JsonElem)) : Build where
  lib := ⟨prettyWriter, fun line => (requests.lookup line).map (·, 0), fun _ => ascii "error",
    ascii "0.2.1.0", ascii "2.15.1"⟩
  calls := sampleCallLib
  conversion := ⟨fun _ => -2147483648, fun _ => ⟨by decide, by decide⟩⟩

/-- A failure of pjsua in concrete runs. -/
def sampleFailure : Failure := ⟨.enomem, by decide⟩

/-- pjsua does what it is asked, with the first ids, and knows of no device. -/
def Outcomes.sample : Outcomes where
  answers := .sample 0 .confirmed []
  makeCall := .created 0
  accAdd := .ok 0
  accInfo := .ok ⟨0, 200, ascii "OK"⟩
  accConfig := .error sampleFailure
  accModify := .success
  audDevs := .ok []
  vidDevs := .ok []
  vidDevInfo := .error sampleFailure
  sndIsActive := false
  callCount := 0
  pool := true
  status := .success

end Concrete
end Pjsocky
