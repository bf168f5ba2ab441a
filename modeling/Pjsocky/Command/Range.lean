import Pjsocky.Command.Sip

/-!
# The call ids that reach pjsua

pjsua ends the process when it is given a call id out of range. A client may send any number
as a call id, and the daemon keeps ids of its own: the tracked call and those in the timer
entries. Only ids in range get into these, and only ids in range get past the checks.
-/

namespace Pjsocky

open Support

/-- The call id that pjsua is given, if any, is in range. -/
def Action.InRange (lib : CallLib) : Action → Prop
  | .getInfo callId | .getStreamStat callId _ | .getStreamInfo callId _ | .hangup callId _
  | .answer callId _ _ | .setVidStrm callId _ => lib.isValidCallId callId = true
  | _ => True

/-- The tracked call's id is in range, and so is that of every entry whose callback may still
run. -/
structure Daemon.Carries (lib : CallLib) (pending : Option TimerName) (daemon : Daemon) :
    Prop where
  tracked : daemon.callId = invalidId ∨ lib.isValidCallId daemon.callId = true
  entries : ∀ name, (daemon.timers name).inHeap = true ∨ pending = some name →
    lib.isValidCallId (daemon.timers name).userData = true

namespace Daemon

variable {lib : CallLib} {pending : Option TimerName} {daemon before after : Daemon}
variable {callId : CallId} {name : TimerName}

namespace Carries

theorem start : Carries lib none .start := by
  refine ⟨.inl rfl, ?_⟩
  rintro name (held | held)
  · cases held
  · cases held

theorem of_eq (carries : Carries lib pending before) (tracked : after.callId = before.callId)
    (timers : after.timers = before.timers) : Carries lib pending after := by
  refine ⟨?_, ?_⟩
  · rw [tracked]
    exact carries.tracked
  · rw [timers]
    exact carries.entries

/-- Once the callback has run its entry is free. -/
theorem fired (carries : Carries lib pending daemon) : Carries lib none daemon :=
  ⟨carries.tracked, fun name held => carries.entries name (.inl (held.resolve_right nofun))⟩

theorem record (carries : Carries lib pending daemon) (action : Action) :
    Carries lib pending (daemon.record action) := carries.of_eq rfl rfl

theorem asks (carries : Carries lib pending before) (asks : Asks callId before after) :
    Carries lib pending after := by
  obtain ⟨added, rfl, -⟩ := asks
  exact carries.of_eq rfl rfl

theorem logs (carries : Carries lib pending before) (logs : Logs lib before after) :
    Carries lib pending after := by
  obtain ⟨added, rfl, -⟩ := logs
  exact carries.of_eq rfl rfl

theorem setTimer {timer : Timer} (carries : Carries lib pending daemon) (name : TimerName)
    (valid : timer.inHeap = true ∨ pending = some name →
      lib.isValidCallId timer.userData = true) :
    Carries lib pending (daemon.setTimer name timer) := by
  refine ⟨carries.tracked, fun other held => ?_⟩
  by_cases same : other = name
  · subst same
    rw [setTimer_timers, Function.update_self] at held ⊢
    exact valid held
  · rw [setTimer_timers, Function.update_of_ne same] at held ⊢
    exact carries.entries other held

theorem clearScheduled (carries : Carries lib pending daemon) (name : TimerName) :
    Carries lib pending (daemon.clearScheduled name) :=
  carries.setTimer name (carries.entries name)

theorem cancelTimer (carries : Carries lib pending daemon) (name : TimerName) :
    Carries lib pending (daemon.cancelTimer name) := by
  unfold Daemon.cancelTimer
  dsimp only
  split
  · refine (carries.record _).setTimer name fun held => ?_
    exact carries.entries name (.inr (held.resolve_left nofun))
  · exact carries

theorem initTimer (carries : Carries lib pending daemon) (name : TimerName)
    (valid : lib.isValidCallId callId = true) :
    Carries lib pending (daemon.initTimer name callId) :=
  (carries.record _).setTimer name fun _ => valid

theorem scheduleTimer (carries : Carries lib pending daemon)
    (valid : lib.isValidCallId (daemon.timers name).userData = true) (answers : Answers)
    (msec : Nat) : Carries lib pending (daemon.scheduleTimer answers name msec) := by
  unfold Daemon.scheduleTimer
  dsimp only
  split
  · exact (carries.record _).setTimer name fun _ => valid
  · exact carries.record _

/-- An entry is armed for a call whose id is in range. -/
theorem arm (carries : Carries lib pending daemon) (name : TimerName)
    (valid : lib.isValidCallId callId = true) (answers : Answers) (msec : Nat) :
    Carries lib pending ((daemon.initTimer name callId).scheduleTimer answers name msec) := by
  refine (carries.initTimer name valid).scheduleTimer ?_ answers msec
  rw [Daemon.initTimer, setTimer_timers, Function.update_self]
  exact valid

theorem giveUpOnVideo (carries : Carries lib pending daemon) (callId : CallId) (medIdx : Nat)
    (status : Status) (reason : Bytes) :
    Carries lib pending (daemon.giveUpOnVideo callId medIdx status reason) := by
  unfold Daemon.giveUpOnVideo
  split
  · exact carries
  · have latched : Carries lib pending { daemon with videoFailedCallId := callId } :=
      carries.of_eq rfl rfl
    exact ((latched.cancelTimer .watchdog).record _).record _

/-! ### The callbacks -/

/-- Every part of a callback about a call in range keeps the ids in range. -/
theorem parts (answers : Answers) (valid : lib.isValidCallId callId = true) :
    Parts answers callId (Carries lib pending) where
  asks carries asks := carries.asks asks
  pushes _ carries := carries.record _
  cancels name carries := carries.cancelTimer name
  arms name msec carries := (carries.cancelTimer name).arm name valid answers msec
  counts _ _ carries := carries.of_eq rfl rfl
  forgets carries := by
    refine ⟨?_, carries.entries⟩
    rw [forget_callId]
    split
    · exact .inl rfl
    · exact carries.tracked

theorem ringTimerCb (carries : Carries lib pending daemon) (answers : Answers) :
    Carries lib pending (daemon.ringTimerCb answers) := by
  have cleared := carries.clearScheduled .ring
  obtain ⟨asked, asks, same | ⟨same, -⟩⟩ := ringTimerCb_cases answers daemon
  · rw [same]
    exact cleared.asks asks
  · rw [same]
    exact (cleared.asks asks).record _

/-- The watchdog and the report are scheduled again with the id they carry. -/
theorem videoWatchdogCb (carries : Carries lib (some .watchdog) daemon) (answers : Answers) :
    Carries lib (some .watchdog) (daemon.videoWatchdogCb lib answers) := by
  have cleared := carries.clearScheduled .watchdog
  obtain ⟨asked, asks, ⟨same, -⟩ | ⟨-, medIdx, seen, ticks, same | same⟩⟩ :=
    videoWatchdogCb_cases lib answers daemon
  · rw [same]
    exact cleared.asks asks
  · have counted : Carries lib (some .watchdog)
        { asked with videoTxPacketsSeen := seen, videoStallTicks := ticks } :=
      (cleared.asks asks).of_eq rfl rfl
    rw [same]
    exact counted.scheduleTimer (counted.entries .watchdog (.inr rfl)) answers _
  · rw [same]
    refine Carries.giveUpOnVideo ?_ _ _ _ _
    exact (cleared.asks asks).of_eq rfl rfl

theorem mediaReportCb (carries : Carries lib (some .report) daemon) (answers : Answers) :
    Carries lib (some .report) (daemon.mediaReportCb lib answers) := by
  have cleared := carries.clearScheduled .report
  obtain ⟨asked, asks, same | ⟨audio, video, same⟩⟩ := mediaReportCb_cases lib answers daemon
  · rw [same]
    exact cleared.asks asks
  · have reported := (cleared.asks asks).record
      (.mediaReport (daemon.timers .report).userData audio video)
    rw [same]
    exact reported.scheduleTimer (reported.entries .report (.inr rfl)) answers _

/-- A command tracks at most the call that it has just made. -/
theorem command {build : Build} {outcomes : Outcomes} {params : Option JsonElem} {fn : CmdFn}
    {status : Status} (carries : Carries build.calls pending before)
    (step : CmdStep build outcomes params before fn status after)
    (created : ∀ callId, outcomes.makeCall = .created callId →
      build.calls.isValidCallId callId = true) :
    Carries build.calls pending after := by
  cases step with
  | plain logs => exact carries.logs logs
  | configured _ _ logs =>
      have reset : Carries build.calls pending { before with registered := false } :=
        carries.of_eq rfl rfl
      exact (reset.logs logs).of_eq rfl rfl
  | notConfigured _ logs =>
      have reset : Carries build.calls pending { before with registered := false } :=
        carries.of_eq rfl rfl
      exact reset.logs logs
  | removed => exact carries.of_eq rfl rfl
  | selected device logs =>
      have selected : Carries build.calls pending { before with videoCapture := device } :=
        carries.of_eq rfl rfl
      exact selected.logs logs
  | dialled callId uri video _ _ outcome =>
      refine ⟨?_, carries.entries⟩
      rcases outcome with made | rfl
      · exact .inr (created callId made)
      · exact .inl rfl
  | limited => exact carries.of_eq rfl rfl
  | hangsUp | hangsUpAll => exact carries.record _
  | answers _ _ logs => exact (carries.logs logs).record _

end Carries
end Daemon

/-! ## Whole runs -/

namespace Sip

/-- What pjsua promises: its callbacks and its new calls have ids in range, and only an entry
in the heap expires. -/
def IdsPossible (build : Build) (sip : Sip) : SipInput → Prop
  | .line _ outcomes =>
      ∀ callId, outcomes.makeCall = .created callId → build.calls.isValidCallId callId = true
  | .incomingCall callId _ | .callState callId _ | .callMediaState callId _
  | .callMediaEvent callId _ _ | .callRxOffer callId _ _ =>
      build.calls.isValidCallId callId = true
  | .dequeue name => (sip.daemon.timers name).inHeap = true
  | _ => True

/-- The ids that the daemon keeps and those that pjsua was given are in range. -/
structure Ranged (build : Build) (sip : Sip) : Prop where
  carries : sip.daemon.Carries build.calls sip.pending
  log : ∀ action ∈ sip.daemon.log, action.InRange build.calls

namespace Ranged

variable {build : Build} {sip : Sip} {input : SipInput}

theorem start : Ranged build start := ⟨.start, List.forall_mem_nil _⟩

/-- The call that a callback is about has an id in range. -/
theorem subject {callId : CallId} (ranged : sip.Ranged build)
    (possible : sip.IdsPossible build input) (isSubject : sip.subject input = some callId) :
    build.calls.isValidCallId callId = true := by
  cases input with
  | incomingCall | callState | callMediaState | callMediaEvent | callRxOffer =>
      cases isSubject
      exact possible
  | fire answers =>
      obtain ⟨name, pending, rfl⟩ := Option.map_eq_some_iff.mp isSubject
      exact ranged.carries.entries name (.inr pending)
  | _ => cases isSubject

theorem asks {action : Action} (ranged : sip.Ranged build)
    (possible : sip.IdsPossible build input) (asks : sip.Asks build input action) :
    action.InRange build.calls := by
  cases asks with
  | command runs ofCommand =>
      cases ofCommand with
      | plain isPlain =>
          cases action with
          | getInfo | getStreamStat => exact isPlain
          | getStreamInfo | hangup | answer | setVidStrm => exact isPlain.elim
          | _ => trivial
      | hangsUp _ valid => exact valid
      | hangsUpAll tracked => exact ranged.carries.tracked.resolve_left tracked
      | answers _ valid => exact valid
      | adds | deletes | dials => trivial
  | account | registration => trivial
  | callback _ ofCallback =>
      obtain ⟨event, rfl⟩ | ⟨callId, isSubject, about | rfl⟩ := ofCallback
      · trivial
      · have valid := ranged.subject possible isSubject
        cases action with
        | getInfo | getStreamStat | getStreamInfo | setVidStrm =>
            cases about
            exact valid
        | hangup | answer => exact about.elim
        | _ => trivial
      · exact ranged.subject possible isSubject

theorem stepCarries (ranged : sip.Ranged build) (possible : sip.IdsPossible build input) :
    (sip.step build input).daemon.Carries build.calls (sip.step build input).pending := by
  have carries := ranged.carries
  cases input with
  | line line outcomes =>
      obtain same | ⟨fn, params, status, -, command⟩ :=
        Daemon.dispatchLine_cases build outcomes sip.daemon line
      · rw [step, same]
        exact carries
      · exact carries.command command possible
  | regState2 accId renew info =>
      cases info with
      | error => exact carries.record _
      | ok info => exact carries.of_eq rfl rfl
  | incomingCall callId answers =>
      refine (Daemon.Carries.parts answers possible).onIncomingCall ?_
      exact ⟨.inr possible, carries.entries⟩
  | callState callId answers => exact (Daemon.Carries.parts answers possible).onCallState carries
  | callMediaState callId answers =>
      exact (Daemon.Carries.parts answers possible).onCallMediaState carries
  | callMediaEvent callId medIdx event =>
      cases event with
      | none => exact carries
      | some event =>
          cases event with
          | vidDevError status => exact carries.giveUpOnVideo ..
          | other => exact carries
  | callRxOffer => exact carries
  | pager2 | pagerStatus2 | typing2 => exact carries.record _
  | dequeue name =>
      have valid := carries.entries name (.inl possible)
      have held : sip.daemon.Carries build.calls (some name) := by
        refine ⟨carries.tracked, ?_⟩
        rintro other (inHeap | ⟨⟨⟩⟩)
        · exact carries.entries other (.inl inHeap)
        · exact valid
      exact held.setTimer name fun _ => valid
  | fire answers =>
      obtain ⟨daemon, pending⟩ := sip
      cases pending with
      | none => exact carries
      | some name =>
          cases name with
          | ring => exact (carries.ringTimerCb answers).fired
          | watchdog => exact (carries.videoWatchdogCb answers).fired
          | report => exact (carries.mediaReportCb answers).fired

theorem step (ranged : sip.Ranged build) (possible : sip.IdsPossible build input) :
    (sip.step build input).Ranged build := by
  refine ⟨ranged.stepCarries possible, fun action member => ?_⟩
  obtain ⟨added, grown, asks⟩ := sip.step_log build input
  rw [grown] at member
  rcases List.mem_append.mp member with old | new
  · exact ranged.log action old
  · exact ranged.asks possible (asks action new)

end Ranged

/-- In every run in which the ids that pjsua produces are in range, so is every call id that
pjsua is given, whatever ids the clients send. -/
theorem calls_in_range (build : Build) (inputs : List SipInput)
    (possible : Machine.Along (step build) (IdsPossible build) start inputs) :
    ∀ action ∈ (run build start inputs).daemon.log, action.InRange build.calls :=
  (Machine.invariant_run (fun _ _ ranged => ranged.step) Ranged.start possible).log

/-- A client asks about calls that cannot exist, and dials. -/
def strayIds : List SipInput :=
  [.line (requestLine "call.get_info" "\"call_id\":-7") .sample,
    .incomingCall 1 (.sample 1 .incoming []),
    .line (requestLine "call.hangup" "\"call_id\":1000000000") .sample,
    .line (requestLine "call.hangup_all" "") .sample]

/-- A build that parses these lines. -/
def strayIdsBuild : Build :=
  sampleBuild
    [(requestLine "call.get_info" "\"call_id\":-7",
        request "call.get_info" [addNumber "call_id" (-7)]),
      (requestLine "call.hangup" "\"call_id\":1000000000",
        request "call.hangup" [addNumber "call_id" 1000000000]),
      (requestLine "call.hangup_all" "", request "call.hangup_all" [])]

theorem strayIds_in_range :
    Machine.Along (step strayIdsBuild) (IdsPossible strayIdsBuild) start strayIds ∧
    ∀ action ∈ (run strayIdsBuild start strayIds).daemon.log,
      action.InRange strayIdsBuild.calls := by
  have possible :
      Machine.Along (step strayIdsBuild) (IdsPossible strayIdsBuild) start strayIds := by
    have created (callId : CallId) (made : Outcomes.sample.makeCall = .created callId) :
        strayIdsBuild.calls.isValidCallId callId = true := by
      cases made
      rfl
    exact ⟨created, rfl, created, created, trivial⟩
  exact ⟨possible, calls_in_range strayIdsBuild strayIds possible⟩

end Sip
end Pjsocky
