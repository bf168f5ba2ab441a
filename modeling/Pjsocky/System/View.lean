import Pjsocky.System.Announce

/-!
# What a client learns

A client may start out knowing nothing of what `status.get` would say. Each event and each answer
tells it something. While a command is carried out and its answer is still to come, events come in
between: where such an event and the answer are about the same thing, the client cannot tell which
of them is the later, and relies on neither. What it knows after the answer is so
(`Informed.command`, `Owing.happen`).
-/

namespace Pjsocky

open Support

/-- What a client knows of the account, its registration and the tracked call, and whether events
have come about the latter two since the last answer. -/
structure StatusView where
  accId : Option Int
  registered : Option Bool
  callId : Option Int
  registeredHeard : Bool
  callHeard : Bool
deriving DecidableEq, Repr

namespace StatusView

/-- A client that has not heard anything. -/
def unknown : StatusView := ⟨none, none, none, false, false⟩

/-- An id as it is read from a message. -/
def idOf : Option JsonElem → Option Int
  | some (.num value) => some value.num
  | _ => none

/-- A flag as it is read from a message. -/
def flagOf : Option JsonElem → Option Bool
  | some (.bool value) => some value
  | _ => none

/-- A text as it is read from a message. -/
def textOf : Option JsonElem → Option Bytes
  | some (.str value) => some value
  | _ => none

/-- The members of an object in a message. -/
def membersOf : Option JsonElem → Members
  | some (.obj members) => members
  | _ => []

/-- The client gets an event with this name and `data`. -/
def hear (view : StatusView) (name : Bytes) (data : Members) : StatusView :=
  let find := jsonFind (.obj data)
  if name = ascii "reg_state" then
    { view with registered := flagOf (find "registered"), registeredHeard := true }
  else if name = ascii "incoming_call" then
    { view with callId := idOf (find "call_id"), callHeard := true }
  else if name = ascii "call_state" ∧ textOf (find "state") = some (ascii "DISCONNECTED") then
    { view with
      callId := if idOf (find "call_id") = view.callId then some invalidId else view.callId
      callHeard := true }
  else view

/-- The registration that the state of `status.get` stands for, if it does for one. -/
def registeredOf (state : Option Bytes) : Option Bool :=
  if state = some (ascii "registered") then some true
  else if state = some (ascii "registering") then some false
  else none

/-- The account after an answer that names this one. -/
def answeredAccId (fn : Option CmdFn) (ok : Bool) (given old : Option Int) : Option Int :=
  match fn, ok with
  | some .statusGet, true => given
  | some .accountConfigure, true => given
  | some .accountRemove, true => some invalidId
  | _, _ => old

/-- The registration after an answer with this `state`. When an event about it has come since the
last answer, it may have come before the command had its effect or after. -/
def answeredRegistered (fn : Option CmdFn) (ok heard : Bool) (state : Option Bytes)
    (old : Option Bool) : Option Bool :=
  match fn, ok with
  | some .statusGet, true => if heard then old else (registeredOf state).or old
  | some .accountConfigure, true => if heard then none else some false
  | _, _ => old

/-- The tracked call after an answer that names this one. -/
def answeredCallId (fn : Option CmdFn) (ok heard : Bool) (given old : Option Int) : Option Int :=
  match fn, ok with
  | some .statusGet, true => if heard then old else given
  | some .callDial, true => if heard then none else given
  | some .callDial, false => none
  | _, _ => old

/-- The client gets the answer to a command: `ok`, and `result` when it is true. -/
def answered (view : StatusView) (fn : Option CmdFn) (ok : Bool) (result : Members) : StatusView :=
  let find := jsonFind (.obj result)
  { accId := answeredAccId fn ok (idOf (find "acc_id")) view.accId
    registered := answeredRegistered fn ok view.registeredHeard (textOf (find "state"))
      view.registered
    callId := answeredCallId fn ok view.callHeard (idOf (find "call_id")) view.callId
    registeredHeard := false
    callHeard := false }

/-- The client gets the events that a step of the SIP side announces. -/
def hears (view : StatusView) (lib : Pjlib) (input : SipInput) : StatusView :=
  input.announces.foldl (fun view event => view.hear event.name (event.data lib)) view

/-- The state that `status.get` would give, if that is known. -/
def state (view : StatusView) : Option Bytes :=
  view.accId.bind fun accId =>
    if accId = invalidId then some (ascii "idle")
    else
      view.callId.bind fun callId =>
        if callId ≠ invalidId then some (ascii "in_call")
        else
          view.registered.map fun registered =>
            if registered then ascii "registered" else ascii "registering"

/-- What is known is so; without an account the flag means nothing. -/
structure Knows (view : StatusView) (daemon : Daemon) : Prop where
  accId : ∀ id, view.accId = some id → daemon.accId = id
  registered : ∀ flag, view.registered = some flag → daemon.accId ≠ invalidId →
    daemon.registered = flag
  callId : ∀ id, view.callId = some id → daemon.callId = id

end StatusView

/-- The events that a client learns from. -/
def Event.Concerns : Event → Prop
  | .regState .. | .incomingCall _ | .callState _ => True
  | _ => False

/-- An id that a `float` holds, as those of pjsua are, which number small tables. -/
def SmallId (id : Int) : Prop := id.natAbs < 2 ^ 24

/-- pjsua gives small ids, and in a callback about a call it tells of that call; the info of a
call that comes in can be read. -/
def SipInput.Candid : SipInput → Prop
  | .line _ outcomes => (∀ accId, outcomes.accAdd = .ok accId → SmallId accId) ∧
      ∀ callId, outcomes.makeCall = .created callId → SmallId callId
  | .incomingCall callId answers =>
      SmallId callId ∧ ∃ info, answers.info 0 = .ok info ∧ info.id = callId
  | .callState callId answers =>
      SmallId callId ∧ ∀ info, answers.info 0 = .ok info → info.id = callId
  | _ => True

section Decidable

variable {Value Error : Type} {property : Value → Prop} [DecidablePred property]

instance decidableOk (read : Except Error Value) :
    Decidable (∀ value, read = .ok value → property value) :=
  match read with
  | .ok value => decidable_of_iff (property value)
      ⟨fun holds _ same => Except.ok.inj same ▸ holds, fun holds => holds value rfl⟩
  | .error _ => isTrue fun _ failed => nomatch failed

instance decidableRead (read : Except Error Value) :
    Decidable (∃ value, read = .ok value ∧ property value) :=
  match read with
  | .ok value => decidable_of_iff (property value)
      ⟨fun holds => ⟨value, rfl, holds⟩, fun ⟨_, same, holds⟩ => Except.ok.inj same ▸ holds⟩
  | .error _ => isFalse fun ⟨_, failed, _⟩ => nomatch failed

instance decidableCreated (outcome : MakeCallOutcome) :
    Decidable (∀ callId, outcome = .created callId → SmallId callId) :=
  match outcome with
  | .created callId => decidable_of_iff (callId.natAbs < 2 ^ 24)
      ⟨fun small _ same => MakeCallOutcome.created.inj same ▸ small, fun small => small callId rfl⟩
  | .failed _ _ => isTrue fun _ failed => nomatch failed

instance decidableSmallId : DecidablePred SmallId :=
  fun id => inferInstanceAs (Decidable (id.natAbs < 2 ^ 24))

instance decidableCandid : DecidablePred SipInput.Candid
  | .line _ _ => inferInstanceAs (Decidable (_ ∧ _))
  | .incomingCall _ _ => inferInstanceAs (Decidable (_ ∧ _))
  | .callState _ _ => inferInstanceAs (Decidable (_ ∧ _))
  | .regState2 .. | .callMediaState .. | .callMediaEvent .. | .callRxOffer .. | .pager2 ..
  | .pagerStatus2 .. | .typing2 .. | .dequeue _ | .fire _ => isTrue trivial

end Decidable

/-- The ids in the daemon's globals are small. -/
structure Daemon.SmallIds (daemon : Daemon) : Prop where
  accId : SmallId daemon.accId
  callId : SmallId daemon.callId

theorem SmallId.invalid : SmallId invalidId := by
  unfold SmallId
  decide

namespace StatusView

variable {view : StatusView} {build : Build} {daemon : Daemon}

/-- A small id is read as it was sent. -/
theorem idOf_small {id : Int} (small : SmallId id) : idOf (some (.num (toFloat id))) = some id := by
  have exactly : toFloat id = id := if_pos small
  rw [idOf, exactly, Rat.num_intCast]

theorem unknown_knows (daemon : Daemon) : unknown.Knows daemon where
  accId _ known := nomatch known
  registered _ known := nomatch known
  callId _ known := nomatch known

/-! ## Events -/

theorem hear_incomingCall (lib : Pjlib) {info : CallInfo} (small : SmallId info.id) :
    view.hear (Event.incomingCall info).name ((Event.incomingCall info).data lib) =
      { view with callId := some info.id, callHeard := true } := by
  have read : idOf (jsonFind (.obj ((Event.incomingCall info).data lib)) "call_id") =
      some info.id := idOf_small small
  have name : (Event.incomingCall info).name = ascii "incoming_call" := rfl
  rw [hear, name, if_neg (by decide), if_pos rfl, read]

theorem textOf_callStateStr {state : InvState} :
    some (callStateStr state) = some (ascii "DISCONNECTED") ↔ state = .disconnected := by
  cases state <;> decide

theorem hear_callState (lib : Pjlib) {info : CallInfo} (small : SmallId info.id) :
    view.hear (Event.callState info).name ((Event.callState info).data lib) =
      if info.state = .disconnected then
        { view with
          callId := if some info.id = view.callId then some invalidId else view.callId
          callHeard := true }
      else view := by
  have read : idOf (jsonFind (.obj ((Event.callState info).data lib)) "call_id") =
      some info.id := idOf_small small
  have text : textOf (jsonFind (.obj ((Event.callState info).data lib)) "state") =
      some (callStateStr info.state) := rfl
  have name : (Event.callState info).name = ascii "call_state" := rfl
  rw [hear, name, if_neg (by decide), if_neg (by decide), read, text]
  exact if_congr ((and_iff_right rfl).trans textOf_callStateStr) rfl rfl

/-- Other events change nothing. -/
theorem hear_other (lib : Pjlib) {event : Event} (other : ¬event.Concerns) :
    view.hear event.name (event.data lib) = view := by
  cases event with
  | regState | incomingCall | callState => exact (other trivial).elim
  | _ => rfl

theorem hears_nil {input : SipInput} (silent : input.announces = []) (lib : Pjlib) :
    view.hears lib input = view := by
  rw [hears, silent]
  rfl

theorem hears_singleton {input : SipInput} {event : Event} (only : input.announces = [event])
    (lib : Pjlib) : view.hears lib input = view.hear event.name (event.data lib) := by
  rw [hears, only]
  rfl

end StatusView

open StatusView

/-- A step announces one event at most. -/
theorem SipInput.announces_cases (input : SipInput) :
    input.announces = [] ∨ ∃ event, input.announces = [event] := by
  have read (event : CallInfo → Event) (info : Except Failure CallInfo) :
      announced event info = [] ∨ ∃ other, announced event info = [other] := by
    cases info with
    | error => exact .inl rfl
    | ok info => exact .inr ⟨_, rfl⟩
  cases input with
  | regState2 accId renew info =>
      cases info with
      | error => exact .inl rfl
      | ok info => exact .inr ⟨_, rfl⟩
  | incomingCall _ answers => exact read _ _
  | callState _ answers => exact read _ _
  | callMediaState _ answers => exact read _ _
  | pager2 | pagerStatus2 | typing2 => exact .inr ⟨_, rfl⟩
  | line | callMediaEvent | callRxOffer | dequeue | fire => exact .inl rfl

namespace StatusView

variable {view : StatusView} {build : Build} {daemon : Daemon}

/-- The globals that a client knows about are as before. -/
structure Same (before after : Daemon) : Prop where
  accId : after.accId = before.accId
  registered : after.registered = before.registered
  callId : after.callId = before.callId

theorem Knows.same {after : Daemon} (knows : view.Knows daemon) (same : Same daemon after) :
    view.Knows after where
  accId id known := same.accId.trans (knows.accId id known)
  registered flag known account :=
    same.registered.trans (knows.registered flag known (same.accId ▸ account))
  callId id known := same.callId.trans (knows.callId id known)

end StatusView

theorem Daemon.SmallIds.same {before after : Daemon} (small : before.SmallIds)
    (same : Same before after) : after.SmallIds :=
  ⟨same.accId ▸ small.accId, same.callId ▸ small.callId⟩

namespace StatusView

variable {view : StatusView} {build : Build} {daemon : Daemon} {sip : Sip} {input : SipInput}

/-- The client knows what is so, and the ids are small. -/
structure Informed (view : StatusView) (daemon : Daemon) : Prop where
  knows : view.Knows daemon
  small : daemon.SmallIds

theorem Informed.same {after : Daemon} (informed : view.Informed daemon)
    (same : Same daemon after) : view.Informed after :=
  ⟨informed.knows.same same, informed.small.same same⟩

theorem Informed.regState (informed : view.Informed sip.daemon) (build : Build) (accId : AccId)
    (renew : Bool) (info : Except Failure AccInfo) :
    (view.hears build.lib (.regState2 accId renew info)).Informed
      (sip.step build (.regState2 accId renew info)).daemon := by
  cases info with
  | error status => exact informed.same ⟨rfl, rfl, rfl⟩
  | ok info =>
      exact ⟨⟨informed.knows.accId, fun _ known _ => Option.some.inj known,
        informed.knows.callId⟩, informed.small.accId, informed.small.callId⟩

theorem Informed.incomingCall (informed : view.Informed sip.daemon) (build : Build)
    {callId : CallId} {answers : Answers} (candid : (SipInput.incomingCall callId answers).Candid) :
    (view.hears build.lib (.incomingCall callId answers)).Informed
      (sip.step build (.incomingCall callId answers)).daemon := by
  obtain ⟨small, info, read, rfl⟩ := candid
  have speaks := Daemon.onIncomingCall_speaks answers info.id sip.daemon
  have tracked : (sip.daemon.onIncomingCall answers info.id).callId = info.id :=
    (Daemon.onIncomingCall_keeps answers info.id sip.daemon).tracked
  have only : (SipInput.incomingCall info.id answers).announces = [.incomingCall info] := by
    rw [SipInput.announces, read]
    rfl
  rw [hears_singleton only, hear_incomingCall build.lib small]
  refine ⟨⟨fun id known => ?_, fun flag known account => ?_, fun id known => ?_⟩, ?_, ?_⟩
  · exact speaks.accId.trans (informed.knows.accId id known)
  · exact speaks.registered.trans (informed.knows.registered flag known (speaks.accId ▸ account))
  · exact tracked.trans (Option.some.inj known)
  · exact speaks.accId ▸ informed.small.accId
  · exact tracked.symm ▸ small

theorem Informed.callState (informed : view.Informed sip.daemon) (build : Build)
    {callId : CallId} {answers : Answers} (candid : (SipInput.callState callId answers).Candid) :
    (view.hears build.lib (.callState callId answers)).Informed
      (sip.step build (.callState callId answers)).daemon := by
  obtain ⟨small, tells⟩ := candid
  have speaks := Daemon.onCallState_speaks answers callId sip.daemon
  have goesOn (same : (sip.daemon.onCallState answers callId).callId = sip.daemon.callId) :
      Same sip.daemon (sip.daemon.onCallState answers callId) :=
    ⟨speaks.accId, speaks.registered, same⟩
  cases read : answers.info 0 with
  | error status =>
      have silent : (SipInput.callState callId answers).announces = [] := by
        rw [SipInput.announces, read]
        rfl
      rw [hears_nil silent]
      refine informed.same (goesOn (Daemon.onCallState_keeps callId fun info again => ?_).tracked)
      rw [read] at again
      cases again
  | ok info =>
      have isCall := tells info read
      subst isCall
      have only : (SipInput.callState info.id answers).announces = [.callState info] := by
        rw [SipInput.announces, read]
        rfl
      rw [hears_singleton only, hear_callState build.lib small]
      by_cases ended : info.state = .disconnected
      · have tracked := @Daemon.onCallState_ended_tracked sip.daemon answers info info.id read ended
        rw [if_pos ended]
        refine ⟨⟨fun id known => speaks.accId.trans (informed.knows.accId id known),
          fun flag known account => ?_, fun id known => ?_⟩,
          speaks.accId ▸ informed.small.accId, ?_⟩
        · exact speaks.registered.trans
            (informed.knows.registered flag known (speaks.accId ▸ account))
        · refine tracked.trans ?_
          dsimp only at known
          split at known
          · rename_i isKnown
            rw [if_pos (informed.knows.callId _ isKnown.symm).symm]
            exact Option.some.inj known
          · rename_i other
            have same := informed.knows.callId id known
            rw [if_neg fun isTracked => other (by rw [known, ← same, isTracked]), same]
        · rw [Sip.step, Sip.set]
          refine tracked.symm ▸ ?_
          split
          · exact .invalid
          · exact informed.small.callId
      · rw [if_neg ended]
        have keeps := @Daemon.onCallState_keeps sip.daemon answers info.id fun other again => by
          rw [← Except.ok.inj (read.symm.trans again)]
          exact ended
        exact informed.same (goesOn keeps.tracked)

/-- The callbacks that have nothing to do with the status. -/
theorem Informed.unconcerned (informed : view.Informed sip.daemon) (input : SipInput)
    (callback : input.IsCallback) (build : Build)
    (others : ∀ event ∈ input.announces, ¬event.Concerns)
    (callId : (sip.step build input).daemon.callId = sip.daemon.callId) :
    (view.hears build.lib input).Informed (sip.step build input).daemon := by
  have speaks := @Sip.step_speaks build sip input callback
  have unheard : view.hears build.lib input = view := by
    obtain silent | ⟨event, only⟩ := input.announces_cases
    · exact hears_nil silent build.lib
    · rw [hears_singleton only]
      exact hear_other build.lib (others event (only ▸ List.mem_singleton_self event))
  rw [unheard]
  exact informed.same ⟨speaks.accId, speaks.registered, callId⟩

/-- After what pjsua does by itself, and the events of that. -/
theorem Informed.happen (informed : view.Informed sip.daemon) (byPjsua : input.ByPjsua)
    (candid : input.Candid) (build : Build) :
    (view.hears build.lib input).Informed (sip.step build input).daemon := by
  cases input with
  | line => exact byPjsua.elim
  | regState2 accId renew info => exact informed.regState build accId renew info
  | incomingCall callId answers => exact informed.incomingCall build candid
  | callState callId answers => exact informed.callState build candid
  | callMediaState callId answers =>
      refine informed.unconcerned (.callMediaState callId answers) trivial build
        (fun event member => ?_)
        (Daemon.onCallMediaState_keeps answers callId sip.daemon).tracked
      cases read : answers.info 0 with
      | error status =>
          rw [SipInput.announces, read] at member
          cases member
      | ok info =>
          rw [SipInput.announces, read] at member
          rw [List.mem_singleton.mp member]
          exact id
  | callMediaEvent callId medIdx event =>
      exact informed.unconcerned (.callMediaEvent callId medIdx event) trivial build
        (List.forall_mem_nil _) (Daemon.onCallMediaEvent_tracked callId medIdx event sip.daemon)
  | pager2 | pagerStatus2 | typing2 =>
      refine informed.unconcerned _ ?_ build (List.forall_mem_singleton.mpr id) rfl
      trivial
  | callRxOffer | dequeue =>
      refine informed.unconcerned _ ?_ build (List.forall_mem_nil _) rfl
      trivial
  | fire answers =>
      refine informed.unconcerned (.fire answers) trivial build (List.forall_mem_nil _) ?_
      obtain ⟨daemon, pending⟩ := sip
      cases pending with
      | none => rfl
      | some name =>
          cases name with
          | ring => exact (Daemon.ringTimerCb_keeps answers daemon).tracked
          | watchdog => exact Daemon.videoWatchdogCb_tracked build.calls answers daemon
          | report => exact (Daemon.mediaReportCb_keeps build.calls answers daemon).tracked

/-! ## Answers -/

/-- The command has been carried out and its answer is still to come: after it the client knows
what is so. What `status.get` leaves alone the client knows before. -/
structure Owing (view : StatusView) (fn : Option CmdFn) (ok : Bool) (result : Members)
    (daemon : Daemon) : Prop where
  answered : (view.answered fn ok result).Knows daemon
  asked : fn = some .statusGet → view.Knows daemon

section Heard

variable {fn : Option CmdFn} {ok : Bool} {result : Members} {name : Bytes} {data : Members}

/-- An event tells of the registration, or of a call that comes in, or of one that has ended, or
of nothing. -/
theorem hear_cases (name : Bytes) (data : Members) :
    (∃ flag, ∀ view : StatusView,
      view.hear name data = { view with registered := flag, registeredHeard := true }) ∨
    (∃ id, ∀ view : StatusView,
      view.hear name data = { view with callId := id, callHeard := true }) ∨
    (∃ id, ∀ view : StatusView, view.hear name data =
      { view with
        callId := if id = view.callId then some invalidId else view.callId
        callHeard := true }) ∨
    ∀ view : StatusView, view.hear name data = view := by
  by_cases isRegState : name = ascii "reg_state"
  · exact .inl ⟨_, fun view => if_pos isRegState⟩
  by_cases isCall : name = ascii "incoming_call"
  · exact .inr (.inl ⟨_, fun view => (if_neg isRegState).trans (if_pos isCall)⟩)
  by_cases ended : name = ascii "call_state" ∧
      textOf (jsonFind (.obj data) "state") = some (ascii "DISCONNECTED")
  · refine .inr (.inr (.inl ⟨idOf (jsonFind (.obj data) "call_id"), fun view => ?_⟩))
    exact ((if_neg isRegState).trans (if_neg isCall)).trans (if_pos ended)
  · refine .inr (.inr (.inr fun view => ?_))
    exact ((if_neg isRegState).trans (if_neg isCall)).trans (if_neg ended)

/-- An answer that follows an event tells no more than one that comes before it. -/
theorem hear_answered_registered {flag : Bool}
    (known : ((view.hear name data).answered fn ok result).registered = some flag) :
    ((view.answered fn ok result).hear name data).registered = some flag := by
  obtain ⟨told, heard⟩ | ⟨_, heard⟩ | ⟨_, heard⟩ | heard := hear_cases name data
  · rw [heard] at known ⊢
    dsimp only [answered, answeredRegistered] at known
    split at known
    · exact known
    · cases known
    · exact known
  · rw [heard] at known ⊢
    exact known
  · rw [heard] at known ⊢
    exact known
  · rw [heard] at known ⊢
    exact known

theorem hear_answered_accId :
    ((view.hear name data).answered fn ok result).accId =
      ((view.answered fn ok result).hear name data).accId := by
  obtain ⟨_, heard⟩ | ⟨_, heard⟩ | ⟨_, heard⟩ | heard := hear_cases name data
  · rw [heard, heard]
    rfl
  · rw [heard, heard]
    rfl
  · rw [heard, heard]
    rfl
  · rw [heard, heard]

/-- Unless the answer is one of `status.get`, which leaves what the event told. -/
theorem hear_answered_callId {id : Int}
    (known : ((view.hear name data).answered fn ok result).callId = some id) :
    ((view.answered fn ok result).hear name data).callId = some id ∨
      fn = some .statusGet ∧ (view.hear name data).callId = some id := by
  obtain ⟨_, heard⟩ | ⟨_, heard⟩ | ⟨_, heard⟩ | heard := hear_cases name data
  · rw [heard] at known ⊢
    exact .inl known
  · rw [heard] at known ⊢
    dsimp only [answered, answeredCallId] at known
    split at known
    · exact .inl known
    · cases known
    · cases known
    · exact .inl known
  · rw [heard] at known ⊢
    rw [heard]
    dsimp only [answered, answeredCallId] at known ⊢
    split at known
    · exact .inr ⟨rfl, known⟩
    · cases known
    · cases known
    · exact .inl known
  · rw [heard] at known ⊢
    exact .inl known

end Heard

/-- What is owed stays so while pjsua does something by itself. -/
theorem Owing.happen {fn : Option CmdFn} {ok : Bool} {result : Members}
    (owing : view.Owing fn ok result sip.daemon) (small : sip.daemon.SmallIds)
    (byPjsua : input.ByPjsua) (candid : input.Candid) (build : Build) :
    (view.hears build.lib input).Owing fn ok result (sip.step build input).daemon := by
  have later := (Informed.happen ⟨owing.answered, small⟩ byPjsua candid build).knows
  have asked (isStatus : fn = some .statusGet) :=
    (Informed.happen ⟨owing.asked isStatus, small⟩ byPjsua candid build).knows
  refine ⟨?_, asked⟩
  obtain silent | ⟨event, only⟩ := input.announces_cases
  · rw [hears_nil silent] at later ⊢
    exact later
  · rw [hears_singleton only] at later asked ⊢
    refine ⟨fun id known => ?_, fun flag known => ?_, fun id known => ?_⟩
    · exact later.accId id (hear_answered_accId ▸ known)
    · exact later.registered flag (hear_answered_registered known)
    · obtain same | ⟨isStatus, same⟩ := hear_answered_callId known
      · exact later.callId id same
      · exact (asked isStatus).callId id same

/-! ## Commands -/

theorem registeredOf_state {callId : CallId} {registered flag : Bool}
    (given : registeredOf (some (if callId ≠ invalidId then ascii "in_call"
      else if registered then ascii "registered" else ascii "registering")) = some flag) :
    registered = flag := by
  split at given
  · cases given
  · cases registered with
    | true => exact Option.some.inj given
    | false => exact Option.some.inj given

theorem Knows.statusGet (knows : view.Knows daemon) (small : daemon.SmallIds)
    (outcomes : Outcomes) (succeeded : (daemon.cmdStatusGet outcomes).1.status = .success) :
    (view.answered (some .statusGet) true (daemon.cmdStatusGet outcomes).1.result).Knows
      daemon := by
  have ids (state : Bytes) (accId regStatus : Int) (isAccId : accId = daemon.accId)
      (flag : ∀ flag, registeredOf (some state) = some flag → daemon.accId ≠ invalidId →
        daemon.registered = flag) :
      (view.answered (some .statusGet) true
        (statusMembers state accId regStatus daemon.callId)).Knows daemon := by
    have first : idOf (jsonFind (.obj (statusMembers state accId regStatus daemon.callId))
        "acc_id") = some daemon.accId := by
      subst isAccId
      exact idOf_small small.accId
    have second : idOf (jsonFind (.obj (statusMembers state accId regStatus daemon.callId))
        "call_id") = some daemon.callId := idOf_small small.callId
    have text : textOf (jsonFind (.obj (statusMembers state accId regStatus daemon.callId))
        "state") = some state := rfl
    rw [answered, first, second, text]
    refine ⟨fun _ => Option.some.inj, fun value known account => ?_, fun id known => ?_⟩
    · dsimp only [answeredRegistered] at known
      split at known
      · exact knows.registered value known account
      · obtain told | ⟨-, old⟩ := Option.or_eq_some_iff.mp known
        · exact flag value told account
        · exact knows.registered value old account
    · dsimp only [answeredCallId] at known
      split at known
      · exact knows.callId id known
      · exact Option.some.inj known
  unfold Daemon.cmdStatusGet at succeeded ⊢
  split
  · rename_i unconfigured
    refine ids _ _ _ unconfigured.symm fun flag told account => ?_
    exact (account unconfigured).elim
  · rename_i account
    rw [if_neg account] at succeeded
    dsimp only at succeeded ⊢
    split
    · rename_i status read
      rw [read] at succeeded
      exact (status.2 succeeded).elim
    · exact ids _ _ _ rfl fun flag told _ => registeredOf_state told

/-- What is owed after a command, in the state that it leaves. -/
def KnowsAnswer (view : StatusView) (fn : CmdFn) (result : HandlerResult × Daemon) : Prop :=
  (view.answered (some fn) (result.1.status = .success) result.1.result).Knows result.2 ∧
    result.2.SmallIds

variable {outcomes : Outcomes} {params : Option JsonElem}

theorem Knows.configure (knows : view.Knows daemon) (small : daemon.SmallIds)
    (given : ∀ accId, outcomes.accAdd = .ok accId → SmallId accId) (build : Build)
    (params : Option JsonElem) :
    view.KnowsAnswer .accountConfigure (daemon.cmdAccountConfigure outcomes params) := by
  have refused (status : Status) (failed : status ≠ .success) {after : Daemon}
      (holds : view.Knows after ∧ after.SmallIds) :
      view.KnowsAnswer .accountConfigure (.bare status, after) := by
    rw [KnowsAnswer, HandlerResult.bare, decide_eq_false failed]
    exact ⟨⟨holds.1.accId, holds.1.registered, holds.1.callId⟩, holds.2⟩
  unfold Daemon.cmdAccountConfigure
  split
  · rename_i sipUri registrarUri username password _ _ _ _
    dsimp only
    obtain same | ⟨unconfigured, asked, ⟨added, rfl, -⟩,
        ⟨config, accId, accepted, same⟩ | ⟨config, status, -, same⟩⟩ :=
      Daemon.accountConfigure_cases build.calls outcomes daemon sipUri registrarUri username
        password ((getStringMember params "realm").getD (ascii "*"))
    · rw [same]
      exact refused .eexists (by decide) ⟨knows, small⟩
    · rw [same]
      have fits := given accId accepted
      have read : idOf (jsonFind (.obj [addNumber "acc_id" accId]) "acc_id") = some accId :=
        idOf_small fits
      refine ⟨⟨fun id known => ?_, fun flag known _ => ?_, knows.callId⟩, ⟨fits, small.callId⟩⟩
      · exact Option.some.inj (read.symm.trans known)
      · have unheard : (if view.registeredHeard then none else some false) = some flag := known
        split at unheard
        · cases unheard
        · exact Option.some.inj unheard
    · rw [same]
      refine refused status status.2 ⟨⟨knows.accId, ?_, knows.callId⟩, small.accId, small.callId⟩
      intro flag _ account
      exact (account unconfigured).elim
  · exact refused .einval (by decide) ⟨knows, small⟩

theorem Knows.remove (knows : view.Knows daemon) (small : daemon.SmallIds) (outcomes : Outcomes) :
    view.KnowsAnswer .accountRemove (daemon.cmdAccountRemove outcomes) := by
  have refused (status : Status) (failed : status ≠ .success) {after : Daemon}
      (same : Same daemon after) :
      view.KnowsAnswer .accountRemove (.bare status, after) := by
    have still := knows.same same
    rw [KnowsAnswer, HandlerResult.bare, decide_eq_false failed]
    exact ⟨⟨still.accId, still.registered, still.callId⟩, small.same same⟩
  unfold Daemon.cmdAccountRemove Daemon.accountRemove Daemon.bareCmd
  split
  · exact refused .einvalidop (by decide) ⟨rfl, rfl, rfl⟩
  · split
    · exact refused .einvalidop (by decide) ⟨rfl, rfl, rfl⟩
    · dsimp only
      split
      · rename_i failed
        exact refused outcomes.status failed ⟨rfl, rfl, rfl⟩
      · refine ⟨⟨fun _ => Option.some.inj, ?_, knows.callId⟩, .invalid, small.callId⟩
        intro flag _ account
        exact (account rfl).elim

theorem Knows.dial (knows : view.Knows daemon) (small : daemon.SmallIds)
    (given : ∀ callId, outcomes.makeCall = .created callId → SmallId callId) (build : Build)
    (params : Option JsonElem) :
    view.KnowsAnswer .callDial (daemon.cmdCallDial build outcomes params) := by
  have refused (status : Status) (failed : status ≠ .success) {after : Daemon}
      (accId : after.accId = daemon.accId) (registered : after.registered = daemon.registered)
      (callId : SmallId after.callId) :
      view.KnowsAnswer .callDial (.bare status, after) := by
    rw [KnowsAnswer, HandlerResult.bare, decide_eq_false failed]
    refine ⟨⟨fun id known => accId.trans (knows.accId id known), fun flag known account => ?_,
      fun _ unknown => nomatch unknown⟩, accId ▸ small.accId, callId⟩
    exact registered.trans (knows.registered flag known (accId ▸ account))
  unfold Daemon.cmdCallDial
  split
  · exact refused .einval (by decide) rfl rfl small.callId
  · rename_i uri _
    dsimp only
    by_cases idle : daemon.accId = invalidId ∨ daemon.registered = false
    · rw [Daemon.dial_refused idle]
      exact refused .einvalidop (by decide) rfl rfl small.callId
    · obtain ⟨account, registered⟩ := not_or.mp idle
      rw [Bool.not_eq_false] at registered
      cases outcome : outcomes.makeCall with
      | failed status written =>
          rw [Daemon.dial_failed account registered]
          exact refused status status.2 rfl rfl .invalid
      | created callId =>
          rw [Daemon.dial_created account registered]
          have fits := given callId outcome
          have read : idOf (jsonFind (.obj [addNumber "call_id" callId]) "call_id") =
              some callId := idOf_small fits
          refine ⟨⟨knows.accId, knows.registered, fun id known => ?_⟩, small.accId, fits⟩
          have unheard : (if view.callHeard then none
              else idOf (jsonFind (.obj [addNumber "call_id" callId]) "call_id")) = some id := known
          split at unheard
          · cases unheard
          · exact Option.some.inj (read.symm.trans unheard)

end StatusView

/-- The commands that change what a client knows about. -/
def CmdFn.Moves (fn : CmdFn) : Prop :=
  fn = .accountConfigure ∨ fn = .accountRemove ∨ fn = .callDial

/-- The other commands do not. -/
theorem CmdStep.same {build : Build} {outcomes : Outcomes} {params : Option JsonElem}
    {before after : Daemon} {fn : CmdFn} {status : Status}
    (step : CmdStep build outcomes params before fn status after) (still : ¬fn.Moves) :
    Same before after := by
  cases step with
  | plain logs | selected _ logs =>
      obtain ⟨added, rfl, -⟩ := logs
      exact ⟨rfl, rfl, rfl⟩
  | answers _ _ logs =>
      obtain ⟨added, rfl, -⟩ := logs
      exact ⟨rfl, rfl, rfl⟩
  | configured | notConfigured => exact (still (.inl rfl)).elim
  | removed => exact (still (.inr (.inl rfl))).elim
  | dialled => exact (still (.inr (.inr rfl))).elim
  | limited | hangsUp | hangsUpAll => exact ⟨rfl, rfl, rfl⟩

namespace StatusView

variable {view : StatusView} {build : Build} {daemon : Daemon} {outcomes : Outcomes}
  {params : Option JsonElem}

/-- An answer to any other request tells nothing. -/
theorem Knows.answered (knows : view.Knows daemon) {fn : Option CmdFn} {ok : Bool}
    (still : ∀ cmd, fn = some cmd → ¬cmd.Moves) (unasked : fn = some .statusGet → ok = false)
    (result : Members) : (view.answered fn ok result).Knows daemon := by
  refine ⟨fun id known => knows.accId id ?_, fun flag known => knows.registered flag ?_,
    fun id known => knows.callId id ?_⟩
  · dsimp only [StatusView.answered, answeredAccId] at known
    split at known
    · cases unasked rfl
    · exact (still _ rfl (.inl rfl)).elim
    · exact (still _ rfl (.inr (.inl rfl))).elim
    · exact known
  · dsimp only [StatusView.answered, answeredRegistered] at known
    split at known
    · cases unasked rfl
    · exact (still _ rfl (.inl rfl)).elim
    · exact known
  · dsimp only [StatusView.answered, answeredCallId] at known
    split at known
    · cases unasked rfl
    · exact (still _ rfl (.inr (.inr rfl))).elim
    · exact (still _ rfl (.inr (.inr rfl))).elim
    · exact known

/-- After every command the client is owed an answer that tells what is so. -/
theorem Informed.command (informed : view.Informed daemon) {text : Bytes}
    (candid : (SipInput.line text outcomes).Candid) (build : Build) (params : Option JsonElem)
    (fn : CmdFn) :
    let after := daemon.runCmd build outcomes params fn
    view.Owing (some fn) (after.1.status = .success) after.1.result after.2 ∧
      after.2.SmallIds := by
  intro after
  by_cases moves : fn.Moves
  · have known : view.KnowsAnswer fn after := by
      obtain rfl | rfl | rfl := moves
      · exact informed.knows.configure informed.small candid.1 build params
      · exact informed.knows.remove informed.small outcomes
      · exact informed.knows.dial informed.small candid.2 build params
    refine ⟨⟨known.1, ?_⟩, known.2⟩
    rintro ⟨⟩
    obtain ⟨⟨⟩⟩ | ⟨⟨⟩⟩ | ⟨⟨⟩⟩ := moves
  · have same := (Daemon.runCmd_step build outcomes params daemon fn).same moves
    have later := informed.same same
    refine ⟨⟨?_, fun _ => later.knows⟩, later.small⟩
    by_cases reports : fn = .statusGet ∧ after.1.status = .success
    · obtain ⟨rfl, succeeded⟩ := reports
      rw [decide_eq_true succeeded]
      exact (informed.knows.statusGet informed.small outcomes succeeded).same same
    · refine later.knows.answered (fun cmd isCmd => Option.some.inj isCmd ▸ moves) ?_ _
      exact fun isStatus => decide_eq_false fun succeeded =>
        reports ⟨Option.some.inj isStatus, succeeded⟩

/-- What is known of the state is what `status.get` says. -/
theorem Knows.state (knows : view.Knows daemon) {outcomes : Outcomes} {text : Bytes}
    (known : view.state = some text)
    (succeeded : (daemon.cmdStatusGet outcomes).1.status = .success) :
    jsonFind (.obj (daemon.cmdStatusGet outcomes).1.result) "state" = some (.str text) := by
  obtain ⟨accId, isAccId, known⟩ := Option.bind_eq_some_iff.mp known
  have account := knows.accId accId isAccId
  subst account
  unfold Daemon.cmdStatusGet at succeeded ⊢
  by_cases unconfigured : daemon.accId = invalidId
  · rw [if_pos unconfigured] at known ⊢
    rw [← Option.some.inj known]
    rfl
  · rw [if_neg unconfigured] at known succeeded ⊢
    obtain ⟨callId, isCallId, known⟩ := Option.bind_eq_some_iff.mp known
    have tracked := knows.callId callId isCallId
    subst tracked
    dsimp only at succeeded ⊢
    split
    · rename_i status read
      rw [read] at succeeded
      exact (status.2 succeeded).elim
    · by_cases inCall : daemon.callId ≠ invalidId
      · rw [if_pos inCall] at known
        rw [← Option.some.inj known, if_pos inCall]
        rfl
      · rw [if_neg inCall] at known
        obtain ⟨registered, isRegistered, known⟩ := Option.map_eq_some_iff.mp known
        rw [← known, ← knows.registered registered isRegistered unconfigured, if_neg inCall]
        rfl

end StatusView
end Pjsocky
