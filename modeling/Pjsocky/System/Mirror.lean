import Pjsocky.Server.Requests
import Pjsocky.System.View

/-!
# A client that follows the daemon

A client that remembers its requests can follow the daemon by what it reads from its socket: an
event is heard, and a message with an `id` answers the first request that is still unanswered. As
long as every write to it has succeeded, what it derives from that is what `status.get` would say.
-/

namespace Pjsocky

open Support StatusView

/-- What a line asks for, if it is a request: the command, or `none` if it names no command. -/
def requestOf (build : Build) (line : Bytes) : Option (Option CmdFn) :=
  (requestId build.lib line).map fun _ => (Daemon.executed build line).map Prod.fst

/-- A client: what it knows, and its requests that have not been answered. -/
structure Mirror where
  view : StatusView
  requests : List (Option CmdFn)

namespace Mirror

/-- The client reads a message. -/
def read (mirror : Mirror) (message : JsonElem) : Mirror :=
  match textOf (jsonFind message "event") with
  | some name =>
      { mirror with view := mirror.view.hear name (membersOf (jsonFind message "data")) }
  | none =>
      match mirror.requests with
      | [] => mirror
      | fn :: rest =>
          ⟨mirror.view.answered fn (flagOf (jsonFind message "ok") = some true)
            (membersOf (jsonFind message "result")), rest⟩

theorem read_event (mirror : Mirror) (lib : Pjlib) (event : Event) :
    mirror.read (event.message lib) =
      { mirror with view := mirror.view.hear event.name (event.data lib) } := rfl

/-- Nothing is learnt from the `result` of a command that failed. -/
theorem answered_failed (view : StatusView) (fn : Option CmdFn) (result other : Members) :
    view.answered fn false result = view.answered fn false other := by
  unfold StatusView.answered answeredAccId answeredRegistered answeredCallId
  rcases fn with none | fn
  · rfl
  · cases fn <;> rfl

/-- The answer to a command. -/
theorem read_responseFor (view : StatusView) (fn : Option CmdFn) (later : List (Option CmdFn))
    (lib : Pjlib) (id : Bytes) (outcome : HandlerResult) :
    read ⟨view, fn :: later⟩ (Daemon.responseFor lib id outcome) =
      ⟨view.answered fn (outcome.status = .success) outcome.result, later⟩ := by
  by_cases succeeded : outcome.status = .success
  · rw [Daemon.responseFor, if_neg (not_not.mpr succeeded), decide_eq_true succeeded]
    rfl
  · rw [Daemon.responseFor, if_pos succeeded, decide_eq_false succeeded,
      answered_failed view fn outcome.result []]
    rfl

end Mirror

/-- The answer to a request that names no command. -/
theorem Mirror.read_fail (view : StatusView) (fn : Option CmdFn) (later : List (Option CmdFn))
    (id code text : Bytes) :
    read ⟨view, fn :: later⟩ (fail id code text) = ⟨view.answered fn false [], later⟩ := rfl

/-! ## Lines and their answers -/

section Lines

variable {setup : Setup} {daemon : Daemon} {outcomes : Outcomes} {line : Bytes}

theorem requestId_eq_some {lib : Pjlib} {id : Bytes} : requestId lib line = some id ↔
    ∃ members size, lib.parse line = some (.obj members, size) ∧
      jsonFind (.obj members) "id" = some (.str id) := by
  constructor
  · intro isId
    unfold requestId messageId at isId
    split at isId
    · rename_i members size parsed
      split at isId
      · rename_i other identified
        obtain rfl := Option.some.inj isId
        exact ⟨members, size, parsed, identified⟩
      · cases isId
    · cases isId
  · rintro ⟨members, size, parsed, identified⟩
    simp only [requestId, messageId, parsed, identified]

/-- A line that reaches a handler is a request. -/
theorem executed_request {build : Build} {command : CmdFn × Option JsonElem}
    (runs : Daemon.executed build line = some command) :
    ∃ id, requestId build.lib line = some id := by
  unfold Daemon.executed at runs
  split at runs
  · rename_i members size parsed
    split at runs
    · rename_i id cmd identified named
      exact ⟨id, requestId_eq_some.mpr ⟨members, size, parsed, identified⟩⟩
    · cases runs
  · cases runs

/-- A line that is no request is rejected, and reaches no handler. -/
theorem reply_unrequested (no : requestOf setup.build line = none) :
    Daemon.executed setup.build line = none ∧
      setup.server.reply (daemon.dispatchLine setup.build outcomes line).1 =
        (.rejection, setup.server.unparseable) := by
  have without : requestId setup.build.lib line = none := Option.map_eq_none_iff.mp no
  refine ⟨?_, ?_⟩
  · cases runs : Daemon.executed setup.build line with
    | none => rfl
    | some command =>
        obtain ⟨id, isId⟩ := executed_request runs
        cases without.symm.trans isId
  · have unaddressed : ¬setup.build.lib.Addressed line := by
      rintro ⟨members, size, id, parsed, identified⟩
      cases without.symm.trans (requestId_eq_some.mpr ⟨members, size, parsed, identified⟩)
    rw [Daemon.dispatchLine, dispatchLine_unaddressed unaddressed]
    rfl

/-- A request that names no command is refused. -/
theorem reply_unknown (idle : Daemon.executed setup.build line = none) {fn : Option CmdFn}
    (isRequest : requestOf setup.build line = some fn) :
    fn = none ∧ ∃ id code text,
      setup.server.reply (daemon.dispatchLine setup.build outcomes line).1 =
        (.response, fail id code text) := by
  obtain ⟨id, isId, isFn⟩ := Option.map_eq_some_iff.mp isRequest
  obtain ⟨members, size, parsed, identified⟩ := requestId_eq_some.mp isId
  rw [idle] at isFn
  refine ⟨isFn.symm, id, ?_⟩
  simp only [Daemon.executed, parsed, identified] at idle
  simp only [Daemon.dispatchLine, Pjsocky.dispatchLine, parsed, identified]
  split
  · rename_i cmd named
    rw [named] at idle
    rw [Option.map_eq_none_iff.mp idle]
    exact ⟨_, _, rfl⟩
  · exact ⟨_, _, rfl⟩

theorem reply_executed {fn : CmdFn} {params : Option JsonElem}
    (runs : Daemon.executed setup.build line = some (fn, params)) :
    requestOf setup.build line = some (some fn) ∧ ∃ id,
      setup.server.reply (daemon.dispatchLine setup.build outcomes line).1 =
        (.response, Daemon.responseFor setup.build.lib id
          (daemon.runCmd setup.build outcomes params fn).1) := by
  obtain ⟨id, same⟩ := Daemon.dispatchLine_executed outcomes daemon runs
  obtain ⟨own, isId⟩ := executed_request runs
  refine ⟨?_, id, by rw [same]; rfl⟩
  rw [requestOf, runs, isId]
  rfl

end Lines

/-! ## Following the service -/

/-- The messages offered to a client. -/
def messagesTo (sock : Nat) (offers : List Offer) : List JsonElem :=
  (offers.filter fun offer => offer.sock = sock).map Offer.message

/-- The requests among the lines taken from a client. -/
def requestsFrom (build : Build) (sock : Nat) (taken : List (Nat × Bytes)) :
    List (Option CmdFn) :=
  taken.filterMap fun line => if line.1 = sock then requestOf build line.2 else none

/-- Where a client is that has sent the requests taken from it and has read the messages offered
to it, whatever requests it has sent besides. -/
def Follows (build : Build) (sock : Nat) (session : Session) (mirror : Mirror) : Prop :=
  ∀ later, (messagesTo sock session.offered).foldl Mirror.read
      ⟨.unknown, requestsFrom build sock session.taken ++ later⟩ =
    ⟨mirror.view, mirror.requests ++ later⟩

section Follows

variable {build : Build} {sock : Nat} {session : Session} {mirror next : Mirror}

/-- The client reads on. -/
theorem Follows.offer (follows : Follows build sock session mirror) {messages : List JsonElem}
    (reads : ∀ later, messages.foldl Mirror.read ⟨mirror.view, mirror.requests ++ later⟩ =
      ⟨next.view, next.requests ++ later⟩)
    (client : session.client = some sock) (origin : Origin) :
    Follows build sock (session.offer origin messages) next := by
  intro later
  have own : messagesTo sock (messages.map fun message => ⟨sock, origin, message⟩) = messages := by
    rw [messagesTo, List.filter_map, List.map_map]
    simp [Function.comp_def]
  rw [Session.offer_client_some client]
  dsimp only
  rw [messagesTo, List.filter_append, List.map_append, List.foldl_append, ← messagesTo,
    ← messagesTo, own, follows later]
  exact reads later

/-- The client sends a line. -/
theorem Follows.take (follows : Follows build sock session mirror)
    (client : session.client = some sock) (line : Bytes) :
    Follows build sock (session.take line)
      ⟨mirror.view, mirror.requests ++ (requestOf build line).toList⟩ := by
  intro later
  have all : requestsFrom build sock (session.take line).taken =
      requestsFrom build sock session.taken ++ (requestOf build line).toList := by
    rw [Session.take, client, requestsFrom, List.filterMap_append]
    cases isRequest : requestOf build line with
    | none => simp [requestsFrom, isRequest]
    | some fn => simp [requestsFrom, isRequest]
  rw [all, List.append_assoc, List.append_assoc]
  exact follows ((requestOf build line).toList ++ later)

/-- Nobody has sent or read anything yet. -/
theorem Follows.start (offered : ∀ offer ∈ session.offered, offer.sock ≠ sock)
    (taken : ∀ line ∈ session.taken, line.1 ≠ sock) :
    Follows build sock session ⟨.unknown, []⟩ := by
  intro later
  have unread : messagesTo sock session.offered = [] := by
    rw [messagesTo, List.map_eq_nil_iff, List.filter_eq_nil_iff]
    exact fun offer member isSock => offered offer member (of_decide_eq_true isSock)
  have unsent : requestsFrom build sock session.taken = [] :=
    List.filterMap_eq_nil_iff.mpr fun line member => if_neg (taken line member)
  rw [unread, unsent]
  rfl

/-- The client reads events. -/
theorem Mirror.foldl_events (lib : Pjlib) (events : List Event) (mirror : Mirror) :
    (events.map (Event.message lib)).foldl Mirror.read mirror =
      ⟨events.foldl (fun view event => view.hear event.name (event.data lib)) mirror.view,
        mirror.requests⟩ := by
  induction events generalizing mirror with
  | nil => rfl
  | cons event rest ih =>
      rw [List.map_cons, List.foldl_cons, Mirror.read_event, ih]
      rfl

end Follows

/-- The client knows what is so, once it has read the answer that it is owed, if it is owed one. -/
inductive Current (srv : Server) : Mirror → Option Offer → Daemon → Prop where
  | free {view : StatusView} {daemon : Daemon} (knows : view.Knows daemon) :
      Current srv ⟨view, []⟩ none daemon
  | rejected {view : StatusView} {daemon : Daemon} (knows : view.Knows daemon) (sock : Nat) :
      Current srv ⟨view, []⟩ (some ⟨sock, .rejection, srv.unparseable⟩) daemon
  | owing {view : StatusView} {fn : Option CmdFn} {ok : Bool} {result : Members}
      {message : JsonElem} {daemon : Daemon}
      (reads : ∀ view later,
        Mirror.read ⟨view, fn :: later⟩ message = ⟨view.answered fn ok result, later⟩)
      (owing : view.Owing fn ok result daemon) (sock : Nat) :
      Current srv ⟨view, [fn]⟩ (some ⟨sock, .response, message⟩) daemon

namespace Current

variable {setup : Setup} {mirror : Mirror} {owed : Option Offer} {sip : Sip} {input : SipInput}

theorem happen (current : Current setup.server mirror owed sip.daemon)
    (small : sip.daemon.SmallIds) (byPjsua : input.ByPjsua) (candid : input.Candid) :
    Current setup.server ⟨mirror.view.hears setup.build.lib input, mirror.requests⟩ owed
      (sip.step setup.build input).daemon := by
  cases current with
  | free knows => exact .free (Informed.happen ⟨knows, small⟩ byPjsua candid setup.build).knows
  | rejected knows sock =>
      exact .rejected (Informed.happen ⟨knows, small⟩ byPjsua candid setup.build).knows sock
  | owing reads owing sock =>
      exact .owing reads (owing.happen small byPjsua candid setup.build) sock

/-- The client sends a line that is carried out. -/
theorem ask {view : StatusView} (knows : view.Knows sip.daemon) (small : sip.daemon.SmallIds)
    {line : Bytes} {outcomes : Outcomes} (sock : Nat)
    (candid : (SipInput.line line outcomes).reaches setup.build = true →
      (SipInput.line line outcomes).Candid) :
    let reply := setup.server.reply (sip.daemon.dispatchLine setup.build outcomes line).1
    let after := (sip.step setup.build (.line line outcomes)).daemon
    Current setup.server ⟨view, (requestOf setup.build line).toList⟩
      (some ⟨sock, reply.1, reply.2⟩) after ∧ after.SmallIds := by
  intro reply after
  cases isRequest : requestOf setup.build line with
  | none =>
      obtain ⟨idle, rejected⟩ := @reply_unrequested setup sip.daemon outcomes line isRequest
      have still : after = sip.daemon := Daemon.dispatchLine_unexecuted idle
      rw [still, show reply = _ from rejected]
      exact ⟨.rejected knows sock, small⟩
  | some fn =>
      cases runs : Daemon.executed setup.build line with
      | none =>
          obtain ⟨rfl, id, code, text, refused⟩ :=
            @reply_unknown setup sip.daemon outcomes line runs fn isRequest
          have still : after = sip.daemon := Daemon.dispatchLine_unexecuted runs
          rw [still, show reply = _ from refused]
          refine ⟨.owing (fun view later => Mirror.read_fail view none later id code text)
            ⟨knows.answered ?_ ?_ [], ?_⟩ sock, small⟩
          · rintro cmd ⟨⟩
          · rintro ⟨⟩
          · rintro ⟨⟩
      | some command =>
          obtain ⟨cmd, params⟩ := command
          obtain ⟨isCmd, id, answered⟩ := @reply_executed setup sip.daemon outcomes line _ _ runs
          obtain rfl := Option.some.inj (isCmd.symm.trans isRequest)
          obtain ⟨owing, smallAfter⟩ := Informed.command ⟨knows, small⟩
            (candid (by rw [SipInput.reaches, runs]; rfl)) setup.build params cmd
          have ran : after = (sip.daemon.runCmd setup.build outcomes params cmd).2 :=
            Sip.step_executed runs
          rw [ran, show reply = _ from answered]
          exact ⟨.owing (fun view later => Mirror.read_responseFor view _ later _ id _) owing sock,
            smallAfter⟩

/-- The client reads the answer. -/
theorem answered (current : Current setup.server mirror owed sip.daemon) :
    ∃ next, (∀ later, (owed.toList.map Offer.message).foldl Mirror.read
        ⟨mirror.view, mirror.requests ++ later⟩ = ⟨next.view, next.requests ++ later⟩) ∧
      Current setup.server next none sip.daemon := by
  cases current with
  | free knows => exact ⟨_, fun later => rfl, .free knows⟩
  | rejected knows sock => exact ⟨_, fun later => rfl, .free knows⟩
  | @owing view fn ok result message _ reads owing sock =>
      exact ⟨⟨view.answered fn ok result, []⟩, reads view, .free owing.answered⟩

end Current

/-- The service's client has read what was offered to it, and knows what is so. -/
structure Informs (setup : Setup) (service : Service) : Prop where
  small : service.sip.daemon.SmallIds
  offered : ∀ offer ∈ service.session.offered, offer.sock < service.session.next
  taken : ∀ line ∈ service.session.taken, line.1 < service.session.next
  below : ∀ sock, service.session.client = some sock → sock < service.session.next
  owed : ∀ offer, service.owed = some offer → service.session.client = some offer.sock
  follows : ∀ sock, service.session.client = some sock → ∃ mirror,
    Follows setup.build sock service.session mirror ∧
      Current setup.server mirror service.owed service.sip.daemon

namespace Informs

variable {setup : Setup} {service after : Service} {input : SipInput}

theorem start (setup : Setup) : Informs setup .start where
  small := ⟨.invalid, .invalid⟩
  offered := List.forall_mem_nil _
  taken := List.forall_mem_nil _
  below _ alone := nomatch alone
  owed _ unowed := nomatch unowed
  follows _ alone := nomatch alone

/-- Messages are offered to the client, which reads them. -/
theorem offer (informs : Informs setup service) {origin : Origin} {messages : List JsonElem}
    (session : after.session = service.session.offer origin messages)
    (owed : after.owed = service.owed) (small : after.sip.daemon.SmallIds)
    (reads : ∀ mirror, Current setup.server mirror service.owed service.sip.daemon →
      ∃ next, (∀ later, messages.foldl Mirror.read ⟨mirror.view, mirror.requests ++ later⟩ =
          ⟨next.view, next.requests ++ later⟩) ∧
        Current setup.server next service.owed after.sip.daemon) : Informs setup after := by
  refine ⟨small, fun offer member => ?_, ?_, ?_, ?_, fun sock client => ?_⟩
  · rw [session] at member ⊢
    rcases List.mem_append.mp member with old | new
    · exact informs.offered offer old
    · obtain ⟨sock, isClient, inMessages⟩ := List.mem_flatMap.mp new
      obtain ⟨message, -, rfl⟩ := List.mem_map.mp inMessages
      exact informs.below sock (Option.mem_toList.mp isClient)
  · rw [session]
    exact informs.taken
  · rw [session]
    exact informs.below
  · rw [owed, session]
    exact informs.owed
  · rw [session] at client ⊢
    obtain ⟨mirror, follows, current⟩ := informs.follows sock client
    obtain ⟨next, reading, later⟩ := reads mirror current
    rw [owed]
    exact ⟨next, follows.offer reading client origin, later⟩

theorem happen (informs : Informs setup service) (byPjsua : input.ByPjsua)
    (candid : input.Candid) : Informs setup (service.happen setup input) := by
  have small : (service.sip.step setup.build input).daemon.SmallIds :=
    (Informed.happen ⟨unknown_knows _, informs.small⟩ byPjsua candid setup.build).small
  refine informs.offer rfl rfl small fun mirror current => ?_
  refine ⟨⟨mirror.view.hears setup.build.lib input, mirror.requests⟩, fun later => ?_,
    current.happen informs.small byPjsua candid⟩
  rw [Sip.events_eq]
  exact Mirror.foldl_events setup.build.lib input.announces _

/-- A message that tells the client nothing. -/
theorem aside (informs : Informs setup service) {origin : Origin} {message : JsonElem}
    (session : after.session = service.session.offer origin [message])
    (owed : after.owed = service.owed) (sip : after.sip = service.sip)
    (unheard : ∀ mirror : Mirror, mirror.read message = mirror) : Informs setup after := by
  refine informs.offer session owed (sip ▸ informs.small) fun mirror current => ?_
  exact ⟨mirror, fun later => unheard _, sip ▸ current⟩

theorem ask (informs : Informs setup service) {sock : Nat} (free : service.owed = none)
    (client : service.session.client = some sock) (line : Bytes) (outcomes : Outcomes)
    (candid : (SipInput.line line outcomes).reaches setup.build = true →
      (SipInput.line line outcomes).Candid) :
    Informs setup (service.ask setup sock line outcomes) := by
  obtain ⟨mirror, follows, current⟩ := informs.follows sock client
  rw [free] at current
  cases current with
  | @free view _ knows =>
      obtain ⟨asking, small⟩ := Current.ask knows informs.small sock candid
      refine ⟨small, informs.offered, fun taken member => ?_, informs.below, fun offer isOwed => ?_,
        fun other isClient => ?_⟩
      · have among : taken ∈ service.session.taken ++
            service.session.client.toList.map fun sock => (sock, line) := member
        rw [client] at among
        rcases List.mem_append.mp among with old | new
        · exact informs.taken taken old
        · rw [List.mem_singleton.mp new]
          exact informs.below sock client
      · obtain rfl := Option.some.inj isOwed
        exact client
      · obtain rfl := Option.some.inj (client.symm.trans isClient)
        exact ⟨_, follows.take client line, asking⟩

theorem answered (informs : Informs setup service) :
    Informs setup (service.step setup .answered) := by
  cases owed : service.owed with
  | none =>
      have same : service.step setup .answered = service := by
        obtain ⟨sip, course, session, unowed⟩ := service
        cases owed
        simp [Service.step]
      rw [same]
      exact informs
  | some offer =>
      obtain ⟨sock, origin, message⟩ := offer
      have client := informs.owed _ owed
      have session : (service.step setup .answered).session =
          service.session.offer origin [message] := by
        rw [Session.offer_client_some client, Service.step, owed]
        rfl
      refine ⟨informs.small, fun offer member => ?_, informs.taken, informs.below,
        fun other isOwed => ?_, fun other isClient => ?_⟩
      · rw [session, Session.offer_client_some client] at member
        rcases List.mem_append.mp member with old | new
        · exact informs.offered offer old
        · rw [List.mem_singleton.mp new]
          exact informs.below sock client
      · cases isOwed
      · obtain rfl := Option.some.inj (client.symm.trans isClient)
        obtain ⟨mirror, follows, current⟩ := informs.follows sock client
        obtain ⟨next, reads, later⟩ := current.answered
        rw [owed] at reads
        rw [session]
        exact ⟨next, follows.offer reads client origin, later⟩

theorem step (informs : Informs setup service) (input : ServiceInput)
    (candid : ∀ step ∈ (service.step setup input).course,
      step.reaches setup.build = true → step.Candid) :
    Informs setup (service.step setup input) := by
  cases input with
  | joins =>
      dsimp only [Service.step]
      split
      · rename_i alone
        have free : service.owed = none := by
          cases owed : service.owed with
          | none => rfl
          | some offer => cases alone.symm.trans (informs.owed offer owed)
        refine ⟨informs.small, fun offer member => Nat.lt_succ_of_lt (informs.offered offer member),
          fun line member => Nat.lt_succ_of_lt (informs.taken line member), ?_, ?_, ?_⟩
        · rintro sock ⟨⟩
          exact Nat.lt_succ_self _
        · intro offer isOwed
          cases free.symm.trans isOwed
        · rintro sock ⟨⟩
          refine ⟨⟨.unknown, []⟩, Follows.start (fun offer member => ?_) fun line member => ?_, ?_⟩
          · exact (informs.offered offer member).ne
          · exact (informs.taken line member).ne
          · rw [free]
            exact .free (unknown_knows _)
      · exact informs
  | passes =>
      exact ⟨informs.small, fun offer member => Nat.lt_succ_of_lt (informs.offered offer member),
        fun line member => Nat.lt_succ_of_lt (informs.taken line member),
        fun sock client => Nat.lt_succ_of_lt (informs.below sock client), informs.owed,
        informs.follows⟩
  | greeted => exact informs.aside rfl rfl rfl fun _ => rfl
  | leaves =>
      dsimp only [Service.step]
      split
      · rename_i free
        refine ⟨informs.small, informs.offered, informs.taken, (fun _ gone => nomatch gone),
          fun offer isOwed => ?_, fun _ gone => nomatch gone⟩
        cases free.symm.trans isOwed
      · exact informs
  | happens input byPjsua =>
      exact informs.happen byPjsua (candid input (by simp [Service.step, Service.happen,
        Service.advance]) (byPjsua.reaches setup.build))
  | asks line outcomes =>
      dsimp only [Service.step] at candid ⊢
      split
      · rename_i sock free client
        rw [free, client] at candid
        exact informs.ask free client line outcomes fun reaches =>
          candid _ (by simp [Service.ask, Service.advance]) reaches
      · exact informs
  | answered => exact informs.answered
  | overflows => exact informs.aside rfl rfl rfl fun _ => rfl

/-- In every run of the service whose steps are candid. -/
theorem run (setup : Setup) (inputs : List ServiceInput)
    (candid : ∀ step ∈ (Service.run setup .start inputs).course,
      step.reaches setup.build = true → step.Candid) :
    Informs setup (Service.run setup .start inputs) := by
  induction inputs using List.reverseRecOn with
  | nil => exact start setup
  | append_singleton before input ih =>
      rw [Service.run, Machine.run_append] at candid ⊢
      have grown := Service.course_grows setup (Service.run setup .start before) [input]
      exact (ih fun step member => candid step (grown.subset member)).step input candid

end Informs

/-! ## Following on the wire -/

namespace System

section Concrete

/-- The line of a client that dials. -/
def dialLine : Bytes := requestLine "call.dial" "\"uri\":\"sip:c@b\""

/-- An iteration in which the client's line comes; `before` comes between the handler and its
answer. -/
def asking (line : Bytes) (before : List Callback) : TurnEnv :=
  { TurnEnv.calm (.ready true false) (.received (line ++ [lineFeed])) with
    line := fun _ => ⟨[], .sample, before, .open⟩ }

end Concrete

end System

end Pjsocky
