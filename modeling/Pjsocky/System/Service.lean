import Pjsocky.Server.Session
import Pjsocky.Support.Simulation
import Pjsocky.System.Model

/-!
# What the daemon is for

`Service` says what the daemon does for its clients, without sockets, locks, buffers or
writes: one client at a time is offered what the SIP side reports, and each of its lines is
answered with what the SIP side makes of it, before the next one is taken. Whether a message
that is offered goes out is not its concern.
-/

namespace Pjsocky

open Support

/-- The event that an action pushes. -/
def Action.pushed : Action → Option Event
  | .push event => some event
  | _ => none

namespace Sip

/-- The events that a step pushes. -/
def events (build : Build) (sip : Sip) (input : SipInput) : List Event :=
  (sip.requests build input).filterMap Action.pushed

/-- What the lines of a course are answered with, when the steps are taken one after the
other. -/
def answers (setup : Setup) (sip : Sip) : List SipInput → List (Origin × JsonElem)
  | [] => []
  | .line line outcomes :: rest =>
      setup.server.reply (sip.daemon.dispatchLine setup.build outcomes line).1 ::
        answers setup (sip.step setup.build (.line line outcomes)) rest
  | input :: rest => answers setup (sip.step setup.build input) rest

end Sip

/-- Whether a step does anything: a line does when it reaches a handler. -/
def SipInput.reaches (build : Build) : SipInput → Bool
  | .line text _ => (Daemon.executed build text).isSome
  | _ => true

/-- The line of a step. -/
def SipInput.asked : SipInput → Option Bytes
  | .line text _ => some text
  | _ => none

theorem SipInput.ByPjsua.reaches {input : SipInput} (byPjsua : input.ByPjsua) (build : Build) :
    input.reaches build = true := by
  cases input with
  | line => exact byPjsua.elim
  | _ => rfl

theorem SipInput.ByPjsua.asked {input : SipInput} (byPjsua : input.ByPjsua) :
    input.asked = none := by
  cases input with
  | line => exact byPjsua.elim
  | _ => rfl

/-- The messages that answer lines. -/
def Offer.isReply (offer : Offer) : Bool :=
  offer.origin = .response || offer.origin = .rejection

structure Service where
  sip : Sip
  /-- The lines, callbacks and expiries that have led to it. -/
  course : List SipInput
  session : Session
  /-- The answer to the last line, while it has not been given. -/
  owed : Option Offer

/-- What happens to the service. -/
inductive ServiceInput where
  /-- The next client comes and is served. -/
  | joins
  /-- The next client comes and is turned away. -/
  | passes
  | greeted
  | leaves
  | happens (input : SipInput) (byPjsua : input.ByPjsua)
  | asks (line : Bytes) (outcomes : Outcomes)
  | answered
  /-- The client's line is too long. -/
  | overflows

namespace Service

variable (setup : Setup)

/-- A step of the SIP side. -/
def advance (service : Service) (input : SipInput) : Service :=
  { service with
    sip := service.sip.step setup.build input
    course := service.course ++ [input] }

/-- A callback or an expiry: the events are offered to the client. -/
def happen (service : Service) (input : SipInput) : Service :=
  { service.advance setup input with
    session := service.session.offer .callback
      ((service.sip.events setup.build input).map (Event.message setup.build.lib)) }

/-- A line of the client, which is owed the answer. -/
def ask (service : Service) (sock : Nat) (line : Bytes) (outcomes : Outcomes) : Service :=
  let reply := setup.server.reply (service.sip.daemon.dispatchLine setup.build outcomes line).1
  { service.advance setup (.line line outcomes) with
    session := service.session.take line
    owed := some ⟨sock, reply.1, reply.2⟩ }

def step (service : Service) : ServiceInput → Service
  | .joins =>
      if service.session.client = none then { service with session := service.session.join }
      else service
  | .passes => { service with session := service.session.pass }
  | .greeted =>
      { service with
        session := service.session.offer .hello [Event.hello.message setup.build.lib] }
  | .leaves =>
      if service.owed = none then { service with session := service.session.leave } else service
  | .happens input _ => service.happen setup input
  | .asks line outcomes =>
      match service.owed, service.session.client with
      | none, some sock => service.ask setup sock line outcomes
      | _, _ => service
  | .answered =>
      { service with
        session :=
          { service.session with offered := service.session.offered ++ service.owed.toList }
        owed := none }
  | .overflows =>
      { service with session := service.session.offer .oversized [setup.server.tooLong] }

def start : Service := ⟨.start, [], .start, none⟩

abbrev run : Service → List ServiceInput → Service := Machine.run (step setup)

variable {setup} {service : Service}

theorem step_joins (alone : service.session.client = none) :
    service.step setup .joins = { service with session := service.session.join } := if_pos alone

theorem step_leaves (free : service.owed = none) :
    service.step setup .leaves = { service with session := service.session.leave } := if_pos free

theorem step_asks {sock : Nat} (free : service.owed = none)
    (client : service.session.client = some sock) (line : Bytes) (outcomes : Outcomes) :
    service.step setup (.asks line outcomes) = service.ask setup sock line outcomes := by
  simp only [step, free, client]

/-- What holds in every run of the service: the SIP side is what the course makes of it, and
the answers given and owed are those of the course's lines, which are the lines taken, each to
the client it was taken from. -/
structure Sound (setup : Setup) (service : Service) : Prop where
  sip : service.sip = Sip.run setup.build .start service.course
  lines : service.course.filterMap SipInput.asked = service.session.taken.map Prod.snd
  answers : (service.session.offered.filter Offer.isReply ++ service.owed.toList).map
    (fun offer => (offer.origin, offer.message)) = Sip.answers setup .start service.course
  clients : (service.session.offered.filter Offer.isReply ++ service.owed.toList).map Offer.sock =
    service.session.taken.map Prod.fst
  reply : ∀ offer, service.owed = some offer → offer.isReply = true

/-- The answers of a course that goes on. -/
theorem answers_append (sip : Sip) (first second : List SipInput) :
    Sip.answers setup sip (first ++ second) =
      Sip.answers setup sip first ++ Sip.answers setup (Sip.run setup.build sip first) second := by
  induction first generalizing sip with
  | nil => rfl
  | cons input rest ih =>
      cases input with
      | line text outcomes => exact congrArg _ (ih _)
      | _ => exact ih _

theorem Sound.start : Sound setup .start where
  sip := rfl
  lines := rfl
  answers := rfl
  clients := rfl
  reply _ none := by cases none

/-- A change of the session that neither takes a line nor answers one. -/
theorem Sound.session (sound : service.Sound setup) {session : Session}
    (taken : session.taken = service.session.taken)
    (offered :
      session.offered.filter Offer.isReply = service.session.offered.filter Offer.isReply) :
    Sound setup { service with session } := by
  refine ⟨sound.sip, ?_, ?_, ?_, sound.reply⟩
  · rw [taken]
    exact sound.lines
  · rw [offered]
    exact sound.answers
  · rw [offered, taken]
    exact sound.clients

/-- Messages that are no replies. -/
theorem filter_offer {origin : Origin} (notResponse : origin ≠ .response)
    (notRejection : origin ≠ .rejection) (session : Session) (messages : List JsonElem) :
    (session.offer origin messages).offered.filter Offer.isReply =
      session.offered.filter Offer.isReply := by
  have none : ∀ sock, (messages.map fun message => Offer.mk sock origin message).filter
      Offer.isReply = [] := by
    intro sock
    rw [List.filter_map, List.map_eq_nil_iff, List.filter_eq_nil_iff]
    intro message _
    simp [Offer.isReply, notResponse, notRejection]
  rw [Session.offer, List.filter_append]
  cases session.client with
  | none => simp
  | some sock => simp [none]

theorem Sound.happen (sound : service.Sound setup) {input : SipInput} (byPjsua : input.ByPjsua) :
    Sound setup (service.happen setup input) := by
  have advanced : Sound setup (service.advance setup input) := by
    refine ⟨?_, ?_, ?_, sound.clients, sound.reply⟩
    · rw [advance, Sip.run, Machine.run_append, ← Sip.run, ← sound.sip]
      rfl
    · rw [advance, List.filterMap_append, sound.lines]
      simp [byPjsua.asked]
    · rw [advance, answers_append, ← sound.answers]
      cases input with
      | line => exact byPjsua.elim
      | _ => simp [Sip.answers]
  exact advanced.session rfl (filter_offer (by decide) (by decide) _ _)

theorem isReply_reply (srv : Server) (sock : Nat) (dispatched : Dispatched) :
    Offer.isReply ⟨sock, (srv.reply dispatched).1, (srv.reply dispatched).2⟩ = true := by
  cases dispatched <;> rfl

theorem Sound.ask (sound : service.Sound setup) {sock : Nat} (free : service.owed = none)
    (client : service.session.client = some sock) (line : Bytes) (outcomes : Outcomes) :
    Sound setup (service.ask setup sock line outcomes) := by
  have answered := sound.answers
  have clients := sound.clients
  rw [free, Option.toList_none, List.append_nil] at answered clients
  refine ⟨?_, ?_, ?_, ?_, fun offer isOwed => ?_⟩
  · rw [Service.ask, advance, Sip.run, Machine.run_append, ← Sip.run, ← sound.sip]
    rfl
  · simp [Service.ask, advance, Session.take, client, sound.lines, SipInput.asked]
  · rw [Service.ask, advance, answers_append, ← answered, ← sound.sip]
    simp [Session.take, Sip.answers]
  · simp only [Service.ask, advance, Session.take, client]
    rw [List.map_append, clients]
    simp
  · obtain rfl := Option.some.inj isOwed
    exact isReply_reply setup.server _ _

theorem Sound.step (sound : service.Sound setup) (input : ServiceInput) :
    Sound setup (service.step setup input) := by
  cases input with
  | joins =>
      dsimp only [Service.step]
      split
      · exact sound.session rfl rfl
      · exact sound
  | passes => exact sound.session rfl rfl
  | greeted => exact sound.session rfl (filter_offer (by decide) (by decide) _ _)
  | leaves =>
      dsimp only [Service.step]
      split
      · exact sound.session rfl rfl
      · exact sound
  | happens input byPjsua => exact sound.happen byPjsua
  | asks line outcomes =>
      dsimp only [Service.step]
      split
      · rename_i sock free client
        exact sound.ask free client line outcomes
      · exact sound
  | answered =>
      have replies : (service.step setup .answered).session.offered.filter Offer.isReply ++
          (service.step setup .answered).owed.toList =
            service.session.offered.filter Offer.isReply ++ service.owed.toList := by
        dsimp only [Service.step]
        rw [List.filter_append, Option.toList_none, List.append_nil]
        cases owed : service.owed with
        | none => rfl
        | some offer => simp [sound.reply offer owed]
      refine ⟨sound.sip, sound.lines, ?_, ?_, fun offer none => by cases none⟩
      · rw [replies]
        exact sound.answers
      · rw [replies]
        exact sound.clients
  | overflows => exact sound.session rfl (filter_offer (by decide) (by decide) _ _)

theorem sound_run (setup : Setup) (inputs : List ServiceInput) :
    Sound setup (run setup start inputs) :=
  Machine.invariant_always (fun _ input sound => sound.step input) .start inputs

/-- The client is one that has come. -/
theorem client_below (setup : Setup) (inputs : List ServiceInput) {sock : Nat}
    (client : (run setup start inputs).session.client = some sock) :
    sock < (run setup start inputs).session.next := by
  refine @Machine.invariant_always _ _ (step setup)
    (fun service => ∀ sock, service.session.client = some sock → sock < service.session.next)
    (fun service input below => ?_) start (fun _ none => by cases none) inputs sock client
  cases input with
  | joins =>
      dsimp only [step]
      split
      · rintro sock ⟨⟩
        exact Nat.lt_succ_self _
      · exact below
  | passes => exact fun sock client => Nat.lt_succ_of_lt (below sock client)
  | leaves =>
      dsimp only [step]
      split
      · rintro sock ⟨⟩
      · exact below
  | asks line outcomes =>
      dsimp only [step]
      split <;> exact below
  | _ => exact below

/-- What the client has been offered since `base`: the events that the SIP side has pushed since
then, in order, among greetings, answers and complaints; and nobody else was offered anything. -/
structure Kept (setup : Setup) (base : Service) (sock : Nat) (service : Service) : Prop where
  client : service.session.client = some sock
  below : sock < service.session.next
  owed : ∀ offer, service.owed = some offer → offer.sock = sock ∧ offer.isReply = true
  offers : ∃ added later, service.sip.daemon.log = base.sip.daemon.log ++ added ∧
    service.session.offered = base.session.offered ++ later ∧
    (∀ offer ∈ later, offer.sock = sock) ∧
    (later.filter fun offer => offer.origin = .callback).map Offer.message =
      (added.filterMap Action.pushed).map (Event.message setup.build.lib)

/-- The client has left; the numbers of later ones are higher. -/
structure Left (sock : Nat) (service : Service) : Prop where
  client : service.session.client ≠ some sock
  below : sock < service.session.next

/-- A command pushes no event. -/
theorem pushed_command {build : Build} {params : Option JsonElem} {daemon : Daemon} {fn : CmdFn}
    {action : Action} (ofCommand : action.OfCommand build params daemon fn) :
    action.pushed = none := by
  cases ofCommand with
  | plain isPlain =>
      cases action with
      | push event => exact isPlain.elim
      | _ => rfl
  | _ => rfl

/-- What a line adds to the log contains no event. -/
theorem events_line (build : Build) (sip : Sip) (line : Bytes) (outcomes : Outcomes) :
    sip.events build (.line line outcomes) = [] := by
  refine List.filterMap_eq_nil_iff.mpr fun action member => ?_
  cases Sip.requests_asks member with
  | command runs ofCommand => exact pushed_command ofCommand
  | callback callback => exact callback.elim

/-- The events among messages that come from one place. -/
theorem callbacks_map (sock : Nat) (origin : Origin) (messages : List JsonElem) :
    ((messages.map fun message => Offer.mk sock origin message).filter
      fun offer => offer.origin = .callback).map Offer.message =
        if origin = .callback then messages else [] := by
  induction messages with
  | nil => simp
  | cons message rest ih =>
      by_cases isCallback : origin = .callback
      · simp_all
      · simp_all

variable {base : Service} {sock : Nat}

/-- Messages for the client other than events. -/
theorem Kept.offer (kept : Kept setup base sock service) {origin : Origin}
    (notCallback : origin ≠ .callback) (messages : List JsonElem) :
    Kept setup base sock { service with session := service.session.offer origin messages } := by
  obtain ⟨added, later, log, offered, only, events⟩ := kept.offers
  refine ⟨kept.client, kept.below, kept.owed, added,
    later ++ messages.map fun message => ⟨sock, origin, message⟩, log, ?_, fun other member => ?_,
    ?_⟩
  · simp [Session.offer, kept.client, offered]
  · rcases List.mem_append.mp member with old | new
    · exact only other old
    · obtain ⟨message, -, rfl⟩ := List.mem_map.mp new
      rfl
  · rw [List.filter_append, List.map_append, events, callbacks_map, if_neg notCallback,
      List.append_nil]

theorem Kept.happen (kept : Kept setup base sock service) (input : SipInput) :
    Kept setup base sock (service.happen setup input) := by
  obtain ⟨added, later, log, offered, only, events⟩ := kept.offers
  obtain ⟨more, grown, -⟩ := service.sip.step_log setup.build input
  let messages := (service.sip.events setup.build input).map (Event.message setup.build.lib)
  refine ⟨kept.client, kept.below, kept.owed, added ++ more,
    later ++ messages.map fun message => ⟨sock, .callback, message⟩, ?_, ?_, fun other member => ?_,
    ?_⟩
  · rw [← List.append_assoc, ← log]
    exact grown
  · simp [Service.happen, advance, Session.offer, kept.client, offered, messages]
  · rcases List.mem_append.mp member with old | new
    · exact only other old
    · obtain ⟨message, -, rfl⟩ := List.mem_map.mp new
      rfl
  · rw [List.filter_append, List.map_append, events, callbacks_map, if_pos rfl,
      List.filterMap_append, List.map_append]
    simp only [messages, Sip.events, Sip.requests_eq grown]

theorem Kept.ask (kept : Kept setup base sock service) (line : Bytes) (outcomes : Outcomes) :
    Kept setup base sock (service.ask setup sock line outcomes) := by
  obtain ⟨added, later, log, offered, only, events⟩ := kept.offers
  obtain ⟨more, grown, -⟩ := service.sip.step_log setup.build (.line line outcomes)
  have silent := events_line setup.build service.sip line outcomes
  rw [Sip.events, Sip.requests_eq grown] at silent
  refine ⟨kept.client, kept.below, fun owed isOwed => ?_, added ++ more, later, ?_, offered, only,
    ?_⟩
  · obtain rfl := Option.some.inj isOwed
    exact ⟨rfl, isReply_reply setup.server _ _⟩
  · rw [← List.append_assoc, ← log]
    exact grown
  · rw [List.filterMap_append, silent, List.append_nil, events]

theorem Kept.step (kept : Kept setup base sock service) (input : ServiceInput) :
    Kept setup base sock (service.step setup input) ∨ Left sock (service.step setup input) := by
  cases input with
  | joins =>
      left
      dsimp only [Service.step]
      rw [if_neg (by simp [kept.client])]
      exact kept
  | passes => exact .inl ⟨kept.client, Nat.lt_succ_of_lt kept.below, kept.owed, kept.offers⟩
  | greeted => exact .inl (kept.offer (by decide) _)
  | leaves =>
      dsimp only [Service.step]
      split
      · exact .inr ⟨by simp [Session.leave], kept.below⟩
      · exact .inl kept
  | happens input _ => exact .inl (kept.happen input)
  | asks line outcomes =>
      left
      dsimp only [Service.step]
      split
      · rename_i other _ client
        obtain rfl := Option.some.inj (kept.client.symm.trans client)
        exact kept.ask line outcomes
      · exact kept
  | answered =>
      left
      obtain ⟨added, later, log, offered, only, events⟩ := kept.offers
      refine ⟨kept.client, kept.below, (fun _ none => by cases none), added,
        later ++ service.owed.toList, log, ?_, fun other member => ?_, ?_⟩
      · rw [← List.append_assoc, ← offered]
        rfl
      · rcases List.mem_append.mp member with old | new
        · exact only other old
        · exact (kept.owed other (Option.mem_toList.mp new)).1
      · rw [List.filter_append, List.map_append, events]
        cases owed : service.owed with
        | none => simp
        | some reply =>
            have isReply := (kept.owed reply owed).2
            have notCallback : reply.origin ≠ .callback := by
              intro isCallback
              simp [Offer.isReply, isCallback] at isReply
            simp [notCallback]
  | overflows => exact .inl (kept.offer (by decide) _)

theorem Left.step (gone : Left sock service) (input : ServiceInput) :
    Left sock (service.step setup input) := by
  obtain ⟨client, below⟩ := gone
  cases input with
  | joins =>
      dsimp only [Service.step]
      split
      · exact ⟨fun same => below.ne' (Option.some.inj same), Nat.lt_succ_of_lt below⟩
      · exact ⟨client, below⟩
  | passes => exact ⟨client, Nat.lt_succ_of_lt below⟩
  | leaves =>
      dsimp only [Service.step]
      split
      · exact ⟨by simp [Session.leave], below⟩
      · exact ⟨client, below⟩
  | asks line outcomes =>
      dsimp only [Service.step]
      split <;> exact ⟨client, below⟩
  | _ => exact ⟨client, below⟩

/-- Between two moments at which it is the client, it has been the client throughout. -/
theorem kept_run {inputs : List ServiceInput} (kept : Kept setup base sock service)
    (still : (run setup service inputs).session.client = some sock) :
    Kept setup base sock (run setup service inputs) := by
  have either : Kept setup base sock (run setup service inputs) ∨
      Left sock (run setup service inputs) :=
    @Machine.invariant_always _ _ (step setup)
      (fun service => Kept setup base sock service ∨ Left sock service)
      (fun _ input holds => holds.elim (·.step input) fun gone => .inr (gone.step input)) service
      (.inl kept) inputs
  exact either.resolve_right fun gone => gone.client still

end Service
end Pjsocky
