import Mathlib.Data.List.TakeWhile
import Pjsocky.Framing.Compaction
import Pjsocky.Server.Replies
import Pjsocky.Server.Session
import Pjsocky.Server.Wire

/-!
# What a client reads

A client cuts what it receives at line feeds and parses each line. As long as the writes to it
succeed it gets back exactly the messages they were given, in order, with nothing left over.
The messages with an `id` among them answer its requests, one each, in the order in which the
requests were sent; all others are events, and a callback's write is that of the event it pushed.
-/

namespace Pjsocky

open Support Support.LineSplit

/-- The message that was to be written to the socket, with the result. -/
def Obs.writeTo (sock : Nat) : Obs → Option (JsonElem × SendResult)
  | .wrote other _ message result => if other = sock then some (message, result) else none
  | _ => none

/-- The messages for a socket, with their results. -/
def writesTo (sock : Nat) (trace : List Obs) : List (JsonElem × SendResult) :=
  trace.filterMap (Obs.writeTo sock)

/-- What a client makes of the bytes it receives: every complete line is parsed. -/
def clientReads {format : Json.Format ℚ} {spelled : ℚ → Prop}
    (reader : Json.PartialReader format spelled) (bytes : Bytes) : List (Option JsonElem) :=
  (completeLines lineFeed bytes).map (Json.parse reader)

/-- The wire is what the writes put on it. -/
theorem wire_writesTo (sock : Nat) (trace : List Obs) :
    wire sock trace = (writesTo sock trace).flatMap fun write => write.2.accepted := by
  induction trace with
  | nil => rfl
  | cons obs rest ih =>
      have split : wire sock (obs :: rest) = obs.bytesTo sock ++ wire sock rest := rfl
      rw [split, ih, writesTo, writesTo, List.filterMap_cons]
      cases obs with
      | wrote other origin message result =>
          by_cases same : other = sock
          · simp [Obs.bytesTo, Obs.writeTo, same]
          · simp [Obs.bytesTo, Obs.writeTo, same]
      | _ => rfl

/-- An observation of a write says what went out of the message, and a message that is no
response is that of an event. -/
def Obs.Honest (lib : Pjlib) : Obs → Prop
  | .wrote _ origin message result =>
      (∃ sent, Written lib message sent result) ∧
        (origin = .response ∨ ∃ event : Event, message = event.message lib)
  | _ => True

/-- The trace has grown by observations that say what went out. -/
def Grown (lib : Pjlib) (before after : World) : Prop :=
  ∃ added, after.trace = before.trace ++ added ∧ ∀ obs ∈ added, obs.Honest lib

namespace Grown

variable {lib : Pjlib} {srv : Server} {first world : World}

theorem refl (world : World) : Grown lib world world :=
  ⟨[], (List.append_nil _).symm, List.forall_mem_nil _⟩

theorem trans {last : World} (left : Grown lib first world) (right : Grown lib world last) :
    Grown lib first last := by
  obtain ⟨early, earlyTrace, earlyHonest⟩ := left
  obtain ⟨late, lateTrace, lateHonest⟩ := right
  refine ⟨early ++ late, by rw [lateTrace, earlyTrace, List.append_assoc], ?_⟩
  exact List.forall_mem_append.mpr ⟨earlyHonest, lateHonest⟩

theorem record (grown : Grown lib first world) {obs : Obs} (honest : obs.Honest lib) :
    Grown lib first (world.record obs) :=
  grown.trans ⟨[obs], rfl, List.forall_mem_singleton.mpr honest⟩

theorem closed (grown : Grown lib first world) (sock : Nat) :
    Grown lib first (world.record (.closed sock)) := grown.record trivial

theorem accept (grown : Grown lib first world) : Grown lib first world.accept :=
  @record lib first { world with nextSock := world.nextSock + 1 } grown
    (.accepted world.nextSock) trivial

theorem executed (grown : Grown lib first world) (ran : Option CmdFn) :
    Grown lib first (world.executed ran) := by
  cases ran with
  | none => exact grown
  | some fn => exact grown.record trivial

theorem writeLocked (grown : Grown srv.lib first world) {message : JsonElem}
    (isObject : ∃ members, message = .obj members) (named : message.Named) {origin : Origin}
    (isEvent : origin = .response ∨ ∃ event : Event, message = event.message srv.lib)
    (env : WriteEnv) : Grown srv.lib first (srv.writeLocked origin message env world).2 := by
  have sent := @writeJson_sent srv.lib.writer world.conn.framing.writeTimeoutMsec maxLine message
    env named
  exact grown.record ⟨⟨_, isObject, sent.1, sent.2⟩, isEvent⟩

theorem eventsPush (grown : Grown srv.lib first world) (origin : Origin) (event : Event)
    (env : PushEnv) : Grown srv.lib first (srv.eventsPush origin event env world).2 := by
  unfold Server.eventsPush
  split
  · exact grown
  · split
    · exact grown.writeLocked ⟨_, rfl⟩ (event.message_named srv.lib) (.inr ⟨event, rfl⟩) env.write
    · refine grown.record ⟨⟨0, ⟨_, rfl⟩, rfl, ?_⟩, .inr ⟨event, rfl⟩⟩
      simp [JsonWriter.line]

theorem callbacks (grown : Grown srv.lib first world) (pushes : List Push) :
    Grown srv.lib first (srv.callbacks pushes world) := by
  induction pushes generalizing world with
  | nil => exact grown
  | cons push rest ih => exact ih (grown.eventsPush .callback push.event push.env)

theorem handleLine (grown : Grown srv.lib first world) (env : LineEnv) (line : Bytes) :
    Grown srv.lib first (srv.handleLine env line world).2 := by
  have delivered := grown.record
    (show Obs.Honest srv.lib (.delivered world.conn.framing.sock line) from trivial)
  unfold Server.handleLine
  split
  · exact (delivered.callbacks env.before).eventsPush _ _ _
  · rename_i response ran dispatched
    obtain ⟨isObject, named⟩ := dispatchLine_named dispatched
    have called := (delivered.executed ran).callbacks env.before
    dsimp only
    unfold Server.eventsWriteResponse
    split
    · exact called
    · exact called.writeLocked isObject named (.inl rfl) _

theorem closeConn (grown : Grown srv.lib first world) (before : List Push) :
    Grown srv.lib first (srv.closeConn before world) := by
  have last : Grown srv.lib first (srv.eventsSetConn before .null world) :=
    @record srv.lib first { srv.callbacks before world with events := .null }
      (grown.callbacks before) .unpublished trivial
  exact last.closed _

theorem refuseConn (grown : Grown srv.lib first world) (env : RefuseEnv) (sock : Nat) :
    Grown srv.lib first (srv.refuseConn env sock world) := by
  unfold Server.refuseConn
  split
  · have sent := @writeJson_sent srv.lib.writer srv.writeTimeoutMsec 512 srv.refusal env.write
      (Event.message_named _ _)
    have written : Obs.Honest srv.lib (.wrote sock .refusal srv.refusal
        (writeJson srv.lib.writer srv.writeTimeoutMsec srv.refusal 512 env.write)) :=
      ⟨⟨_, ⟨_, rfl⟩, sent.1, sent.2⟩, .inr ⟨_, rfl⟩⟩
    exact (grown.record written).closed sock
  · exact grown.closed sock

theorem openConn (grown : Grown srv.lib first world) (env : OpenEnv) (sock : Nat) :
    Grown srv.lib first (srv.openConn env sock world) := by
  unfold Server.openConn
  split
  · exact grown.closed sock
  · split
    · exact grown.closed sock
    · let opened : World := { world with
        conn := { world.conn with
          sock, framing := world.conn.framing.init sock srv.writeTimeoutMsec } }
      have published : Grown srv.lib first (srv.eventsSetConn env.beforePublish .conn opened) :=
        @record srv.lib first { srv.callbacks env.beforePublish opened with events := .conn }
          (@callbacks srv first opened grown env.beforePublish) (.published _) trivial
      exact (published.callbacks env.beforeHello).eventsPush _ _ _

theorem serveInput (grown : Grown srv.lib first world) (env : IterationEnv) :
    Grown srv.lib first (srv.serveInput env world) := by
  have served : Grown srv.lib first (handleConnInput (srv.lineHandler env) env.recv
      world.conn.framing world).state := by
    refine handleConnInput_invariant (fun index framing line state grown => ?_)
      (fun framing state grown => ?_) env.recv world.conn.framing grown
    · exact @handleLine srv first (state.setFraming framing) grown (env.line index) line
    · have called := @callbacks srv first (state.setFraming framing) grown env.beforeOversized
      exact called.eventsPush _ _ _
  have reframed : ∀ framing, Grown srv.lib first ((handleConnInput (srv.lineHandler env) env.recv
      world.conn.framing world).state.setFraming framing) := fun _ => served
  unfold Server.serveInput
  dsimp only
  split
  · exact (reframed _).closeConn env.beforeClose
  · exact served

theorem step (loop : Loop) (input : LoopInput) :
    Grown srv.lib loop.world (srv.step loop input).world := by
  refine @Server.step_rule srv (Grown srv.lib loop.world) loop input (refl _)
    (fun world before isLoop _ _ => ?_) fun world env isLoop _ => ?_
  · subst isLoop
    exact (refl _).closeConn before
  · subst isLoop
    have idle : Grown srv.lib world (srv.callbacks env.idle world) := (refl _).callbacks env.idle
    exact Server.iteration_rule idle (fun _ => idle.serveInput env)
      (fun _ _ grown _ => grown.closeConn env.beforeClose)
      (fun next grown _ => grown.accept.refuseConn env.refusing next.nextSock)
      fun next grown _ => grown.accept.openConn env.opening next.nextSock

/-- The trace of a run only grows. -/
theorem run (srv : Server) (loop : Loop) (inputs : List LoopInput) :
    Grown srv.lib loop.world (Machine.run srv.step loop inputs).world :=
  @Machine.invariant_always _ _ srv.step (fun next => Grown srv.lib loop.world next.world)
    (fun next input grown => grown.trans (step next input)) loop (refl _) inputs

end Grown

/-- Every write so far is recorded as it was. -/
def Honest (lib : Pjlib) (world : World) : Prop := ∀ obs ∈ world.trace, obs.Honest lib

theorem honest_run (srv : Server) (inputs : List LoopInput) :
    Honest srv.lib (Machine.run srv.step Server.start inputs).world := by
  obtain ⟨added, grown, honest⟩ := Grown.run srv Server.start inputs
  intro obs member
  rw [grown] at member
  exact honest obs member

/-- A write that succeeded put the whole line of its message on the socket. -/
theorem Honest.accepted {lib : Pjlib} {world : World} (honest : Honest lib world) {sock : Nat}
    {write : JsonElem × SendResult} (member : write ∈ writesTo sock world.trace)
    (succeeded : write.2.status = .success) :
    write.2.accepted = Json.compact lib.writer.format write.1 ++ [lineFeed] := by
  obtain ⟨obs, inside, same⟩ := List.mem_filterMap.mp member
  cases obs with
  | wrote other origin message result =>
      rw [Obs.writeTo, Option.ite_none_right_eq_some] at same
      obtain ⟨-, ⟨⟩⟩ := same
      obtain ⟨⟨sent, written⟩, -⟩ := honest _ inside
      rw [written.accepted, written.whole.mp succeeded, List.take_length]
      rfl
  | _ => cases same

/-! ## Events and their writes -/

/-- An event that a callback pushed. -/
def Obs.isCallback : Obs → Bool
  | .wrote _ origin _ _ => origin = .callback
  | _ => false

/-- The observation is the write of this event, pushed by a callback, to the socket: as many
bytes of its line as went out, and all of them exactly when the write succeeded. -/
def Obs.Conveys (lib : Pjlib) (sock : Nat) (event : Event) : Obs → Prop
  | .wrote other origin message result =>
      other = sock ∧ origin = .callback ∧ message = event.message lib ∧
        ∃ sent, Written lib message sent result
  | _ => False

/-- When these events are what callbacks had written, there is one write for each, in their
order. -/
theorem conveys_offered {lib : Pjlib} {sock : Nat} {added : List Obs} {events : List Event}
    (honest : ∀ obs ∈ added, obs.Honest lib)
    (only : ∀ offer ∈ added.filterMap Obs.offered, offer.sock = sock)
    (messages : ((added.filterMap Obs.offered).filter fun offer =>
      offer.origin = .callback).map Offer.message = events.map (Event.message lib)) :
    List.Forall₂ (Obs.Conveys lib sock) events (added.filter Obs.isCallback) := by
  induction added generalizing events with
  | nil =>
      rw [List.map_eq_nil_iff.mp messages.symm]
      exact .nil
  | cons obs rest ih =>
      have later : ∀ other ∈ rest, other.Honest lib :=
        fun other member => honest other (List.mem_cons_of_mem _ member)
      have skip (silent : obs.offered = none) (aside : obs.isCallback = false) :
          List.Forall₂ (Obs.Conveys lib sock) events ((obs :: rest).filter Obs.isCallback) := by
        rw [List.filterMap_cons, silent] at only messages
        rw [List.filter_cons, aside]
        exact ih later only messages
      cases obs with
      | wrote other origin message result =>
          by_cases refuses : origin = .refusal
          · subst refuses
            exact skip rfl rfl
          · have isOffer : (Obs.wrote other origin message result).offered =
                some ⟨other, origin, message⟩ := if_neg refuses
            rw [List.filterMap_cons, isOffer] at only messages
            obtain ⟨isSock, onlyLater⟩ := List.forall_mem_cons.mp only
            by_cases pushed : origin = .callback
            · rw [List.filter_cons, if_pos (decide_eq_true pushed)] at messages
              cases events with
              | nil => cases messages
              | cons event events =>
                  obtain ⟨same, others⟩ := List.cons_eq_cons.mp messages
                  have isCallback : (Obs.wrote other origin message result).isCallback = true :=
                    decide_eq_true pushed
                  have written := (honest _ List.mem_cons_self).1
                  rw [List.filter_cons, if_pos isCallback]
                  exact .cons ⟨isSock, pushed, same, written⟩ (ih later onlyLater others)
            · rw [List.filter_cons, if_neg (by simpa using pushed)] at messages
              rw [List.filter_cons, if_neg (by simpa [Obs.isCallback] using pushed)]
              exact ih later onlyLater messages
      | _ => exact skip rfl rfl

section Reading

variable {format : Json.Format ℚ} {spelled : ℚ → Prop} (reader : Json.PartialReader format spelled)

/-- Complete lines of messages are read as these messages, and reading goes on after them. -/
theorem clientReads_lines {messages : List JsonElem}
    (numbered : ∀ message ∈ messages, message.Numbered spelled) (rest : Bytes) :
    clientReads reader (((messages.map (Json.compact format)).flatMap (· ++ [lineFeed])) ++ rest) =
      messages.map some ++ clientReads reader rest := by
  have absent : ∀ line ∈ messages.map (Json.compact format), lineFeed ∉ line := by
    intro line member
    obtain ⟨message, -, rfl⟩ := List.mem_map.mp member
    exact Json.compact_no_lineFeed format message
  rw [clientReads, completeLines_lines absent, List.map_append, List.map_map, clientReads]
  congr 1
  refine List.map_congr_left fun message member => ?_
  exact Json.parse_spaced reader (numbered message member) (Json.spaced_flatten _)

end Reading

/-- The lines of some messages. -/
def linesOf (format : Json.Format ℚ) (messages : List JsonElem) : Bytes :=
  (messages.map (Json.compact format)).flatMap (· ++ [lineFeed])

/-- Every number in a message for the socket is one that the reader reads back. -/
def NumbersRead (spelled : ℚ → Prop) (sock : Nat) (trace : List Obs) : Prop :=
  ∀ write ∈ writesTo sock trace, write.1.Numbered spelled

namespace Honest

variable {lib : Pjlib} {world : World} {sock : Nat} {spelled : ℚ → Prop}
  (reader : Json.PartialReader lib.writer.format spelled)

/-- Writes that succeeded put the lines of their messages on the wire. -/
theorem accepted_lines (honest : Honest lib world) {writes : List (JsonElem × SendResult)}
    (among : writes ⊆ writesTo sock world.trace)
    (succeeded : ∀ write ∈ writes, write.2.status = .success) :
    (writes.flatMap fun write => write.2.accepted) =
      linesOf lib.writer.format (writes.map Prod.fst) := by
  rw [linesOf, List.map_map, List.flatMap_map]
  exact List.flatMap_congr fun write member =>
    honest.accepted (among member) (succeeded write member)

/-- What was written before the first failure is read back, before anything else. -/
theorem reads_succeeded (honest : Honest lib world)
    (numbered : NumbersRead spelled sock world.trace) :
    (((writesTo sock world.trace).takeWhile fun write => write.2.status = .success).map
      fun write => some write.1) <+: clientReads reader (wire sock world.trace) := by
  let succeeded := (writesTo sock world.trace).takeWhile fun write => write.2.status = .success
  have among : succeeded ⊆ writesTo sock world.trace := (List.takeWhile_sublist _).subset
  have lines := honest.accepted_lines among
    fun write (member : write ∈ succeeded) => by simpa using List.mem_takeWhile_imp member
  have split : wire sock world.trace = linesOf lib.writer.format (succeeded.map Prod.fst) ++
      ((writesTo sock world.trace).dropWhile fun write => write.2.status = .success).flatMap
        fun write => write.2.accepted := by
    rw [← lines, ← List.flatMap_append, List.takeWhile_append_dropWhile, wire_writesTo]
  have readable : ∀ message ∈ succeeded.map Prod.fst, message.Numbered spelled :=
    List.forall_mem_map.mpr fun write member => numbered write (among member)
  rw [split, linesOf, clientReads_lines reader readable, List.map_map]
  exact List.prefix_append _ _

/-- When no write has failed, everything is read back, and nothing is left over. -/
theorem reads_all (honest : Honest lib world) (numbered : NumbersRead spelled sock world.trace)
    (all : ∀ write ∈ writesTo sock world.trace, write.2.status = .success) :
    clientReads reader (wire sock world.trace) =
        ((writesTo sock world.trace).map fun write => some write.1) ∧
      unfinished lineFeed (wire sock world.trace) = [] := by
  have lines : wire sock world.trace = linesOf lib.writer.format
      ((writesTo sock world.trace).map Prod.fst) ++ [] := by
    rw [wire_writesTo, List.append_nil]
    exact honest.accepted_lines (List.Subset.refl _) all
  have readable : ∀ message ∈ (writesTo sock world.trace).map Prod.fst,
      message.Numbered spelled := List.forall_mem_map.mpr numbered
  refine ⟨?_, ?_⟩
  · rw [lines, linesOf, clientReads_lines reader readable, List.map_map]
    exact List.append_nil _
  · rw [lines, linesOf, unfinished_lines, unfinished_nil]

end Honest

/-- Whatever else has gone on, a client reads back every message that was written to it before
the first write to it that failed; and when none has failed, all of them and nothing else. Its
reader need only read back the numbers that these messages hold. -/
theorem client_reads (srv : Server) (inputs : List LoopInput) {spelled : ℚ → Prop}
    (reader : Json.PartialReader srv.lib.writer.format spelled) (sock : Nat) :
    let trace := (Machine.run srv.step Server.start inputs).world.trace
    let writes := writesTo sock trace
    NumbersRead spelled sock trace →
    ((writes.takeWhile fun write => write.2.status = .success).map fun write => some write.1) <+:
      clientReads reader (wire sock trace) ∧
    ((∀ write ∈ writes, write.2.status = .success) →
      clientReads reader (wire sock trace) = writes.map (fun write => some write.1) ∧
        unfinished lineFeed (wire sock trace) = []) :=
  fun numbered => ⟨(honest_run srv inputs).reads_succeeded reader numbered,
    (honest_run srv inputs).reads_all reader numbered⟩

/-- A client gets `hello`, an answer and two events, one of them with numbers; of the next
event it takes three bytes, and then all of the answer to its second `ping`. -/
def eventCut : List LoopInput :=
  answeredClient ++
    [.callback ⟨.regState ⟨0, 200, ascii "OK"⟩ true, .open⟩,
      .callback ⟨.typing (ascii "a") (ascii "b") false, .stalled 3⟩, .ping (ascii "1") .open]

theorem eventCut_numbers :
    NumbersRead Integral 0 (Machine.run (sampleServer (parsePing (ascii "1"))).step Server.start
      eventCut).world.trace := by
  unfold NumbersRead
  decide +kernel

/-- The first four of the six messages are read back. -/
theorem client_reads_eventCut :
    let trace := (Machine.run (sampleServer (parsePing (ascii "1"))).step Server.start
      eventCut).world.trace
    let succeeded := (writesTo 0 trace).takeWhile fun write => write.2.status = .success
    succeeded.length = 4 ∧ (writesTo 0 trace).length = 6 ∧
      succeeded.map (fun write => some write.1) <+: clientReads prettyReader (wire 0 trace) := by
  intro trace succeeded
  have reads := client_reads (sampleServer (parsePing (ascii "1"))) eventCut prettyReader 0
    eventCut_numbers
  exact ⟨by decide +kernel, by decide +kernel, reads.1⟩

/-- The `id` of a message. -/
def messageId (message : JsonElem) : Option Bytes :=
  match jsonFind message "id" with
  | some (.str id) => some id
  | _ => none

/-- The `id` of a line that is a request. -/
def requestId (lib : Pjlib) (line : Bytes) : Option Bytes :=
  match lib.parse line with
  | some (.obj members, _) => messageId (.obj members)
  | _ => none

/-- The `id`s of the requests that a client has sent. -/
def requestIds (lib : Pjlib) (sock : Nat) (trace : List Obs) : List Bytes :=
  (trace.filterMap Obs.takenLine).filterMap fun taken =>
    if taken.1 = sock then requestId lib taken.2 else none

/-- The reply to a line carries its `id`, if it has one. -/
theorem IsReply.messageId {srv : Server} {line : Bytes} {origin : Origin} {ran : Option CmdFn}
    {message : JsonElem} (reply : IsReply srv line origin ran message) :
    messageId message = requestId srv.lib line := by
  cases reply with
  | unidentified text without =>
      have none : requestId srv.lib line = none := by
        unfold requestId Pjsocky.messageId
        split
        · rename_i members unread parsed
          split
          · rename_i id identified
            exact absurd identified (without members unread id parsed)
          · rfl
        · rfl
      exact none.symm
  | invalid text parsed identified without =>
      simp only [requestId, parsed, Pjsocky.messageId, identified]
      rfl
  | unknown text parsed identified command unlisted =>
      simp only [requestId, parsed, Pjsocky.messageId, identified]
      rfl
  | failed code text parsed identified command listed =>
      simp only [requestId, parsed, Pjsocky.messageId, identified]
      rfl
  | succeeded result parsed identified command listed =>
      simp only [requestId, parsed, Pjsocky.messageId, identified]
      rfl

/-- The `id` of a message for the socket. -/
def Obs.idTo (sock : Nat) (obs : Obs) : Option Bytes :=
  (obs.writeTo sock).bind fun write => messageId write.1

/-- The `id` of a request taken from the socket. -/
def Obs.idFrom (lib : Pjlib) (sock : Nat) (obs : Obs) : Option Bytes :=
  obs.takenLine.bind fun taken => if taken.1 = sock then requestId lib taken.2 else none

/-- What concerns no request is neither a line nor a message with an `id`. -/
theorem Obs.id_none {lib : Pjlib} {obs : Obs} (honest : obs.Honest lib) (sock : Nat)
    (outside : obs.isDialogue = false) : obs.idTo sock = none ∧ obs.idFrom lib sock = none := by
  cases obs with
  | wrote other origin message result =>
      have notResponse : origin ≠ .response := by
        intro isResponse
        simp [Obs.isDialogue, isResponse] at outside
      obtain ⟨event, rfl⟩ := honest.2.resolve_left notResponse
      refine ⟨?_, rfl⟩
      unfold Obs.idTo Obs.writeTo
      dsimp only
      split <;> rfl
  | delivered other line => cases outside
  | _ => exact ⟨rfl, rfl⟩

/-- Only the dialogue matters to a function that finds nothing elsewhere. -/
theorem filterMap_dialogue {trace : List Obs} {Found : Type} {find : Obs → Option Found}
    (outside : ∀ obs ∈ trace, obs.isDialogue = false → find obs = none) :
    (dialogue trace).filterMap find = trace.filterMap find := by
  rw [dialogue, List.filterMap_filter]
  refine List.filterMap_congr fun obs member => ?_
  split
  · rfl
  · rename_i silent
    exact (outside obs member (Bool.eq_false_iff.mpr silent)).symm

/-- An exchange answers a request with its own `id`. -/
theorem Exchange.ids {srv : Server} {exchange : Exchange} (valid : exchange.Valid srv)
    (sock : Nat) : exchange.observations.filterMap (Obs.idTo sock) =
      exchange.observations.filterMap (Obs.idFrom srv.lib sock) := by
  have same := valid.1.messageId
  have written : Obs.idTo sock (.wrote exchange.sock exchange.origin exchange.message
      exchange.result) = Obs.idFrom srv.lib sock (.delivered exchange.sock exchange.line) := by
    unfold Obs.idTo Obs.idFrom Obs.writeTo Obs.takenLine
    dsimp only
    split
    · rename_i isSock
      rw [Option.bind_some, Option.bind_some, if_pos isSock, same]
    · rename_i other
      rw [Option.bind_none, Option.bind_some, if_neg other]
  have ran : ∀ fn, Obs.idTo sock (.ran fn) = none ∧ Obs.idFrom srv.lib sock (.ran fn) = none :=
    fun _ => ⟨rfl, rfl⟩
  have delivered : Obs.idTo sock (.delivered exchange.sock exchange.line) = none := rfl
  have wrote : Obs.idFrom srv.lib sock (.wrote exchange.sock exchange.origin exchange.message
      exchange.result) = none := rfl
  unfold Exchange.observations
  cases exchange.ran with
  | none => simp [List.filterMap_cons, written, delivered, wrote]
  | some fn => simp [List.filterMap_cons, written, delivered, wrote, ran]

/-- The `id`s of the messages for a client are those of its requests, in order. -/
theorem messageIds_run (srv : Server) (inputs : List LoopInput) (sock : Nat) :
    let trace := (Machine.run srv.step Server.start inputs).world.trace
    (writesTo sock trace).filterMap (fun write => messageId write.1) =
      requestIds srv.lib sock trace := by
  intro trace
  obtain ⟨exchanges, valid, isDialogue⟩ := (orderly_run srv inputs).exchanges
  have honest := honest_run srv inputs
  have outside := fun obs member => Obs.id_none (honest obs member) sock
  have both : trace.filterMap (Obs.idTo sock) = trace.filterMap (Obs.idFrom srv.lib sock) := by
    rw [← filterMap_dialogue fun obs member silent => (outside obs member silent).1,
      ← filterMap_dialogue fun obs member silent => (outside obs member silent).2, isDialogue]
    clear isDialogue
    induction exchanges with
    | nil => rfl
    | cons exchange rest ih =>
        have here := Exchange.ids (valid exchange List.mem_cons_self) sock
        have later := ih fun other member => valid other (List.mem_cons_of_mem _ member)
        rw [List.flatMap_cons, List.filterMap_append, List.filterMap_append, here, later]
  rw [writesTo, requestIds, List.filterMap_filterMap, List.filterMap_filterMap]
  exact both

/-- The `id`s among the first messages that a client reads. -/
def idsRead (count : Nat) (reads : List (Option JsonElem)) : List Bytes :=
  (reads.take count).filterMap fun read => read.bind messageId

/-- The responses that a client reads answer its requests, one each, in the order in which they
were sent, whatever events come between them: the `id`s it reads in as many messages as were
written to it before the first write that failed are a beginning of those of its requests, and
when every write has succeeded, all that it reads are all of them. -/
theorem client_matches (srv : Server) (inputs : List LoopInput) {spelled : ℚ → Prop}
    (reader : Json.PartialReader srv.lib.writer.format spelled) (sock : Nat) :
    let trace := (Machine.run srv.step Server.start inputs).world.trace
    let writes := writesTo sock trace
    let reads := clientReads reader (wire sock trace)
    NumbersRead spelled sock trace →
    idsRead (writes.takeWhile fun write => write.2.status = .success).length reads <+:
      requestIds srv.lib sock trace ∧
    ((∀ write ∈ writes, write.2.status = .success) →
      idsRead reads.length reads = requestIds srv.lib sock trace) := by
  intro trace writes reads numbered
  have ids := messageIds_run srv inputs sock
  refine ⟨?_, fun all => ?_⟩
  · obtain ⟨rest, same⟩ := (honest_run srv inputs).reads_succeeded reader numbered
    have first : reads.take (writes.takeWhile fun write => write.2.status = .success).length =
        (writes.takeWhile fun write => write.2.status = .success).map fun write =>
          some write.1 := by
      rw [← @List.length_map _ _ _ fun write : JsonElem × SendResult => some write.1]
      exact (congrArg _ same.symm).trans List.take_left
    rw [idsRead, first, List.filterMap_map, ← ids]
    exact (List.takeWhile_prefix _).filterMap _
  · rw [idsRead, List.take_length]
    have read : reads = writes.map fun write => some write.1 :=
      ((honest_run srv inputs).reads_all reader numbered all).1
    rw [read, List.filterMap_map]
    exact ids

/-- The client has read one answer before the event that is cut. -/
theorem client_matches_eventCut :
    let srv := sampleServer (parsePing (ascii "1"))
    let trace := (Machine.run srv.step Server.start eventCut).world.trace
    idsRead 4 (clientReads prettyReader (wire 0 trace)) <+: requestIds srv.lib 0 trace ∧
      requestIds srv.lib 0 trace = [ascii "1", ascii "1"] := by
  intro srv trace
  have matched := client_matches srv eventCut prettyReader 0 eventCut_numbers
  let succeeded := (writesTo 0 trace).takeWhile fun write => write.2.status = .success
  have count : succeeded.length = 4 := by decide +kernel
  refine ⟨?_, by decide +kernel⟩
  rw [← count]
  exact matched.1

end Pjsocky
