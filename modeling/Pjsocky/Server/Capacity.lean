import Pjsocky.Server.Lifecycle
import Pjsocky.Support.JsonSize

/-!
# Messages and the size of the write buffer

Responses and events are serialized into a buffer of `PJSOCKY_MAX_LINE` bytes. The room
that a message takes there is that of the values it carries and an overhead that its kind
fixes. On a socket that takes everything, the answer to a request is delivered exactly when
its `id`, what the command has to say and the overhead of such an answer are short enough
together, and an event exactly when its fields and its overhead are (`delivered_iff_fits`). A
response that does not fit costs the connection and an event that does not fit is lost. The
envelope of a response is longer than that of the request, so a request the framing accepts
can have a response that does not fit.
-/

namespace Pjsocky

open Support

variable {srv : Server} {world : World}

/-- The last observation is the message, written whole to this socket. -/
def Delivered (lib : Pjlib) (sock : Nat) (message : JsonElem) (trace : List Obs) : Prop :=
  ∃ before origin result, trace = before ++ [.wrote sock origin message result] ∧
    result.status = .success ∧ result.accepted = lib.writer.line message

/-- A write is a delivery exactly when it succeeded. -/
theorem delivered_wrote {sock : Nat} {origin : Origin} {message : JsonElem} {sent : Nat}
    {result : SendResult} {before : List Obs} (written : Written srv.lib message sent result) :
    Delivered srv.lib sock message (before ++ [.wrote sock origin message result]) ↔
      result.status = .success := by
  constructor
  · rintro ⟨_, _, _, same, success, -⟩
    cases (List.append_inj' same rfl).2
    exact success
  · intro success
    refine ⟨_, _, _, rfl, success, ?_⟩
    rw [written.accepted, written.whole.mp success, List.take_length]

/-- On a healthy socket a message is written exactly when it fits. -/
theorem success_iff_fits {message : JsonElem} {env : WriteEnv} {result : SendResult}
    (healthy : env.Healthy srv.writeTimeoutMsec)
    (written : Written srv.lib message
      (sentBytes srv.lib.writer srv.writeTimeoutMsec message maxLine env) result) :
    result.status = .success ↔ srv.lib.writer.Fits message maxLine := by
  rw [written.whole, sentBytes_healthy healthy]
  split
  · rename_i fits
    simp [fits]
  · rename_i large
    simp [large, JsonWriter.line]

theorem response_delivered_iff {sock : Nat} (connected : world.connected = some sock)
    (timed : srv.Timed world) {env : LineEnv} {text : Bytes} {response : JsonElem}
    {ran : Option CmdFn} (healthy : env.reply.write.Healthy srv.writeTimeoutMsec)
    (answered : dispatchLine srv.lib env.handlers text = .answered response ran) :
    (srv.handleLine env text world).1 = .success ∧
        Delivered srv.lib sock response (srv.handleLine env text world).2.trace ↔
      srv.lib.writer.Fits response maxLine := by
  obtain ⟨_, _, _, sent, result, handled, written, dispatched⟩ :=
    Server.handleLine_cases env text connected timed
  rw [answered] at dispatched
  obtain ⟨rfl, rfl, rfl, rfl⟩ := dispatched
  rw [handled, World.record, delivered_wrote written]
  simp only [if_true, and_self]
  exact success_iff_fits healthy written

theorem event_delivered_iff {sock : Nat} (connected : world.connected = some sock)
    (timed : srv.Timed world) {origin : Origin} {event : Event} {env : PushEnv}
    (healthy : env.write.Healthy srv.writeTimeoutMsec) (pool : env.pool = true) :
    (srv.eventsPush origin event env world).1 = .success ∧
        Delivered srv.lib sock (event.message srv.lib)
          (srv.eventsPush origin event env world).2.trace ↔
      srv.lib.writer.Fits (event.message srv.lib) maxLine := by
  rcases @Server.eventsPush_cases srv origin event env world timed with
    ⟨unpublished, -⟩ | ⟨other, result, published, push, written⟩
  · rw [connected] at unpublished
    cases unpublished
  · obtain rfl := Option.some.inj (connected.symm.trans published)
    rw [PushEnv.sent, if_pos pool] at written
    rw [push, World.record, delivered_wrote written, and_self]
    exact success_iff_fits healthy written

/-! ## The room a message takes -/

namespace JsonWriter

variable (writer : JsonWriter)

/-- The white space that is rendered depends on the nesting and on the names alone, as that of
a pretty-printer does. -/
def ByShape : Prop := ∀ elem : JsonElem, elem.Named →
  (writer.render elem).length + (Json.compact writer.format (elem.blank 0)).length =
    (writer.render (elem.blank 0)).length + (Json.compact writer.format elem).length

/-- The room that is taken by a message of this shape besides its values: names, punctuation,
white space, and what the writer keeps for itself. -/
def overhead (elem : JsonElem) : Nat :=
  (writer.render (elem.blank 0)).length - Json.content writer.format (elem.blank 0) +
    writer.reserve

variable {writer}

theorem overhead_congr {first second : JsonElem} (sameShape : first.blank 0 = second.blank 0) :
    writer.overhead first = writer.overhead second := by
  rw [overhead, overhead, sameShape]

/-- The room that a message takes is that of its values and the overhead of its shape. -/
theorem ByShape.room (byShape : writer.ByShape) {elem : JsonElem} (named : elem.Named) :
    (writer.render elem).length + writer.reserve =
      Json.content writer.format elem + writer.overhead elem := by
  have layout := byShape elem named
  have spelled := (writer.spaced _ ((Json.named_blank 0 elem).mpr named)).length_le
  have full := Json.length_compact writer.format elem
  have empty := Json.length_compact writer.format (elem.blank 0)
  rw [← Json.compact, empty] at spelled
  rw [full, empty, Json.frame_blank] at layout
  rw [overhead]
  omega

theorem ByShape.fits_iff (byShape : writer.ByShape) {elem : JsonElem} (named : elem.Named)
    {size : Nat} : writer.Fits elem size ↔
      Json.content writer.format elem + writer.overhead elem ≤ size := by
  rw [Fits, byShape.room named]

end JsonWriter

theorem prettyWriter_byShape : prettyWriter.ByShape := by
  have lines : ∀ tokens : List Bytes, (tokens.flatMap fun token => Json.lineFeed :: token).length =
      tokens.flatten.length + tokens.length := by
    intro tokens
    induction tokens with
    | nil => rfl
    | cons token rest ih =>
        rw [List.flatMap_cons, List.length_append, ih]
        simp only [List.length_cons, List.flatten_cons, List.length_append]
        omega
  intro elem _
  have count := Json.count_blank prettyWriter.format 0 elem
  have full := lines (Json.tokens prettyWriter.format elem)
  have empty := lines (Json.tokens prettyWriter.format (elem.blank 0))
  change (List.flatMap _ (Json.tokens prettyWriter.format elem)).length + _ =
    (List.flatMap _ (Json.tokens prettyWriter.format (elem.blank 0))).length + _
  rw [full, empty, count, Json.compact, Json.compact]
  omega

/-- What the daemon has to say to a request: the `result` of a command, or the `code` and
`message` of an error. -/
inductive Answer where
  | result (members : Members)
  | error (code message : Bytes)

namespace Answer

/-- The response that says it. -/
def response (id : Bytes) : Answer → JsonElem
  | .result members => succeed id members
  | .error code message => fail id code message

/-- The bytes of its values, those of `ok` included. -/
def size (format : Json.Format ℚ) : Answer → Nat
  | .result members => Json.flagSize true + Json.contentMembers format members
  | .error code message => Json.flagSize false + format.textSize code + format.textSize message

/-- An answer of the same shape without values. -/
def empty : Answer → Answer
  | .result members => .result (Json.blankMembers 0 members)
  | .error _ _ => .error [] []

theorem content_response (format : Json.Format ℚ) (id : Bytes) (answer : Answer) :
    Json.content format (answer.response id) = format.textSize id + answer.size format := by
  cases answer with
  | result members =>
      simp only [response, succeed, addString, addBool, Json.content, Json.contentMembers, size]
      omega
  | error code message =>
      simp only [response, fail, addString, addBool, Json.content, Json.contentMembers, size]
      omega

theorem blank_response (id : Bytes) (answer : Answer) :
    Json.blank 0 (answer.response id) = Json.blank 0 (answer.empty.response []) := by
  cases answer with
  | result members =>
      simp only [response, empty, succeed, addString, addBool, Json.blank, Json.blankMembers,
        Json.blankMembers_blank]
  | error code message => rfl

/-- What is said to a request, given what the handlers would do. -/
def toRequest (lib : Pjlib) (handlers : Handlers) (request : Members) : Answer :=
  match jsonFind (.obj request) "cmd" with
  | some (.str cmd) =>
      match findCmd cmd with
      | some fn =>
          let outcome := handlers fn (jsonFind (.obj request) "params")
          if outcome.status ≠ .success then
            .error (errorCodeFor outcome.status) (lib.strerror outcome.status)
          else .result outcome.result
      | none => .error (ascii "unknown_command") (ascii "no such command")
  | _ => .error (ascii "bad_request") (ascii "missing or invalid \"cmd\"")

end Answer

/-- `pjsocky_dispatch_line` on a line that is an object with a string `id`. -/
theorem dispatchLine_answer {lib : Pjlib} {handlers : Handlers} {line id : Bytes}
    {request : Members} {unread : Nat} (parsed : lib.parse line = some (.obj request, unread))
    (identified : jsonFind (.obj request) "id" = some (.str id)) :
    ∃ ran, dispatchLine lib handlers line =
      .answered ((Answer.toRequest lib handlers request).response id) ran := by
  simp only [dispatchLine, parsed, identified]
  cases found : jsonFind (.obj request) "cmd" with
  | none => exact ⟨_, by rw [Answer.toRequest, found]; rfl⟩
  | some cmd =>
      cases cmd with
      | str cmd =>
          cases known : findCmd cmd with
          | none => exact ⟨_, by simp only [Answer.toRequest, found, known]; rfl⟩
          | some fn =>
              by_cases failed : (handlers fn (jsonFind (.obj request) "params")).status ≠ .success
              · exact ⟨_, by simp only [Answer.toRequest, found, known, if_pos failed]; rfl⟩
              · exact ⟨_, by simp only [Answer.toRequest, found, known, if_neg failed]; rfl⟩
      | null | bool | num | arr | obj => exact ⟨_, by rw [Answer.toRequest, found]; rfl⟩

namespace Event

/-- The bytes of an event's name and fields. -/
def size (lib : Pjlib) (event : Event) : Nat :=
  let format := lib.writer.format
  let number (value : Int) : Nat := format.numberSize (toFloat value)
  format.textSize event.name +
    match event with
    | .hello => format.textSize protocolVersion + format.textSize lib.daemonVersion +
        format.textSize lib.pjsipVersion
    | .error code message => format.textSize code + format.textSize message
    | .regState info registered => number info.id + number info.status +
        format.textSize info.statusText + Json.flagSize registered
    | .incomingCall info => number info.id + number info.accId +
        format.textSize info.remoteInfo + Json.flagSize (0 < info.remVidCnt)
    | .callState info => number info.id + format.textSize (callStateStr info.state) +
        number info.lastStatus + format.textSize info.lastStatusText
    | .callMediaState info => number info.id + Json.flagSize (hasActive .audio info.media) +
        Json.flagSize (hasActive .video info.media)
    | .incomingMessage source target mimeType body => format.textSize source +
        format.textSize target + format.textSize mimeType + format.textSize body
    | .messageStatus target body status reason => format.textSize target +
        format.textSize body + number status + format.textSize reason
    | .typing source target isTyping => format.textSize source + format.textSize target +
        Json.flagSize isTyping

/-- The call info without values. -/
def noCall : CallInfo := ⟨0, 0, .null, 0, [], [], [], 0, 0, 0⟩

/-- An event of the same kind without values. -/
def empty : Event → Event
  | .hello => .hello
  | .error .. => .error [] []
  | .regState .. => .regState ⟨0, 0, []⟩ false
  | .incomingCall _ => .incomingCall noCall
  | .callState _ => .callState noCall
  | .callMediaState _ => .callMediaState noCall
  | .incomingMessage .. => .incomingMessage [] [] [] []
  | .messageStatus .. => .messageStatus [] [] 0 []
  | .typing .. => .typing [] [] false

theorem content_message (lib : Pjlib) (event : Event) :
    Json.content lib.writer.format (event.message lib) = event.size lib := by
  cases event <;>
    simp only [message, data, versionFill, addString, addBool, addNumber, Json.content,
      Json.contentMembers, size] <;>
    omega

theorem blank_message (lib : Pjlib) (event : Event) :
    Json.blank 0 (event.message lib) = Json.blank 0 (event.empty.message lib) := by
  cases event <;> rfl

end Event

/-- On a socket that takes everything a request with an `id` gets its answer, and the
connection stays open, exactly when the `id` and the answer are short enough for the overhead
of such an answer; and an event is delivered exactly when its name and fields are short enough
for that of such an event. -/
theorem delivered_iff_fits (srv : Server) (byShape : srv.lib.writer.ByShape)
    (inputs : List LoopInput) :
    let world := (Machine.run srv.step Server.start inputs).world
    let writer := srv.lib.writer
    world.conn.active = true →
      (∀ (env : LineEnv) (text id : Bytes) (request : Members) (unread : Nat),
        env.reply.write.Healthy srv.writeTimeoutMsec →
        srv.lib.parse text = some (.obj request, unread) →
        jsonFind (.obj request) "id" = some (.str id) →
        let answer := Answer.toRequest srv.lib env.handlers request
        let handled := srv.handleLine env text world
        (handled.1 = .success ∧
            Delivered srv.lib world.conn.sock (answer.response id) handled.2.trace ↔
          writer.format.textSize id + answer.size writer.format +
            writer.overhead (answer.empty.response []) ≤ maxLine)) ∧
      ∀ (origin : Origin) (event : Event) (env : PushEnv),
        env.write.Healthy srv.writeTimeoutMsec → env.pool = true →
        let pushed := srv.eventsPush origin event env world
        (pushed.1 = .success ∧
            Delivered srv.lib world.conn.sock (event.message srv.lib) pushed.2.trace ↔
          event.size srv.lib + writer.overhead (event.empty.message srv.lib) ≤ maxLine) := by
  intro world writer active
  have single := SingleConnection.run srv inputs
  have connected := single.connected_active active
  refine ⟨fun env text id request unread healthy parsed identified => ?_,
    fun origin event env healthy pool => ?_⟩
  · obtain ⟨ran, answered⟩ := dispatchLine_answer parsed identified
    have delivered := response_delivered_iff connected single.timed healthy answered
    rw [byShape.fits_iff (dispatchLine_named answered).2, Answer.content_response,
      JsonWriter.overhead_congr (Answer.blank_response id _)] at delivered
    exact delivered
  · have delivered := @event_delivered_iff srv world _ connected single.timed origin event env
      healthy pool
    rw [byShape.fits_iff (event.message_named srv.lib), Event.content_message,
      JsonWriter.overhead_congr (Event.blank_message srv.lib event)] at delivered
    exact delivered

/-- A `ping` with an `id` of one letter is answered, and a short event is delivered. -/
theorem delivered_iff_fits_short :
    let srv := sampleServer (parsePing (ascii "1"))
    let world := (Machine.run srv.step Server.start [.connect]).world
    Delivered srv.lib 0 (succeed (ascii "1") [])
        (srv.handleLine (.calm .open) (pingRequest (ascii "1")) world).2.trace ∧
      Delivered srv.lib 0 (Event.message srv.lib (.typing [] [] true))
        (srv.eventsPush .callback (.typing [] [] true) .open world).2.trace := by
  intro srv world
  have both := delivered_iff_fits srv prettyWriter_byShape [.connect] rfl
  let request : Members := [(ascii "id", .str (ascii "1")), (ascii "cmd", .str (ascii "ping"))]
  have parsed : parsePing (ascii "1") (pingRequest (ascii "1")) = some (.obj request, 0) :=
    if_pos rfl
  have answers := both.1 (.calm .open) (pingRequest (ascii "1")) (ascii "1") request 0 ⟨rfl, rfl⟩
    parsed rfl
  have events := both.2 .callback (.typing [] [] true) .open ⟨rfl, rfl⟩ rfl
  exact ⟨(answers.mpr (by decide +kernel)).2, (events.mpr (by decide +kernel)).2⟩

/-! ## Messages that do not fit -/

theorem dispatch_ping (id : Bytes) :
    dispatchLine (sampleLib (parsePing id)) (LineEnv.calm .open).handlers (pingRequest id) =
      .answered (succeed id []) (some .ping) := by
  have parsed : (sampleLib (parsePing id)).parse (pingRequest id) =
      some (.obj [(ascii "id", .str id), (ascii "cmd", .str (ascii "ping"))], 0) := if_pos rfl
  have first : jsonFind (.obj [(ascii "id", .str id), (ascii "cmd", .str (ascii "ping"))]) "id" =
      some (.str id) := rfl
  have second : jsonFind (.obj [(ascii "id", .str id), (ascii "cmd", .str (ascii "ping"))]) "cmd" =
      some (.str (ascii "ping")) := rfl
  have found : findCmd (ascii "ping") = some .ping := rfl
  simp only [dispatchLine, parsed, first, second, found]
  rfl

/-- The envelope of the response takes 31 bytes, that of the request 22. -/
theorem length_pingRequest (id : Bytes) : (pingRequest id).length = id.length + 22 := by
  have sizes : (ascii "\x7b\"id\":\"").length = 7 ∧
      (ascii "\",\"cmd\":\"ping\"\x7d").length = 15 := ⟨rfl, rfl⟩
  simp only [pingRequest, List.length_append, sizes]
  omega

theorem length_pong_le (format : Json.Format ℚ) (id : Bytes) :
    id.length + 31 ≤ (Json.compact format (succeed id [])).length := by
  have name : 2 ≤ format.textSize (ascii "id") := format.length_le_escaped (ascii "id")
  have ok : 2 ≤ format.textSize (ascii "ok") := format.length_le_escaped (ascii "ok")
  have result : 6 ≤ format.textSize (ascii "result") := format.length_le_escaped (ascii "result")
  have value : id.length ≤ format.textSize id := format.length_le_escaped id
  rw [Json.length_compact]
  simp only [succeed, addString, addBool, Json.content, Json.contentMembers, Json.flagSize,
    if_true, Json.frame, Json.frameMembers, Json.frameMoreMembers]
  omega

/-- An incoming message is at least as long as its body. -/
theorem length_body_le (lib : Pjlib) (source target mimeType body : Bytes) :
    body.length < (Json.compact lib.writer.format
      (Event.message lib (.incomingMessage source target mimeType body))).length := by
  have value : body.length ≤ lib.writer.format.textSize body :=
    lib.writer.format.length_le_escaped body
  rw [Json.length_compact, Event.content_message]
  simp only [Event.size, Event.message, Json.frame]
  omega

/-- The response to a `ping` whose `id` has more than 8161 bytes is never delivered, on
any socket and with any writer; yet the framing accepts such a request up to 8169. -/
theorem long_ping_fails {id : Bytes} (long : 8161 < id.length) {sock : Nat}
    {world : World} (connected : world.connected = some sock)
    (timed : (sampleServer (parsePing id)).Timed world) :
    let handled := (sampleServer (parsePing id)).handleLine (.calm .open) (pingRequest id) world
    ¬ (handled.1 = .success ∧
      Delivered (sampleLib (parsePing id)) sock (succeed id []) handled.2.trace) := by
  intro handled
  have dispatched := dispatch_ping id
  have fits := @response_delivered_iff (sampleServer (parsePing id)) world sock connected timed
    (.calm .open) (pingRequest id) _ _ ⟨rfl, rfl⟩ dispatched
  have large := length_pong_le prettyWriter.format id
  refine fits.not.mpr (not_fits_of_compact (dispatchLine_named dispatched).2 ?_)
  exact Nat.lt_of_lt_of_le (by rw [maxLine]; omega) large

/-- A `ping` of the greatest length that the framing accepts, and a message with a body
of the size of the buffer. -/
theorem large_not_delivered {id body : Bytes} (size : id.length = 8169)
    (singleLine : lineFeed ∉ id) (large : body.length = 8192) :
    let srv := sampleServer (parsePing id)
    let world := (Machine.run srv.step Server.start [.connect]).world
    let event : Event := .incomingMessage [] [] [] body
    world.conn.active = true ∧ (pingRequest id).length = 8191 ∧ lineFeed ∉ pingRequest id ∧
      ¬ ((srv.handleLine (.calm .open) (pingRequest id) world).1 = .success ∧
        Delivered srv.lib 0 (succeed id [])
          (srv.handleLine (.calm .open) (pingRequest id) world).2.trace) ∧
      ¬ ((srv.eventsPush .callback event .open world).1 = .success ∧
        Delivered srv.lib 0 (event.message srv.lib)
          (srv.eventsPush .callback event .open world).2.trace) := by
  intro srv world event
  have connected : world.connected = some 0 := rfl
  have timed : srv.Timed world := (SingleConnection.run srv [.connect]).timed
  refine ⟨rfl, ?_, ?_, ?_, ?_⟩
  · rw [length_pingRequest, size]
  · have outside : lineFeed ∉ ascii "\x7b\"id\":\"" ∧
        lineFeed ∉ ascii "\",\"cmd\":\"ping\"\x7d" := by decide
    simp only [pingRequest, List.mem_append, outside, singleLine, or_self, not_false_eq_true]
  · exact long_ping_fails (by omega) connected timed
  · have fits := @event_delivered_iff srv world 0 connected timed .callback event .open
      ⟨rfl, rfl⟩ rfl
    refine fits.not.mpr (not_fits_of_compact (event.message_named _) ?_)
    exact Nat.lt_of_le_of_lt (by rw [large, maxLine]) (length_body_le srv.lib [] [] [] body)

/-- Such a request loses the connection without a response, and such a message is lost. -/
theorem long_messages_not_delivered :
    let id := List.replicate 8169 97
    let srv := sampleServer (parsePing id)
    let world := (Machine.run srv.step Server.start [.connect]).world
    let event : Event := .incomingMessage [] [] [] (List.replicate 8192 97)
    world.conn.active = true ∧ (pingRequest id).length = 8191 ∧ lineFeed ∉ pingRequest id ∧
      ¬ ((srv.handleLine (.calm .open) (pingRequest id) world).1 = .success ∧
        Delivered srv.lib 0 (succeed id [])
          (srv.handleLine (.calm .open) (pingRequest id) world).2.trace) ∧
      ¬ ((srv.eventsPush .callback event .open world).1 = .success ∧
        Delivered srv.lib 0 (event.message srv.lib)
          (srv.eventsPush .callback event .open world).2.trace) := by
  refine large_not_delivered List.length_replicate (fun member => ?_) List.length_replicate
  cases List.eq_of_mem_replicate member

end Pjsocky
