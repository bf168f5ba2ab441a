import Pjsocky.Framing.Message
import Pjsocky.Pjsua

/-!
# Event messages

Every event the daemon pushes, with the data its builder reads, and the message
`pjsocky_events_push` builds from it. The builders are those of `server.c`,
`account.c`, `call.c` and `im.c`.
-/

namespace Pjsocky

open Support

/-- Members of a JSON object, in order. -/
abbrev Members := List (Bytes × JsonElem)

/-- `pjsocky_json_add_string` and `pjsocky_json_add_str`. -/
def addString (name : String) (value : Bytes) : Bytes × JsonElem := (ascii name, .str value)

/-- `pjsocky_json_add_bool`. -/
def addBool (name : String) (value : Bool) : Bytes × JsonElem := (ascii name, .bool value)

/-- `pjsocky_json_add_number` of an integer. -/
def addNumber (name : String) (value : Int) : Bytes × JsonElem :=
  (ascii name, .num (toFloat value))

/-- What the daemon links against: `pj_json_write`, `pj_json_parse` with the
number of bytes it left unread, `pj_strerror`, and the two version strings that
are not literals of the sources. -/
structure Pjlib where
  writer : JsonWriter
  parse : Bytes → Option (JsonElem × Nat)
  strerror : Status → Bytes
  daemonVersion : Bytes
  pjsipVersion : Bytes

/-- `pjsocky_call_state_str`. -/
def callStateStr : InvState → Bytes
  | .null => ascii "NULL"
  | .calling => ascii "CALLING"
  | .incoming => ascii "INCOMING"
  | .early => ascii "EARLY"
  | .connecting => ascii "CONNECTING"
  | .confirmed => ascii "CONFIRMED"
  | .disconnected => ascii "DISCONNECTED"

/-- Whether a media list has an active stream of a type, as the loops of
`build_call_media_state_data` and `cmd_call_get_info` compute it. -/
def hasActive (type : MediaType) (media : List CallMedia) : Bool :=
  media.any fun stream => stream.status = .active && stream.type = type

/-- The events of the protocol and what their builders read. -/
inductive Event where
  | hello
  | error (code message : Bytes)
  | regState (info : AccInfo) (registered : Bool)
  | incomingCall (info : CallInfo)
  | callState (info : CallInfo)
  | callMediaState (info : CallInfo)
  | incomingMessage (source target mimeType body : Bytes)
  | messageStatus (target body : Bytes) (status : Nat) (reason : Bytes)
  | typing (source target : Bytes) (isTyping : Bool)

/-- `PJSOCKY_PROTOCOL_VERSION`. -/
def protocolVersion : Bytes := ascii "1.1.0"

/-- `pjsocky_version_fill`. -/
def versionFill (lib : Pjlib) : Members :=
  [addString "protocol_version" protocolVersion,
    addString "daemon_version" lib.daemonVersion,
    addString "pjsip_version" lib.pjsipVersion]

namespace Event

def name : Event → Bytes
  | .hello => ascii "hello"
  | .error .. => ascii "error"
  | .regState .. => ascii "reg_state"
  | .incomingCall _ => ascii "incoming_call"
  | .callState _ => ascii "call_state"
  | .callMediaState _ => ascii "call_media_state"
  | .incomingMessage .. => ascii "incoming_message"
  | .messageStatus .. => ascii "message_status"
  | .typing .. => ascii "typing"

/-- The builders: `build_hello_data`, `build_error_event_data`,
`build_reg_state_data`, `build_incoming_call_data`, `build_call_state_data`,
`build_call_media_state_data`, `build_incoming_message_data`,
`build_message_status_data` and `build_typing_data`. -/
def data (lib : Pjlib) : Event → Members
  | .hello => versionFill lib
  | .error code message => [addString "code" code, addString "message" message]
  | .regState info registered =>
      [addNumber "acc_id" info.id, addNumber "status" info.status,
        addString "status_text" info.statusText, addBool "registered" registered]
  | .incomingCall info =>
      [addNumber "call_id" info.id, addNumber "acc_id" info.accId,
        addString "from" info.remoteInfo, addBool "has_video" (0 < info.remVidCnt)]
  | .callState info =>
      [addNumber "call_id" info.id, addString "state" (callStateStr info.state),
        addNumber "last_status" info.lastStatus,
        addString "last_status_text" info.lastStatusText]
  | .callMediaState info =>
      [addNumber "call_id" info.id, addBool "has_audio" (hasActive .audio info.media),
        addBool "has_video" (hasActive .video info.media)]
  | .incomingMessage source target mimeType body =>
      [addString "from" source, addString "to" target, addString "mime_type" mimeType,
        addString "body" body]
  | .messageStatus target body status reason =>
      [addString "to" target, addString "body" body, addNumber "status" status,
        addString "reason" reason]
  | .typing source target isTyping =>
      [addString "from" source, addString "to" target, addBool "is_typing" isTyping]

/-- The message of an event, as `pjsocky_events_push` builds it. -/
def message (lib : Pjlib) (event : Event) : JsonElem :=
  .obj [addString "event" event.name, (ascii "data", .obj (event.data lib))]

/-- Every member of an event message has a name. -/
theorem message_named (lib : Pjlib) (event : Event) : (event.message lib).Named := by
  cases event <;>
    simp only [message, data, versionFill, name, addString, addBool, addNumber, Json.Named,
      Json.NamedMembers] <;>
    decide

end Event
end Pjsocky
