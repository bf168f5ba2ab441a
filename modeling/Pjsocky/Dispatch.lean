import Pjsocky.Event

/-!
# Request dispatch

`dispatchLine` is `pjsocky_dispatch_line` of `dispatch.c`: the envelope around the
command handlers. What a handler does is an input; the result records which
handler ran, if any.
-/

namespace Pjsocky

open Support

/-- The handlers of `CMD_TABLE`. -/
inductive CmdFn where
  | ping
  | versionGet
  | statusGet
  | accountConfigure
  | accountRegister
  | accountUnregister
  | accountRemove
  | deviceListAudio
  | deviceListVideo
  | deviceSetAudio
  | deviceSetVideo
  | callDial
  | callHangup
  | callHangupAll
  | callGetInfo
  | callAnswer
  | configSetRingTimeout
  | configGetRingTimeout
  | imSend
  | imTyping
deriving DecidableEq, Repr

/-- `CMD_TABLE`. -/
def cmdTable : List (Bytes × CmdFn) :=
  [(ascii "ping", .ping),
    (ascii "version.get", .versionGet),
    (ascii "status.get", .statusGet),
    (ascii "account.configure", .accountConfigure),
    (ascii "account.register", .accountRegister),
    (ascii "account.unregister", .accountUnregister),
    (ascii "account.remove", .accountRemove),
    (ascii "device.list_audio", .deviceListAudio),
    (ascii "device.list_video", .deviceListVideo),
    (ascii "device.set_audio", .deviceSetAudio),
    (ascii "device.set_video", .deviceSetVideo),
    (ascii "call.dial", .callDial),
    (ascii "call.hangup", .callHangup),
    (ascii "call.hangup_all", .callHangupAll),
    (ascii "call.get_info", .callGetInfo),
    (ascii "call.answer", .callAnswer),
    (ascii "config.set_ring_timeout", .configSetRingTimeout),
    (ascii "config.get_ring_timeout", .configGetRingTimeout),
    (ascii "im.send", .imSend),
    (ascii "im.typing", .imTyping)]

/-- `find_cmd`. -/
def findCmd (name : Bytes) : Option CmdFn :=
  (cmdTable.find? fun entry => entry.1 = name).map (·.2)

/-- `pjsocky_json_find`: the first member of that name. -/
def jsonFind (elem : JsonElem) (name : String) : Option JsonElem :=
  match elem with
  | .obj members => (members.find? fun member => member.1 = ascii name).map (·.2)
  | _ => none

/-- What a handler returns, with the members it added to `result`. -/
structure HandlerResult where
  status : Status
  result : Members
  named : Json.NamedMembers result

/-- The behaviour of the handlers on one request, given its `params`. -/
abbrev Handlers := CmdFn → Option JsonElem → HandlerResult

/-- `error_code_for`. -/
def errorCodeFor : Status → Bytes
  | .eexists | .einvalidop => ascii "invalid_state"
  | .einval => ascii "invalid_params"
  | _ => ascii "pjsua_error"

/-- `fail`. -/
def fail (id code message : Bytes) : JsonElem :=
  .obj [addString "id" id, addBool "ok" false,
    (ascii "error", .obj [addString "code" code, addString "message" message])]

/-- The response to a command that succeeded. -/
def succeed (id : Bytes) (result : Members) : JsonElem :=
  .obj [addString "id" id, addBool "ok" true, (ascii "result", .obj result)]

/-- How a line was dispatched: refused without a response, or answered, possibly
by a handler. -/
inductive Dispatched where
  | rejected (status : Status)
  | answered (response : JsonElem) (ran : Option CmdFn)

/-- `pjsocky_dispatch_line`. -/
def dispatchLine (lib : Pjlib) (handlers : Handlers) (line : Bytes) : Dispatched :=
  match lib.parse line with
  | some (.obj members, _) =>
      let request : JsonElem := .obj members
      match jsonFind request "id" with
      | some (.str id) =>
          match jsonFind request "cmd" with
          | some (.str cmd) =>
              match findCmd cmd with
              | some fn =>
                  let outcome := handlers fn (jsonFind request "params")
                  if outcome.status ≠ .success then
                    .answered (fail id (errorCodeFor outcome.status)
                      (lib.strerror outcome.status)) (some fn)
                  else .answered (succeed id outcome.result) (some fn)
              | none =>
                  .answered (fail id (ascii "unknown_command") (ascii "no such command")) none
          | _ =>
              .answered (fail id (ascii "bad_request")
                (ascii "missing or invalid \"cmd\"")) none
      | _ => .rejected .einval
  | _ => .rejected .einval

end Pjsocky
