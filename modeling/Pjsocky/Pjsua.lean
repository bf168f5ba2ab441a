import Mathlib.Algebra.Group.Nat.Defs
import Mathlib.Data.Rat.Defs
import Pjsocky.Base

/-!
# pjsua's data types

The parts of pjsua-lib's data that the daemon reads or fills in: calls, their media, the
account and the devices. Lists stand for the counted arrays. Numbers leave the daemon through
`pjsocky_json_add_number`, which carries a C `float`; `toFloat` is that
conversion.
-/

namespace Pjsocky

/-- `pjsua_call_id` and `pjsua_acc_id`. -/
abbrev CallId := Int
abbrev AccId := Int

/-- `PJSUA_INVALID_ID`. -/
def invalidId : Int := -1

/-- The conversion of an integer to `float`: 24 significant bits, rounded to
nearest with ties to even. -/
def toFloat (value : Int) : ℚ :=
  let magnitude := value.natAbs
  if magnitude < 2 ^ 24 then value
  else
    let unit := 2 ^ (magnitude.log2 - 23)
    let quotient := magnitude / unit
    let rest := magnitude % unit
    let rounded :=
      if 2 * rest < unit then quotient
      else if unit < 2 * rest then quotient + 1
      else quotient + quotient % 2
    value.sign * (rounded * unit : Nat)

/-- `pjsip_inv_state`. -/
inductive InvState where
  | null
  | calling
  | incoming
  | early
  | connecting
  | confirmed
  | disconnected
deriving DecidableEq, Repr

/-- `pjmedia_type`. -/
inductive MediaType where
  | none
  | audio
  | video
  | application
  | text
  | unknown
deriving DecidableEq, Repr

/-- `pjsua_call_media_status`. -/
inductive MediaStatus where
  | none
  | active
  | localHold
  | remoteHold
  | error
deriving DecidableEq, Repr

/-- `pjmedia_dir`, by its two bits. -/
structure MediaDir where
  encoding : Bool
  decoding : Bool
deriving DecidableEq, Repr

/-- `pjsua_call_media_info`. -/
structure CallMedia where
  type : MediaType
  status : MediaStatus
  dir : MediaDir
  /-- `stream.aud.conf_slot`, for an audio stream. -/
  confSlot : Int
deriving DecidableEq, Repr

/-- `pjsua_call_info`. -/
structure CallInfo where
  id : CallId
  accId : AccId
  state : InvState
  lastStatus : Nat
  lastStatusText : Bytes
  remoteInfo : Bytes
  media : List CallMedia
  remAudCnt : Nat
  remVidCnt : Nat
  connectDurationSec : Int
deriving DecidableEq, Repr

/-- `pjsua_acc_info`. -/
structure AccInfo where
  id : AccId
  status : Nat
  statusText : Bytes
deriving DecidableEq, Repr

/-- `pjsip_cred_info`. -/
structure CredInfo where
  realm : Bytes
  scheme : Bytes
  username : Bytes
  dataType : Nat
  data : Bytes
deriving DecidableEq, Repr

/-- `PJSIP_CRED_DATA_PLAIN_PASSWD`. -/
def credDataPlainPasswd : Nat := 0

/-- `PJSUA_SND_DEV_NO_IMMEDIATE_OPEN`. -/
def sndDevNoImmediateOpen : Nat := 2

/-- `pjsua_acc_config`, the fields the daemon sets. -/
structure AccConfig where
  id : Bytes
  regUri : Bytes
  registerOnAccAdd : Bool
  vidInAutoShow : Bool
  vidOutAutoTransmit : Bool
  vidCapDev : Int
  credInfo : List CredInfo
deriving DecidableEq, Repr

/-- `pjmedia_aud_dev_info`. -/
structure AudDevInfo where
  id : Int
  name : Bytes
  inputCount : Nat
  outputCount : Nat
deriving DecidableEq, Repr

/-- `pjmedia_vid_dev_info`; `PJMEDIA_DIR_CAPTURE` and `PJMEDIA_DIR_RENDER` are the encoding
and the decoding bit. -/
structure VidDevInfo where
  id : Int
  name : Bytes
  driver : Bytes
  dir : MediaDir
deriving DecidableEq, Repr

end Pjsocky
