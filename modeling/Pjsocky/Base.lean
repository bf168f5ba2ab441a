import Pjsocky.Support.JsonText

/-!
# Statuses

The `pj_status_t` values the daemon returns or compares against. Errors of the
operating system and of the SIP and media libraries keep their number.
-/

namespace Pjsocky

export Support (Bytes ascii)

/-- `pj_status_t`. -/
inductive Status where
  | success
  | eeof
  | epending
  | etimedout
  | etoobig
  | einval
  | eexists
  | einvalidop
  | enomem
  | enotfound
  | fromOs (errno : Nat)
  | library (code : Nat)
deriving DecidableEq, Repr

/-- A status that reports an error. -/
abbrev Failure := { status : Status // status ≠ .success }

/-- `EAGAIN`, which on Linux is also `EWOULDBLOCK`. -/
def eagain : Nat := 11

/-- `EINTR`. -/
def eintr : Nat := 4

/-- `is_would_block`. -/
def isWouldBlock (status : Status) : Bool := status = .fromOs eagain

end Pjsocky
