import LogRelay.Wire.Call
import LogRelay.Wire.Reply

set_option autoImplicit false

namespace LogRelay.Delivery

open Wire

inductive Failure where
  | unresolved (address : String)
  | refused (address cause : String)
  | notConnected
  | transport (cause : String)
  | protocol (detail : String)
  | oversize (length limit : Nat)
  | application (text : String)
deriving DecidableEq, Repr

namespace Failure

def message : Failure → String
  | .unresolved address => "could not resolve " ++ address
  | .refused address cause => "connect to " ++ address ++ " failed: " ++ cause
  | .notConnected => "not connected"
  | .transport cause => "transport error: " ++ cause
  | .protocol detail => "protocol error: " ++ detail
  | .oversize length limit =>
      "message of " ++ toString length ++ " bytes exceeds frame limit of " ++ toString limit
  | .application text => "remote application error: " ++ text

-- Whether the failure arose before any byte could reach the collector.
def precedesConnection : Failure → Bool
  | .unresolved _ => true
  | .refused _ _ => true
  | .notConnected => true
  | _ => false

-- An oversized message is refused before anything is written, so the connection is still in step
-- with the collector; after any other failure it must not be used again.
def endsConnection : Failure → Bool
  | .oversize _ _ => false
  | _ => true

def cause? : Failure → Option String
  | .refused _ cause => some cause
  | .transport cause => some cause
  | _ => none

def ofFault (fault : Fault) : Failure := .protocol fault.message

def ofReplyError : ReplyError → Failure
  | .fault fault => ofFault fault
  | .application text => .application text

def ofOversize (oversize : Oversize) : Failure :=
  .oversize oversize.length oversize.limit

end Failure

end LogRelay.Delivery
