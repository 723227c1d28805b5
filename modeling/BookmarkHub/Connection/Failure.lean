import BookmarkHub.Operation.Call
import BookmarkHub.Text.Duration

/-!
# Why a request has no response

A response with another status than 200 is still a response.  A request fails
when the connection is lost or closed, when its caller stops waiting, or when
it was no operation in the first place.
-/

set_option autoImplicit false

namespace BookmarkHub

inductive Failure where
  | disconnected
  | closed
  | transport (message : String)
  | timeout (limit : Nat)
  | call (error : CallError)
  deriving Inhabited

abbrev Outcome := Except Failure Response

namespace Failure

def message : Failure → String
  | .disconnected => "connection lost before a response arrived"
  | .closed => "connection closed"
  | .transport message => "transport error: " ++ message
  | .timeout limit => "no response within " ++ Duration.toText limit
  | .call error => error.message

def isCallerError : Failure → Bool
  | .call _ => true
  | _ => false

end Failure

end BookmarkHub
