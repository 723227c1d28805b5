import BookmarkHub.Connection.Failure
import BookmarkHub.Page.Registry
import BookmarkHub.Wire.HubCommand

/-!
# Relayed calls

A surface has no connection of its own.  The hub hands its calls to the client
and posts what becomes of them through the link that a call came from, under
the number that the surface gave it.
-/

set_option autoImplicit false

namespace BookmarkHub

structure Relay where
  link : Link
  id : UInt64
  deriving DecidableEq, Repr, Inhabited

namespace Relay

/-- The status of an answer when nobody is logged in. -/
def notAuthenticated : UInt16 := 401

def badRequest : UInt16 := 400

/-- The status of an answer when the connection failed. -/
def unavailable : UInt16 := 503

def errorBody (message : String) : Json := .record [("error", .text message)]

def refuse (relay : Relay) (status : UInt16) (message : String) : HubCommand :=
  .answer relay.id status (errorBody message)

def answer (relay : Relay) (outcome : Outcome) : HubCommand :=
  match outcome with
  | .ok response => .answer relay.id response.status response.body
  | .error failure => relay.refuse unavailable failure.message

end Relay

end BookmarkHub
