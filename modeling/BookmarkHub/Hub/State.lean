import BookmarkHub.Hub.Relay
import BookmarkHub.Page.Window

/-!
# The state of the hub

The hub coordinates the surfaces: it knows the open pages, the links of the
bridges, and the client that is logged in.  Pages talk to it through links and
never see the client.
-/

set_option autoImplicit false

namespace BookmarkHub

/-- The connection that a client is a handle of.  Two clients may share one. -/
abbrev ClientId := Nat

inductive HubError where
  | protocolViolation (key : String) (error : AttachError)
  | unknownPage (key : String)
  | call (error : CallError)
  | windowing (message : String)
  | shutdown
  deriving Inhabited

def HubError.message : HubError → String
  | .protocolViolation key error =>
      "protocol violation for page " ++ key ++ ": " ++ error.message
  | .unknownPage key => "unknown page: " ++ key
  | .call error => error.message
  | .windowing message => "windowing: " ++ message
  | .shutdown => "hub is shut down"

structure Hub where
  registry : Registry := {}
  bridges : Table Nat Link := Table.empty
  client : Option ClientId := none
  window : WindowSize := {}
  deriving DecidableEq, Inhabited

inductive HubEffect where
  | post (link : Link) (command : HubCommand)
  | window (request : WindowRequest)
  | submit (client : ClientId) (relay : Relay) (operation : Operation)
  | closeClient (client : ClientId)
  deriving Inhabited

/-- What the hub does, what becomes of it, and what it answers. -/
structure Hub.Handled where
  result : Except HubError Unit := .ok ()
  hub : Hub
  effects : List HubEffect := []
  deriving Inhabited

end BookmarkHub
