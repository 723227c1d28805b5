import BookmarkHub.Hub.State

/-!
# Bridges

A bridge relays the calls of many callers over one link.  It numbers the calls
from one in the order in which it takes them; these numbers say nothing about
those that go over a socket.  When the hub lets go of the link, or when nobody
holds the bridge any more, the bridge stops, and calls without an answer fail.
-/

set_option autoImplicit false

namespace BookmarkHub

abbrev BridgeTicket := Nat

inductive BridgeRequest where
  | call (ticket : BridgeTicket) (func : String) (args : List Json)
  | count (ticket : BridgeTicket)
  deriving Inhabited

inductive BridgeEffect where
  | relay (id : Nat) (func : String) (args : List Json)
  | resolve (ticket : BridgeTicket) (result : Except HubError Response)
  | tellCount (ticket : BridgeTicket) (count : Nat)
  | disconnect
  deriving Inhabited

/-- A bridge.  Its callers wait for the hub under the numbers of their calls. -/
structure Bridge where
  mailbox : List BridgeRequest := []
  lastId : Nat := 0
  pending : Table Nat BridgeTicket := Table.empty
  isRunning : Bool := true
  deriving Inhabited

namespace Bridge

abbrev Handled := Bridge × List BridgeEffect

def reject : BridgeRequest → BridgeEffect
  | .call ticket _ _ => .resolve ticket (.error .shutdown)
  | .count ticket => .tellCount ticket 0

def ask (request : BridgeRequest) (bridge : Bridge) : Handled :=
  if bridge.isRunning then ({ bridge with mailbox := bridge.mailbox ++ [request] }, [])
  else (bridge, [reject request])

/-- Handles a request.  A call that the hub will not hear fails at once. -/
def handle (hubHears : Bool) (request : BridgeRequest) (bridge : Bridge) : Handled :=
  match request with
  | .call ticket func args =>
      let id := bridge.lastId + 1
      let bridge := { bridge with lastId := id }
      if hubHears then
        ({ bridge with pending := bridge.pending.insert id ticket }, [.relay id func args])
      else (bridge, [.resolve ticket (.error .shutdown)])
  | .count ticket => (bridge, [.tellCount ticket bridge.pending.size])

def take (hubHears : Bool) (bridge : Bridge) : Handled :=
  match bridge.mailbox with
  | request :: rest =>
      if bridge.isRunning then handle hubHears request { bridge with mailbox := rest }
      else (bridge, [])
  | [] => (bridge, [])

/-- Hears a command of the hub.  Only the answer to a call that waits matters. -/
def hear (command : HubCommand) (bridge : Bridge) : Handled :=
  match command with
  | .answer id status body =>
      match bridge.pending.find? id.toNat with
      | some ticket =>
          ({ bridge with pending := bridge.pending.erase id.toNat },
            [.resolve ticket (.ok { id, status, body })])
      | none => (bridge, [])
  | _ => (bridge, [])

def stop (bridge : Bridge) : Handled :=
  if bridge.isRunning then
    ({ bridge with mailbox := [], pending := Table.empty, isRunning := false },
      bridge.pending.values.map (.resolve · (.error .shutdown)) ++
        bridge.mailbox.map reject ++ [.disconnect])
  else (bridge, [])

end Bridge

end BookmarkHub
