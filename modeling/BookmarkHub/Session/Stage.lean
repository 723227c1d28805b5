import BookmarkHub.Hub.Handler
import BookmarkHub.Session.Network

/-!
# The stage of a hub

A hub is rehearsed on a stage: surfaces that keep what they are told, windows
that record what is asked of them, and clients on a rehearsed network.  The
stage carries out what the hub does, and posts the answers of relayed calls
when the clients have them.
-/

set_option autoImplicit false

namespace BookmarkHub

/-- A channel through which the hub tells a surface something. -/
structure Channel where
  link : Nat
  arrived : List HubCommand := []
  isReceived : Bool := true
  isReported : Bool := false
  deriving Inhabited

structure Stage where
  network : Network := {}
  channels : List Channel := []
  relays : Table Ticket Relay := Table.empty
  nextTicket : Ticket := 0
  windowOpens : Bool := true
  windows : List WindowRequest := []
  deriving Inhabited

namespace Stage

def openChannel (id : Nat) (stage : Stage) : Link × Stage :=
  (⟨id, stage.channels.length⟩, { stage with channels := stage.channels ++ [{ link := id }] })

def updateChannel (channel : Nat) (change : Channel → Channel) (stage : Stage) : Stage :=
  { stage with channels := stage.channels.modify channel change }

def post (link : Link) (command : HubCommand) (stage : Stage) : Stage :=
  stage.updateChannel link.channel fun channel =>
    if channel.isReceived then { channel with arrived := channel.arrived ++ [command] }
    else channel

def apply (stage : Stage) : HubEffect → Stage
  | .post link command => stage.post link command
  | .window request => { stage with windows := stage.windows ++ [request] }
  | .submit client relay operation =>
      { stage with
        relays := stage.relays.insert stage.nextTicket relay
        nextTicket := stage.nextTicket + 1
        network := stage.network.post client (.submit stage.nextTicket operation.toRequest) }
  | .closeClient client => { stage with network := stage.network.post client .close }

def answer (stage : Stage) (resolved : Ticket × Outcome) : Stage :=
  match stage.relays.find? resolved.1 with
  | none => stage
  | some relay =>
      { stage.post relay.link (relay.answer resolved.2) with
        relays := stage.relays.erase resolved.1 }

/-- Lets everything happen on the network that can happen without the clock
moving, and posts the answers. -/
def run (stage : Stage) : Stage :=
  let network := stage.network.run
  network.resolved.foldl answer { stage with network := { network with resolved := [] } }

def letWindowsOpen (opens : Bool) (stage : Stage) : Stage := { stage with windowOpens := opens }

def advance (milliseconds : Nat) (stage : Stage) : Stage :=
  { stage with network := { stage.network with now := stage.network.now + milliseconds } }

/-! ## Reports -/

/-- The channels that a hub, or a call that it relays, still holds. -/
def heldChannels (hub : Hub) (stage : Stage) : List Nat :=
  let attached := hub.registry.pages.values.filterMap PageContext.link
  (attached ++ hub.bridges.values ++ stage.relays.values.map Relay.link).map Link.channel

def released (hub : Hub) (stage : Stage) : List Nat :=
  let held := stage.heldChannels hub
  stage.channels.zipIdx.filterMap fun (channel, number) =>
    if channel.isReceived && !channel.isReported && !held.contains number then some number
    else none

def unavailableId? : HubCommand → Option UInt64
  | .answer id status _ => if status = Relay.unavailable then some id else none
  | _ => none

def insertAnswer (command : HubCommand) : List HubCommand → List HubCommand
  | [] => [command]
  | next :: rest =>
      match unavailableId? command, unavailableId? next with
      | some id, some other =>
          if id ≤ other then command :: next :: rest else next :: insertAnswer command rest
      | _, _ => command :: next :: rest

/-- Sorts each run of answers that say that the connection failed by their
numbers; such answers come in no order of their own. -/
def sortAnswers (commands : List HubCommand) : List HubCommand :=
  commands.foldr insertAnswer []

def posted (stage : Stage) : List (Nat × List HubCommand) :=
  stage.channels.zipIdx.filterMap fun (channel, number) =>
    if channel.arrived.isEmpty then none else some (number, sortAnswers channel.arrived)

def linkOf (stage : Stage) (channel : Nat) : Nat :=
  ((stage.channels[channel]?).map Channel.link).getD 0

/-- The stage after a report of what a hub has let go of. -/
def forgetReported (hub : Hub) (stage : Stage) : Stage :=
  let gone := stage.released hub
  { stage with
    network := stage.network.forgetReported
    windows := []
    channels := stage.channels.zipIdx.map fun (channel, number) =>
      { channel with
        arrived := []
        isReported := channel.isReported || gone.contains number } }

end Stage

end BookmarkHub
