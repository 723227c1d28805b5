import BookmarkHub.Proofs.Connection.Accounts
import BookmarkHub.Proofs.Hub.Calls
import Mathlib.Logic.Function.Basic

/-!
# A running hub with its clients

The hub takes events, its clients run by themselves, and for every call that
was relayed a task waits until the client tells what became of the request, and
then posts the answer.  All of this happens in any order, also after the hub
has stopped.  Every post and every request is kept with the number of the call
that caused it.
-/

set_option autoImplicit false

namespace BookmarkHub

/-- Something that was posted through a link, and the call that caused it. -/
structure Posted where
  cause : Option Nat
  link : Link
  command : HubCommand

/-- A task that waits for what becomes of a request, and the call that caused it. -/
structure RelayTask where
  cause : Option Nat
  relay : Relay
  client : ClientId
  ticket : Ticket
  isDone : Bool := false

inductive HubRequest where
  | openPage (page : Page) (tab : Option Tab)
  | openForActiveTab (page : Page)
  | closePage (caller : HubCaller) (key : String)
  | setClient (client : Option ClientId)
  | listPages (caller : HubCaller)
  | shutdown

def HubRequest.event : HubRequest → HubEvent
  | .openPage page tab => .openPage page tab
  | .openForActiveTab page => .openForActiveTab page
  | .closePage caller key => .closePage caller key
  | .setClient client => .setClient client
  | .listPages caller => .listPages caller
  | .shutdown => .shutdown

/-- What can happen to a hub, its surfaces, its clients and its tasks.  The hub takes the oldest
event, or stops.  A task that wakes looks whether its request has an outcome. -/
inductive HubMove where
  | take (windowOpens : Bool)
  | ask (request : HubRequest)
  | connectPage (key : String)
  | abandonConnect (link : Nat)
  | connectBridge
  | sendMessage (link : Nat) (command : SurfaceCommand)
  | dropSurface (link : Nat)
  | tabFound (page : Page) (tab : Option Tab)
  | holdHandle
  | dropHandle
  | client (client : ClientId) (moment : Moment)
  | wake (task : Nat)

structure Switchboard where
  loop : HubLoop := {}
  clients : ClientId → History
  calls : List Call := []
  tasks : List RelayTask := []
  posted : List Posted := []

namespace Switchboard

def start (options : ClientId → ConnectionOptions) : Switchboard where
  clients client := History.start (options client)

def tellClient (client : ClientId) (moment : Moment) (board : Switchboard) : Switchboard :=
  { board with
    clients := Function.update board.clients client ((board.clients client).extend moment) }

/-- What is handed to a client looks at nothing around it. -/
def hand (client : ClientId) (happening : Happening) (board : Switchboard) : Switchboard :=
  board.tellClient client ⟨.timely 0 0 fun _ => true, happening⟩

def apply (cause : Option Nat) (board : Switchboard) : HubLoopEffect → Switchboard
  | .act (.post link command) =>
      { board with posted := board.posted ++ [⟨cause, link, command⟩] }
  | .act (.submit client relay operation) =>
      let ticket := (board.clients client).requests.length
      { board.hand client (.send operation.toRequest) with
        tasks := board.tasks ++ [{ cause, relay, client, ticket }] }
  | .act (.closeClient client) => board.hand client .close
  | .act (.window _) | .lookUpTab _ | .answer _ => board

def perform (cause : Option Nat) (handled : HubLoop.Handled) (board : Switchboard) :
    Switchboard :=
  handled.2.foldl (apply cause) { board with loop := handled.1 }

/-- Posts the answer of a task whose request has an outcome. -/
def wake (number : Nat) (board : Switchboard) : Switchboard :=
  match board.tasks[number]? with
  | none => board
  | some task =>
      match task.isDone, (board.clients task.client).outcome? task.ticket with
      | false, some outcome =>
          { board with
            tasks := board.tasks.set number { task with isDone := true }
            posted := board.posted ++
              [⟨task.cause, task.relay.link, task.relay.answer outcome⟩] }
      | _, _ => board

def step (board : Switchboard) : HubMove → Switchboard
  | .take windowOpens =>
      let call := board.loop.call?
      { board with calls := board.calls ++ call.toList }.perform
        (call.map fun _ => board.calls.length) (board.loop.take windowOpens)
  | .ask request => board.perform none (board.loop.post request.event)
  | .connectPage key => board.perform none (board.loop.connectPage key).2
  | .abandonConnect link => { board with loop := board.loop.abandonConnect link }
  | .connectBridge => { board with loop := (board.loop.connectBridge).2.2 }
  | .sendMessage link command => { board with loop := (board.loop.sendMessage link command).2 }
  | .dropSurface link => { board with loop := board.loop.dropSurface link }
  | .tabFound page tab => { board with loop := board.loop.tabFound page tab }
  | .holdHandle => { board with loop := { board.loop with handles := board.loop.handles + 1 } }
  | .dropHandle => { board with loop := { board.loop with handles := board.loop.handles - 1 } }
  | .client client moment => board.tellClient client moment
  | .wake task => board.wake task

def run (options : ClientId → ConnectionOptions) (moves : List HubMove) : Switchboard :=
  moves.foldl step (start options)

theorem run_snoc (options : ClientId → ConnectionOptions) (moves : List HubMove)
    (move : HubMove) : run options (moves ++ [move]) = (run options moves).step move := by
  rw [run, List.foldl_append]
  rfl

end Switchboard

end BookmarkHub
