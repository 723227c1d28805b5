import BookmarkHub.Connection.Step

/-!
# Connections and their callers

Callers do not step a connection themselves.  They put commands into its
mailbox, from which the connection takes them one at a time, between the other
things that happen to it.  When it stops, what is left in the mailbox is lost,
and requests among it fail.
-/

set_option autoImplicit false

namespace BookmarkHub

inductive CallerCommand where
  | connect
  | submit (ticket : Ticket) (request : Request)
  | listen (listener : Listener)
  | count (caller : Nat)
  | close
  deriving Inhabited

def CallerCommand.event : CallerCommand → ConnectionEvent
  | .connect => .connect
  | .submit ticket request => .submit ticket request
  | .listen listener => .listen listener
  | .count caller => .count caller
  | .close => .close

/-- What a connection meets from outside.  It is abandoned when no caller is left. -/
inductive Occurrence where
  | opened
  | refused
  | frame (text : String)
  | ended
  | retryDue
  | paceDue
  | abandoned

def Occurrence.event : Occurrence → ConnectionEvent
  | .opened => .opened
  | .refused => .refused
  | .frame text => .frame text
  | .ended => .ended
  | .retryDue => .retryDue
  | .paceDue => .paceDue
  | .abandoned => .close

/-- A connection with its mailbox, oldest command first. -/
structure Endpoint where
  connection : Connection
  mailbox : List CallerCommand := []
  deriving Inhabited

namespace Endpoint

abbrev Handled := Endpoint × List ConnectionEffect

def create (options : ConnectionOptions) : Endpoint := ⟨.create options, []⟩

def isRunning (endpoint : Endpoint) : Bool := !endpoint.connection.stopped

def reject : CallerCommand → List ConnectionEffect
  | .submit ticket _ => [.resolve ticket (.error .closed)]
  | .count caller => [.tellCounts caller (.error .closed)]
  | _ => []

def post (command : CallerCommand) (endpoint : Endpoint) : Handled :=
  if endpoint.isRunning then
    ({ endpoint with mailbox := endpoint.mailbox ++ [command] }, [])
  else (endpoint, reject command)

def connecting (options : ConnectionOptions) : Endpoint := ((create options).post .connect).1

def send (ticket : Ticket) (request : Request) (endpoint : Endpoint) : Handled :=
  endpoint.post (.submit ticket request)

/-- Registers a listener.  When it wants to be told at once of a socket that is
open already, it is told inside the call; one that is told only once is then
not registered. -/
def onConnected (label : String) (once immediately : Bool) (endpoint : Endpoint) :
    Handled × List String :=
  let isOpen := endpoint.connection.phase = .connected
  if immediately ∧ isOpen then
    if once then ((endpoint, []), [label])
    else (endpoint.post (.listen ⟨label, once⟩), [label])
  else (endpoint.post (.listen ⟨label, once⟩), [])

def settleStopped (handled : Handled) : Handled :=
  let (endpoint, effects) := handled
  if endpoint.isRunning then (endpoint, effects)
  else ({ endpoint with mailbox := [] }, effects ++ endpoint.mailbox.flatMap reject)

def tell (around : Surroundings) (event : ConnectionEvent) (endpoint : Endpoint) : Handled :=
  let (connection, effects) := Connection.step around event endpoint.connection
  settleStopped ({ endpoint with connection }, effects)

def takeCommand (around : Surroundings) (endpoint : Endpoint) : Handled :=
  match endpoint.mailbox with
  | [] => (endpoint, [])
  | command :: rest => tell around command.event { endpoint with mailbox := rest }

end Endpoint

end BookmarkHub
