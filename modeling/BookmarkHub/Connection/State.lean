import BookmarkHub.Connection.Failure
import BookmarkHub.Settings.Basic

/-!
# The state of a connection

A connection carries the requests of many callers over one socket.  While the
socket is not open, requests wait in a queue.  On an open socket every request
gets the next number and is pending until a response with that number arrives;
with a pacing delay it waits in a second queue before it is written.

All times are milliseconds on one clock, which the surroundings tell.
-/

set_option autoImplicit false

namespace BookmarkHub

inductive Phase where
  | disconnected
  | connecting
  | connected
  deriving DecidableEq, Repr, Inhabited

def Phase.name : Phase → String
  | .disconnected => "Disconnected"
  | .connecting => "Connecting"
  | .connected => "Connected"

/-- The caller that waits for a request. -/
abbrev Ticket := Nat

structure ConnectionOptions where
  pacing : Option Nat := none
  reconnect : ReconnectPolicy := {}
  deriving DecidableEq, Repr, Inhabited

def ConnectionOptions.ofSettings (settings : Settings) : ConnectionOptions where
  pacing := settings.pacingDelay
  reconnect := settings.reconnect

structure Listener where
  label : String
  once : Bool
  deriving DecidableEq, Repr, Inhabited

/-- A request that waits for the socket to open. -/
structure Queued where
  ticket : Ticket
  request : Request
  deriving Inhabited

/-- A numbered request that waits out the pacing delay. -/
structure Paced where
  deadline : Nat
  id : Nat
  request : Request
  deriving Inhabited

/-- A number that is given to a request on a socket, and the caller that waited under it before. -/
structure Numbering where
  queued : Queued
  id : Nat
  socket : Option Nat
  displaced : Option Ticket
  deriving Inhabited

def Numbering.request (numbering : Numbering) : Request :=
  { numbering.queued.request with id := UInt64.ofNat numbering.id }

/-- The timer of the next attempt to open a socket: when it was armed, and for how long. -/
structure RetryTimer where
  armed : Nat
  wait : Nat
  deriving DecidableEq, Repr, Inhabited

def RetryTimer.isOver (now : Nat) (timer : RetryTimer) : Bool :=
  decide (timer.armed + timer.wait ≤ now)

/-- The queue and the paced requests stand oldest first.  The callers that wait for a response are
pending under the numbers of their requests.  The last deadline is the one that was given last on
this socket, and the backoff is the next wait before an attempt. -/
structure Connection where
  options : ConnectionOptions
  phase : Phase := .disconnected
  dialing : Bool := false
  writer : Option Nat := none
  reader : Option Nat := none
  queue : List Queued := []
  pending : Table Nat Ticket := Table.empty
  paced : List Paced := []
  lastDeadline : Option Nat := none
  paceTimer : Option Nat := none
  retryTimer : Option RetryTimer := none
  listeners : List Listener := []
  lastId : Nat := 0
  backoff : Nat
  sockets : Nat := 0
  stopped : Bool := false
  deriving Inhabited

/-- What surrounds a step: the time, a random number, which of the numbered
requests the open socket would take, and which waits have come to their end.
A wait is handed to the runtime, so that its end is the runtime's to tell. -/
structure Surroundings where
  now : Nat
  jitter : Nat
  accepts : Nat → Bool
  rings : RetryTimer → Bool

/-- Surroundings in which every timer rings once its wait is over. -/
def Surroundings.timely (now jitter : Nat) (accepts : Nat → Bool) : Surroundings where
  now := now
  jitter := jitter
  accepts := accepts
  rings := RetryTimer.isOver now

/-- What a connection can be told.  It is told to close by a caller, or when no caller is left. -/
inductive ConnectionEvent where
  | connect
  | submit (ticket : Ticket) (request : Request)
  | listen (listener : Listener)
  | count (caller : Nat)
  | close
  | opened
  | refused
  | frame (text : String)
  | ended
  | retryDue
  | paceDue
  deriving Inhabited

/-- What a connection does.  Some of it is seen by nobody outside.  A numbered request is stranded
if there is no socket to write it to. -/
inductive ConnectionEffect where
  | dial
  | enter (phase : Phase)
  | accept (queued : Queued)
  | number (numbering : Numbering)
  | write (socket : Nat) (id : Nat) (request : Request)
  | strand (id : Nat)
  | receive (socket : Nat) (text : String)
  | resolve (ticket : Ticket) (outcome : Outcome)
  | notify (label : String)
  | tellCounts (caller : Nat) (counts : Except Failure (Nat × Nat))
  | hangUp (socket : Nat)
  deriving Inhabited

namespace Connection

def create (options : ConnectionOptions) : Connection where
  options := options
  backoff := options.reconnect.initialBackoff.toNat

def counts (connection : Connection) : Nat × Nat :=
  (connection.pending.size, connection.queue.length)

end Connection

end BookmarkHub
