import BookmarkHub.Connection.State

/-!
# Steps of a connection

`Connection.step` says what a connection does when it is told something.  What
cannot happen in a state changes nothing: there is no text without a socket,
and no timer fires before it is due.
-/

set_option autoImplicit false

namespace BookmarkHub.Connection

abbrev Handled := Connection × List ConnectionEffect

/-- Handles a connection and then what it has become. -/
def andThen (first : Handled) (next : Connection → Handled) : Handled :=
  let (connection, effects) := first
  let (connection, more) := next connection
  (connection, effects ++ more)

def enter (phase : Phase) (connection : Connection) : Handled :=
  ({ connection with phase }, [.enter phase])

/-! ## Opening a socket -/

/-- Begins an attempt to open a socket, unless one is open or on its way.  A
wait for the next attempt is cut short. -/
def startConnect (connection : Connection) : Handled :=
  match connection.phase with
  | .disconnected =>
      andThen (enter .connecting { connection with retryTimer := none }) fun connection =>
        ({ connection with dialing := true }, [.dial])
  | _ => (connection, [])

def longestWait : Nat := UInt64.size - 1

/-- The wait before an attempt: the backoff and at most a tenth of it. -/
def retryWait (backoff jitter : Nat) : Nat :=
  min (backoff + jitter % (backoff / 10 + 1)) longestWait

def scheduleRetry (around : Surroundings) (connection : Connection) : Connection :=
  if connection.options.reconnect.automatic then
    { connection with
      retryTimer := some ⟨around.now, retryWait connection.backoff around.jitter⟩
      backoff :=
        min (2 * connection.backoff) connection.options.reconnect.maximalBackoff.toNat }
  else connection

def failConnect (around : Surroundings) (connection : Connection) : Handled :=
  andThen (enter .disconnected connection) fun connection =>
    (scheduleRetry around connection, [])

/-! ## Losing a socket -/

def waiting (connection : Connection) : List Ticket :=
  connection.pending.values ++ connection.queue.map Queued.ticket

def rejectAll (failure : Failure) (connection : Connection) : Handled :=
  ({ connection with pending := Table.empty, queue := [] },
    (waiting connection).map fun ticket => .resolve ticket (.error failure))

def hangUp (connection : Connection) : Handled :=
  ({ connection with writer := none, reader := none },
    connection.writer.toList.map .hangUp)

def clearPaced (connection : Connection) : Connection :=
  { connection with paced := [], lastDeadline := none, paceTimer := none }

/-- Gives up the open socket: every waiting caller is told, and the next
attempt is timed. -/
def loseSocket (around : Surroundings) (connection : Connection) : Handled :=
  andThen (hangUp connection) fun connection =>
    andThen (enter .disconnected connection) fun connection =>
      andThen (rejectAll .disconnected (clearPaced connection)) fun connection =>
        (scheduleRetry around connection, [])

def shutDown (connection : Connection) : Handled :=
  andThen (hangUp (clearPaced { connection with dialing := false, retryTimer := none }))
    fun connection =>
      andThen (rejectAll .closed connection) fun connection =>
        enter .disconnected { connection with stopped := true }

/-! ## Writing requests -/

/-- Writes a numbered request.  A socket that does not take it is lost. -/
def write (around : Surroundings) (id : Nat) (request : Request) (connection : Connection) :
    Handled :=
  match connection.writer with
  | none => (connection, [.strand id])
  | some socket =>
      if around.accepts id then (connection, [.write socket id request])
      else loseSocket around connection

/-- The deadline after the last one.  Times are unbounded: it is assumed that the clock can tell
every deadline that is given. -/
def nextDeadline (now delay : Nat) (lastDeadline : Option Nat) : Nat :=
  (lastDeadline.map (max now)).getD now + delay

def pace (around : Surroundings) (delay id : Nat) (request : Request)
    (connection : Connection) : Connection :=
  let deadline := nextDeadline around.now delay connection.lastDeadline
  { connection with
    lastDeadline := some deadline
    paced := connection.paced ++ [⟨deadline, id, request⟩]
    paceTimer := some (connection.paceTimer.getD deadline) }

def nextNumbering (queued : Queued) (connection : Connection) : Numbering :=
  let id := connection.lastId + 1
  ⟨queued, id, connection.writer, connection.pending.find? id⟩

/-- Gives a request a number, under which its caller waits from now on. -/
def number (numbering : Numbering) (connection : Connection) : Handled :=
  ({ connection with
      lastId := numbering.id
      pending := connection.pending.insert numbering.id numbering.queued.ticket },
    [.number numbering])

def transmit (around : Surroundings) (queued : Queued) (connection : Connection) : Handled :=
  let numbering := nextNumbering queued connection
  andThen (number numbering connection) fun connection =>
    match connection.options.pacing with
    | some delay => (pace around delay numbering.id numbering.request connection, [])
    | none => write around numbering.id numbering.request connection

/-- Hands the queue to the open socket, oldest request first, and then tells
the listeners.  When the socket is lost on the way, nobody is told. -/
def flush (around : Surroundings) (queue : List Queued) (connection : Connection) : Handled :=
  match queue with
  | [] =>
      ({ connection with
          queue := []
          listeners := connection.listeners.filter (!·.once) },
        connection.listeners.map fun listener => .notify listener.label)
  | first :: rest =>
      andThen (transmit around first { connection with queue := rest }) fun connection =>
        match connection.phase with
        | .connected => flush around rest connection
        | _ => (connection, [])

def takeSocket (around : Surroundings) (connection : Connection) : Handled :=
  let socket := connection.sockets
  andThen (enter .connected { connection with
    writer := some socket
    reader := some socket
    sockets := socket + 1
    backoff := connection.options.reconnect.initialBackoff.toNat })
    (flush around connection.queue)

def armPaceTimer (connection : Connection) : Connection :=
  match connection.paced with
  | [] => connection
  | first :: _ => { connection with paceTimer := some first.deadline }

def releasePaced (around : Surroundings) (connection : Connection) : Handled :=
  match connection.paced with
  | [] => (connection, [])
  | first :: rest =>
      let connection := { connection with paced := rest }
      andThen
        (if connection.pending.contains first.id then
            write around first.id first.request connection
          else (connection, []))
        fun connection => (armPaceTimer connection, [])

/-! ## Reading responses -/

/-- Hands a response to the caller that waits for its number.  What is no
response, or has no caller, is dropped. -/
def dispatch (text : String) (connection : Connection) : Handled :=
  match Json.ofText Response.read text with
  | .error _ => (connection, [])
  | .ok response =>
      let id := response.id.toNat
      match connection.pending.find? id with
      | none => (connection, [])
      | some ticket =>
          ({ connection with pending := connection.pending.erase id },
            [.resolve ticket (.ok response)])

/-! ## Steps -/

def isDue (now : Nat) (timer : Option Nat) : Bool :=
  match timer with
  | some deadline => decide (deadline ≤ now)
  | none => false

def handle (around : Surroundings) (event : ConnectionEvent) (connection : Connection) :
    Handled :=
  match event with
  | .connect => startConnect connection
  | .submit ticket request =>
      andThen (connection, [.accept ⟨ticket, request⟩]) fun connection =>
        match connection.phase with
        | .connected => transmit around ⟨ticket, request⟩ connection
        | _ => startConnect { connection with queue := connection.queue ++ [⟨ticket, request⟩] }
  | .listen listener =>
      ({ connection with listeners := connection.listeners ++ [listener] }, [])
  | .count caller => (connection, [.tellCounts caller (.ok connection.counts)])
  | .close => shutDown connection
  | .opened =>
      if connection.dialing then takeSocket around { connection with dialing := false }
      else (connection, [])
  | .refused =>
      if connection.dialing then failConnect around { connection with dialing := false }
      else (connection, [])
  | .frame text =>
      match connection.reader with
      | some socket => andThen (connection, [.receive socket text]) (dispatch text)
      | none => (connection, [])
  | .ended => if connection.reader.isSome then loseSocket around connection else (connection, [])
  | .retryDue =>
      if connection.retryTimer.any around.rings then
        startConnect { connection with retryTimer := none }
      else (connection, [])
  | .paceDue =>
      if isDue around.now connection.paceTimer then
        releasePaced around { connection with paceTimer := none }
      else (connection, [])

/-- What a connection does when it is told something.  A closed one only
rejects what callers ask. -/
def step (around : Surroundings) (event : ConnectionEvent) (connection : Connection) :
    Handled :=
  if connection.stopped then
    match event with
    | .submit ticket _ => (connection, [.resolve ticket (.error .closed)])
    | .count caller => (connection, [.tellCounts caller (.error .closed)])
    | _ => (connection, [])
  else handle around event connection

end BookmarkHub.Connection
