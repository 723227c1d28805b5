import BookmarkHub.Connection.Endpoint

/-!
# A rehearsed network

Clients are rehearsed against a server whose every move is given.  The clock
stands still until it is moved, and between two moves everything runs that can
run.  Each accepted socket is a line; lines are numbered in the order in which
they open, over all clients.
-/

set_option autoImplicit false

namespace BookmarkHub

/-- A socket between a client and the server.  One that fails gives the client an error before any
text. -/
structure Line where
  incoming : List String := []
  fails : Bool := false
  serverSends : Bool := true
  serverReads : Bool := true
  clientHolds : Bool := true
  received : List String := []
  leaves : Bool := false
  deriving Inhabited

/-- A client and what its server does about it.  The streak counts the commands that were taken
since something else happened. -/
structure Client where
  endpoint : Endpoint
  refuses : Bool := false
  holds : Bool := false
  listens : Bool := true
  lines : List Nat := []
  holders : Nat := 1
  streak : Nat := 0
  deriving Inhabited

def Client.canFinish (client : Client) : Bool :=
  client.endpoint.connection.dialing && !client.holds

/-- How many commands are taken in a row while an attempt can end. -/
def Client.patience : Nat := 128

def Client.takesCommand (client : Client) : Bool :=
  !client.endpoint.mailbox.isEmpty &&
    (decide (client.streak < patience) || !client.canFinish)

/-- The clients, their server, and what has been seen since the last report.
Which timers have rung at a time is for the runtime to tell. -/
structure Network where
  now : Nat := 0
  rings : Nat → RetryTimer → Bool := RetryTimer.isOver
  lines : List Line := []
  clients : List Client := []
  opened : List Nat := []
  resolved : List (Ticket × Outcome) := []
  notified : List String := []
  deriving Inhabited

structure NetworkReport where
  opened : List Nat
  frames : List (Nat × String)
  hungUp : List Nat
  deriving Inhabited

/-- A move of the server.  What it concerns is given by its number; otherwise
the newest is meant. -/
inductive ServerMove where
  | send (line : Option Nat) (text : String)
  | breakLine (line : Option Nat)
  | stopSending (line : Option Nat)
  | stopReading (line : Option Nat)
  | dropLine (line : Option Nat)
  | refuse (client : Option Nat) (on : Bool)
  | hold (client : Option Nat) (on : Bool)
  | stopListening (client : Option Nat)
  deriving Inhabited

inductive ServerMove.Result where
  | done
  | sent (taken : Bool)
  | noLine
  | noClient
  deriving DecidableEq, Repr, Inhabited

namespace Network

def updateLine (number : Nat) (change : Line → Line) (network : Network) : Network :=
  { network with lines := network.lines.modify number change }

def updateClient (number : Nat) (change : Client → Client) (network : Network) : Network :=
  { network with clients := network.clients.modify number change }

def updateEndpoint (number : Nat) (change : Endpoint → Endpoint) (network : Network) :
    Network :=
  network.updateClient number fun client => { client with endpoint := change client.endpoint }

/-- The line that a socket of a client is. -/
def lineOf? (client : Client) (socket : Option Nat) : Option Nat :=
  socket.bind fun socket => client.lines[socket]?

/-! ## What a client does -/

/-- What surrounds a step of a client.  It writes only to its newest line. -/
def surroundings (network : Network) (client : Client) : Surroundings where
  now := network.now
  jitter := 0
  accepts _ :=
    match client.lines.getLast?.bind (network.lines[·]?) with
    | some line => line.serverReads
    | none => false
  rings := network.rings network.now

def apply (lines : List Nat) (network : Network) : ConnectionEffect → Network
  | .write socket _ request =>
      match lines[socket]? with
      | some line => network.updateLine line fun line =>
          { line with received := line.received ++ [request.toText] }
      | none => network
  | .resolve ticket outcome => { network with resolved := network.resolved ++ [(ticket, outcome)] }
  | .notify label => { network with notified := network.notified ++ [label] }
  | .hangUp socket =>
      match lines[socket]? with
      | some line => network.updateLine line fun line =>
          { line with clientHolds := false, leaves := line.serverReads }
      | none => network
  | .dial | .enter _ | .accept _ | .number _ | .strand _ | .receive _ _ | .tellCounts _ _ => network

def perform (number : Nat) (move : Surroundings → Endpoint → Endpoint.Handled)
    (network : Network) : Network :=
  match network.clients[number]? with
  | none => network
  | some client =>
      let (endpoint, effects) := move (network.surroundings client) client.endpoint
      effects.foldl (apply client.lines) (network.updateEndpoint number fun _ => endpoint)

def tell (number : Nat) (event : ConnectionEvent) (network : Network) : Network :=
  network.perform number fun around => Endpoint.tell around event

def post (number : Nat) (command : CallerCommand) (network : Network) : Network :=
  network.perform number fun _ => Endpoint.post command

/-! ## What happens to a client -/

def openLine (number : Nat) (network : Network) : Network :=
  let line := network.lines.length
  let network := network.updateClient number fun client =>
    { client with lines := client.lines ++ [line] }
  { network with lines := network.lines ++ [{}], opened := network.opened ++ [line] }

/-- What a client reads next, and the network without it. -/
def read? (client : Client) (network : Network) : Option (ConnectionEvent × Network) := do
  let number ← lineOf? client client.endpoint.connection.reader
  let line ← network.lines[number]?
  if line.fails then
    some (.ended, network.updateLine number fun line => { line with fails := false })
  else
    match line.incoming with
    | text :: rest =>
        some (.frame text, network.updateLine number fun line => { line with incoming := rest })
    | [] => if line.serverSends then none else some (.ended, network)

def setStreak (number streak : Nat) (network : Network) : Network :=
  network.updateClient number fun client => { client with streak }

/-- Lets the next thing happen to a client, if anything can happen without the
clock moving.  Commands come first, but not forever. -/
def stepClient? (number : Nat) (network : Network) : Option Network := do
  let client ← network.clients[number]?
  let connection := client.endpoint.connection
  if connection.stopped then none
  else if client.takesCommand then
    some ((network.setStreak number (client.streak + 1)).perform number Endpoint.takeCommand)
  else if client.endpoint.mailbox.isEmpty && client.holders = 0 then
    some (network.tell number .close)
  else if client.canFinish then
    let network := network.setStreak number 0
    if client.refuses || !client.listens then some (network.tell number .refused)
    else some ((network.openLine number).tell number .opened)
  else
    match network.read? client with
    | some (event, network) => some (network.tell number event)
    | none =>
        if connection.retryTimer.any (network.rings network.now) then
          some (network.tell number .retryDue)
        else if Connection.isDue network.now connection.paceTimer then
          some (network.tell number .paceDue)
        else none

def settleClient (number : Nat) : Nat → Network → Network
  | 0, network => network
  | fuel + 1, network =>
      match network.stepClient? number with
      | some network => settleClient number fuel network
      | none => network

def workload (client : Client) (network : Network) : Nat :=
  let connection := client.endpoint.connection
  let unread := client.lines.filterMap fun line => (network.lines[line]?).map (·.incoming.length)
  4 * (client.endpoint.mailbox.length + connection.queue.length + connection.paced.length +
    unread.foldl (· + ·) 0) + 16

/-- Lets everything happen to a client that can happen without the clock moving. -/
def runClient (network : Network) (number : Nat) : Network :=
  match network.clients[number]? with
  | some client => (network.setStreak number 0).settleClient number (network.workload client)
  | none => network

def run (network : Network) : Network :=
  (List.range network.clients.length).foldl runClient network

/-! ## What the server does -/

/-- Sends a text; tells whether the client still held the line. -/
def send (number : Nat) (text : String) (network : Network) : Bool × Network :=
  match network.lines[number]? with
  | none => (false, network)
  | some line =>
      if line.serverSends && line.clientHolds then
        (true, network.updateLine number fun line =>
          { line with incoming := line.incoming ++ [text] })
      else (false, network)

/-- Breaks a line with an error; tells whether the client still held it.  A
server that sends no more can still do so. -/
def breakLine (number : Nat) (network : Network) : Bool × Network :=
  match network.lines[number]? with
  | none => (false, network)
  | some line =>
      (line.clientHolds, network.updateLine number fun line => { line with fails := true })

def stopSending (number : Nat) (network : Network) : Network :=
  network.updateLine number fun line => { line with serverSends := false }

def stopReading (number : Nat) (network : Network) : Network :=
  network.updateLine number fun line => { line with serverReads := false }

def dropLine (number : Nat) (network : Network) : Network :=
  (network.stopSending number).stopReading number

def choose? (given : Option Nat) (count : Nat) : Option Nat :=
  let number := given.getD (count - 1)
  if number < count then some number else none

def move (step : ServerMove) (network : Network) : ServerMove.Result × Network :=
  let onLine (given : Option Nat) (act : Nat → ServerMove.Result × Network) :=
    match choose? given network.lines.length with
    | some line => act line
    | none => (.noLine, network)
  let onClient (given : Option Nat) (change : Client → Client) : ServerMove.Result × Network :=
    match choose? given network.clients.length with
    | some client => (.done, network.updateClient client change)
    | none => (.noClient, network)
  match step with
  | .send line text => onLine line fun line =>
      let (sent, network) := network.send line text
      (.sent sent, network)
  | .breakLine line => onLine line fun line =>
      let (sent, network) := network.breakLine line
      (.sent sent, network)
  | .stopSending line => onLine line fun line => (.done, network.stopSending line)
  | .stopReading line => onLine line fun line => (.done, network.stopReading line)
  | .dropLine line => onLine line fun line => (.done, network.dropLine line)
  | .refuse client on => onClient client fun client => { client with refuses := on }
  | .hold client on => onClient client fun client => { client with holds := on }
  | .stopListening client => onClient client fun client => { client with listens := false }

/-! ## Reports -/

def report (network : Network) : NetworkReport where
  opened := network.opened
  frames := network.lines.zipIdx.flatMap fun (line, number) =>
    line.received.map fun text => (number, text)
  hungUp := network.lines.zipIdx.filterMap fun (line, number) =>
    if line.leaves then some number else none

def forgetReported (network : Network) : Network :=
  { network with
    lines := network.lines.map fun line => { line with received := [], leaves := false }
    opened := []
    resolved := []
    notified := [] }

/-! ## Clients -/

/-- Adds a client; its number is the count of those before it. -/
def addClient (options : ConnectionOptions) (refuses holds : Bool) (network : Network) :
    Nat × Network :=
  (network.clients.length,
    { network with
      clients := network.clients ++ [{ endpoint := .create options, refuses, holds }] })

def phaseOf (number : Nat) (network : Network) : Phase :=
  match network.clients[number]? with
  | some client => client.endpoint.connection.phase
  | none => .disconnected

end Network

end BookmarkHub
