import BookmarkHub.Session.Network

/-!
# A session of one client

Callers use one client over a rehearsed network.  Each request, and each wait
for an open socket, is numbered in the order in which it is handed in, and is
reported once when it ends.  A caller that uses the client through a handle of
its own keeps the client alive until its end has been reported.
-/

set_option autoImplicit false

namespace BookmarkHub

inductive CallerKind where
  | plain
  | typed
  | limited (limit : Nat)
  | forSocket
  deriving Inhabited

inductive CallerEnd where
  | outcome (outcome : Outcome)
  | connected
  deriving Inhabited

inductive CallerProgress where
  | waiting (since : Nat)
  | ended (result : CallerEnd)
  | gone
  deriving Inhabited

structure Caller where
  kind : CallerKind
  progress : CallerProgress
  deriving Inhabited

namespace Caller

def holds (caller : Caller) : Bool :=
  match caller.kind, caller.progress with
  | .plain, _ => false
  | _, .gone => false
  | _, _ => true

def deadline? (caller : Caller) : Option Nat :=
  match caller.kind, caller.progress with
  | .limited limit, .waiting since => some (since + limit)
  | _, _ => none

def finish (result : CallerEnd) (caller : Caller) : Caller :=
  match caller.progress with
  | .waiting _ => { caller with progress := .ended result }
  | _ => caller

def expire (now : Nat) (caller : Caller) : Caller :=
  match caller.kind, caller.deadline? with
  | .limited limit, some deadline =>
      if deadline ≤ now then caller.finish (.outcome (.error (.timeout limit))) else caller
  | _, _ => caller

/-- Ends a caller that waits for an open socket, if it is open or never will be. -/
def observe (connection : Connection) (caller : Caller) : Caller :=
  match caller.kind with
  | .forSocket =>
      if connection.phase = .connected then caller.finish .connected
      else if connection.stopped then caller.finish (.outcome (.error .closed))
      else caller
  | _ => caller

end Caller

structure ClientSession where
  network : Network
  callers : List Caller := []
  hasHandle : Bool := true
  deriving Inhabited

structure ClientReport where
  phase : Phase
  counts : Option (Nat × Nat)
  network : NetworkReport
  ended : List (Nat × CallerEnd)
  notified : List String
  deriving Inhabited

namespace ClientSession

def create (options : ConnectionOptions) (refuses holds : Bool) (network : Network) :
    ClientSession where
  network := (network.addClient options refuses holds).2

def updateNetwork (change : Network → Network) (session : ClientSession) : ClientSession :=
  { session with network := change session.network }

def client (session : ClientSession) : Client := session.network.clients.headD default

def connection (session : ClientSession) : Connection := session.client.endpoint.connection

/-! ## Callers -/

def post (command : CallerCommand) (session : ClientSession) : ClientSession :=
  session.updateNetwork (Network.post 0 command)

def connect (session : ClientSession) : ClientSession := session.post .connect

def close (session : ClientSession) : ClientSession := session.post .close

def drop (session : ClientSession) : ClientSession := { session with hasHandle := false }

def collect (session : ClientSession) : ClientSession :=
  let finished := session.network.resolved.foldl
    (fun callers (ticket, outcome) => callers.modify ticket (Caller.finish (.outcome outcome)))
    session.callers
  { session with
    callers := finished
    network := { session.network with resolved := [] } }

def updateCallers (change : Caller → Caller) (session : ClientSession) : ClientSession :=
  { session with callers := session.callers.map change }

/-- Lets every caller see whether it can end.  A response that is there counts
even when its caller has waited too long. -/
def settle (session : ClientSession) : ClientSession :=
  let now := session.network.now
  let connection := session.connection
  session.collect.updateCallers fun caller => (caller.expire now).observe connection

/-- Adds a caller, which hands in its request at once; its number is the count
of those before it. -/
def start (kind : CallerKind) (request : Option Request) (session : ClientSession) :
    Nat × ClientSession :=
  let number := session.callers.length
  let caller : Caller := ⟨kind, .waiting session.network.now⟩
  let session := { session with callers := session.callers ++ [caller] }
  let session := match request with
    | some request => session.post (.submit number request)
    | none => session
  (number, session.settle)

def listen (label : String) (once immediately : Bool) (session : ClientSession) :
    List String × ClientSession :=
  let ((endpoint, _), told) := session.client.endpoint.onConnected label once immediately
  (told, session.updateNetwork (Network.updateEndpoint 0 fun _ => endpoint))

/-- Forgets a caller that still waits; tells whether it did. -/
def forget (number : Nat) (session : ClientSession) : Bool × ClientSession :=
  match session.callers[number]? with
  | some ⟨kind, .waiting _⟩ =>
      (true, { session with callers := session.callers.set number ⟨kind, .gone⟩ })
  | _ => (false, session)

def advance (milliseconds : Nat) (session : ClientSession) : ClientSession :=
  session.updateNetwork fun network => { network with now := network.now + milliseconds }

/-! ## Letting everything run -/

def countHolders (session : ClientSession) : ClientSession :=
  let own := if session.hasHandle then 1 else 0
  let holders := own + session.callers.countP Caller.holds
  session.updateNetwork (Network.updateClient 0 fun client => { client with holders })

/-- Lets everything happen that can happen without the clock moving; then the
callers see what has become of them. -/
def run (session : ClientSession) : ClientSession :=
  settle (session.countHolders.updateNetwork Network.run)

/-! ## Reports -/

def report (session : ClientSession) : ClientReport where
  phase := session.connection.phase
  counts := if session.connection.stopped then none else some session.connection.counts
  network := session.network.report
  ended := session.callers.zipIdx.filterMap fun (caller, number) =>
    match caller.progress with
    | .ended result => some (number, result)
    | _ => none
  notified := session.network.notified

def forgetReported (session : ClientSession) : ClientSession :=
  (session.updateNetwork Network.forgetReported).updateCallers fun caller =>
    match caller.progress with
    | .ended _ => { caller with progress := .gone }
    | _ => caller

end ClientSession

end BookmarkHub
