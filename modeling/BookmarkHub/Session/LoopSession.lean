import BookmarkHub.Hub.Bridge
import BookmarkHub.Hub.Loop
import BookmarkHub.Session.Stage

/-!
# A session of a running hub

Surfaces and bridges reach a running hub through its handles.  Surfaces,
bridges and the calls of bridges are numbered in the order in which they come
about.  A call holds its bridge until its end has been reported.
-/

set_option autoImplicit false

namespace BookmarkHub

inductive BridgeEnd where
  | response (result : Except HubError Response)
  | count (count : Nat)
  deriving Inhabited

inductive BridgeProgress where
  | waiting
  | ended (result : BridgeEnd)
  | gone
  deriving Inhabited

structure BridgeCaller where
  bridge : Nat
  progress : BridgeProgress := .waiting
  deriving Inhabited

def BridgeCaller.holds (caller : BridgeCaller) : Bool :=
  match caller.progress with
  | .gone => false
  | _ => true

structure ConnectedBridge where
  bridge : Bridge := {}
  link : Link
  isKept : Bool := true
  deriving Inhabited

structure LoopSession where
  loop : HubLoop := {}
  stage : Stage := {}
  surfaces : List Link := []
  bridges : List ConnectedBridge := []
  callers : List BridgeCaller := []
  activeTab : Option Tab := none
  hasHandle : Bool := true
  answers : List HubAnswer := []
  deriving Inhabited

structure LoopReport where
  isRunning : Bool
  pages : Option (Except HubError (List PageInfo))
  network : NetworkReport
  windows : List WindowRequest
  posted : List (Nat × List HubCommand)
  gone : List Nat
  ended : List (Nat × BridgeEnd)
  deriving Inhabited

namespace LoopSession

/-! ## The hub -/

def apply (session : LoopSession) : HubLoopEffect → LoopSession
  | .act effect => { session with stage := session.stage.apply effect }
  | .lookUpTab page => { session with loop := session.loop.tabFound page session.activeTab }
  | .answer answer => { session with answers := session.answers ++ [answer] }

def perform (act : HubLoop → HubLoop.Handled) (session : LoopSession) : LoopSession :=
  let (loop, effects) := act session.loop
  effects.foldl apply { session with loop }

def isHubBusy (session : LoopSession) : Bool :=
  session.loop.isRunning && (!session.loop.mailbox.isEmpty || !session.loop.isHeld)

def takeEvents : Nat → LoopSession → LoopSession
  | 0, session => session
  | fuel + 1, session =>
      if session.isHubBusy then
        takeEvents fuel (session.perform (HubLoop.take session.stage.windowOpens))
      else session

def runHub (session : LoopSession) : LoopSession :=
  session.takeEvents (2 * session.loop.mailbox.length + 1)

/-! ## The bridges -/

def endCaller (ticket : BridgeTicket) (result : BridgeEnd) (session : LoopSession) : LoopSession :=
  { session with
    callers := session.callers.modify ticket fun caller =>
      { caller with progress := .ended result } }

def applyBridge (link : Link) (session : LoopSession) : BridgeEffect → LoopSession
  | .relay id func args =>
      let command := SurfaceCommand.relay (UInt64.ofNat id) func args
      { session with loop := (session.loop.sendMessage link.id command).2 }
  | .resolve ticket result => session.endCaller ticket (.response result)
  | .tellCount ticket count => session.endCaller ticket (.count count)
  | .disconnect =>
      { session with
        loop := session.loop.dropSurface link.id
        stage := session.stage.updateChannel link.channel fun channel =>
          { channel with isReceived := false } }

def performBridge (number : Nat) (act : Bridge → Bridge.Handled) (session : LoopSession) :
    LoopSession :=
  match session.bridges[number]? with
  | none => session
  | some connected =>
      let (bridge, effects) := act connected.bridge
      effects.foldl (applyBridge connected.link)
        { session with bridges := session.bridges.set number { connected with bridge } }

def takeRequests (number : Nat) (session : LoopSession) : LoopSession :=
  match session.bridges[number]? with
  | none => session
  | some connected =>
      connected.bridge.mailbox.foldl
        (fun session _ =>
          session.performBridge number (Bridge.take session.loop.isRunning)) session

def hearCommands (number : Nat) (session : LoopSession) : LoopSession :=
  match session.bridges[number]? with
  | none => session
  | some connected =>
      let channel := connected.link.channel
      let arrived := ((session.stage.channels[channel]?).map Channel.arrived).getD []
      let session := { session with
        stage := session.stage.updateChannel channel fun channel =>
          { channel with arrived := [] } }
      arrived.foldl (fun session command =>
        session.performBridge number (Bridge.hear command)) session

def isReleased (link : Link) (session : LoopSession) : Bool :=
  !(session.stage.heldChannels session.loop.hub).contains link.channel

def isBridgeHeld (number : Nat) (session : LoopSession) : Bool :=
  ((session.bridges[number]?).map ConnectedBridge.isKept).getD false ||
    session.callers.any fun caller => caller.bridge == number && caller.holds

/-- Stops a bridge that the hub has let go of or that nobody holds. -/
def stopBridge (number : Nat) (session : LoopSession) : LoopSession :=
  match session.bridges[number]? with
  | none => session
  | some connected =>
      if session.isReleased connected.link || !session.isBridgeHeld number then
        session.performBridge number Bridge.stop
      else session

def runBridge (session : LoopSession) (number : Nat) : LoopSession :=
  ((session.takeRequests number).hearCommands number).stopBridge number

def runBridges (session : LoopSession) : LoopSession :=
  (List.range session.bridges.length).foldl runBridge session

/-! ## Letting everything run -/

/-- The hub, the network and the bridges run in turn; what a bridge sends is
for the hub to take in the next round. -/
def runRound (session : LoopSession) : LoopSession :=
  let session := session.runHub
  runBridges { session with stage := session.stage.run }

/-- Lets rounds follow while the hub has something to do, at most so many. -/
def runRounds : Nat → LoopSession → LoopSession
  | 0, session => session
  | fuel + 1, session =>
      let session := session.runRound
      if session.isHubBusy then runRounds fuel session else session

/-- Lets everything happen that can happen without the clock moving.  A round
calls for another only when a bridge has sent a call or has stopped. -/
def run (session : LoopSession) : LoopSession :=
  session.runRounds (session.bridges.length + 4)

/-! ## What callers do -/

def openChannel (link : Link) (session : LoopSession) : LoopSession :=
  { session with stage := (session.stage.openChannel link.id).2 }

def addSurface (link : Link) (session : LoopSession) : Nat × LoopSession :=
  (session.surfaces.length, { session with surfaces := session.surfaces ++ [link] })

def connectResult? (link : Link) (session : LoopSession) : Option (Except HubError Unit) :=
  session.answers.findSome? fun
    | .connected other result => if other = link.id then some result else none
    | _ => none

def connectPage (key : String) (session : LoopSession) :
    Except HubError (Nat × Link) × LoopSession :=
  let (link, handled) := session.loop.connectPage key
  let session := (session.openChannel link).perform fun _ => handled
  let session := session.run
  match session.connectResult? link with
  | some (.ok _) =>
      let (number, session) := session.addSurface link
      (.ok (number, link), session)
  | some (.error error) => (.error error, session)
  | none => (.error .shutdown, session)

def connectLink (session : LoopSession) : Except HubError Link × LoopSession :=
  let (link, result, loop) := session.loop.connectBridge
  let session := { session.openChannel link with loop }
  match result with
  | .ok _ => (.ok link, session)
  | .error error => (.error error, session)

def connectBridge (session : LoopSession) : Except HubError (Nat × Link) × LoopSession :=
  match session.connectLink with
  | (.error error, session) => (.error error, session)
  | (.ok link, session) =>
      let (number, session) := session.addSurface link
      (.ok (number, link), session)

def addBridge (session : LoopSession) : Except HubError Nat × LoopSession :=
  match session.connectLink with
  | (.error error, session) => (.error error, session)
  | (.ok link, session) =>
      (.ok session.bridges.length, { session with bridges := session.bridges ++ [{ link }] })

def keptBridge? (number : Nat) (session : LoopSession) : Option ConnectedBridge :=
  (session.bridges[number]?).filter ConnectedBridge.isKept

def askBridge (number : Nat) (request : BridgeTicket → BridgeRequest) (session : LoopSession) :
    Option Nat × LoopSession :=
  match session.keptBridge? number with
  | none => (none, session)
  | some _ =>
      let ticket := session.callers.length
      let callers := session.callers ++ [{ bridge := number : BridgeCaller }]
      (some ticket,
        performBridge number (Bridge.ask (request ticket)) { session with callers })

/-- Drops the session's own handle of a bridge; tells whether there was one,
if there was such a bridge at all. -/
def dropBridge (number : Nat) (session : LoopSession) : Option Bool × LoopSession :=
  ((session.bridges[number]?).map ConnectedBridge.isKept,
    { session with
      bridges := session.bridges.modify number fun connected =>
        { connected with isKept := false } })

def surface? (number : Nat) (session : LoopSession) : Option Link := session.surfaces[number]?

def liveSurface? (number : Nat) (session : LoopSession) : Option Link :=
  (session.surface? number).filter fun link => session.loop.surfaces.contains link.id

def post (link : Link) (command : SurfaceCommand) (session : LoopSession) :
    Bool × LoopSession :=
  let (sent, loop) := session.loop.sendMessage link.id command
  (sent, { session with loop })

def dropSurface (number : Nat) (session : LoopSession) : Option Bool × LoopSession :=
  match session.surface? number with
  | none => (none, session)
  | some link =>
      if session.loop.surfaces.contains link.id then
        (some true, { session with
          loop := session.loop.dropSurface link.id
          stage := session.stage.updateChannel link.channel fun channel =>
            { channel with isReceived := false } })
      else (some false, session)

def tell (event : HubEvent) (session : LoopSession) : Except HubError Unit × LoopSession :=
  let (result, loop) := session.loop.send event
  (result, { session with loop })

def closePage (key : String) (session : LoopSession) : Except HubError Unit × LoopSession :=
  let session := run (perform (HubLoop.post (.closePage 0 key)) { session with answers := [] })
  let result := session.answers.findSome? fun
    | .closed _ result => some result
    | _ => none
  (result.getD (.error .shutdown), session)

def login (options : ConnectionOptions) (refuses holds : Bool) (session : LoopSession) :
    Except HubError Unit × LoopSession :=
  let (client, network) := session.stage.network.addClient options refuses holds
  tell (.setClient (some client)) { session with stage := { session.stage with network } }

def dropHandle (session : LoopSession) : LoopSession :=
  { session with
    hasHandle := false
    loop := { session.loop with handles := session.loop.handles - 1 } }

/-! ## Reports -/

def pages (session : LoopSession) : Except HubError (List PageInfo) :=
  let asked := runHub (perform (HubLoop.post (.listPages 0)) { session with answers := [] })
  let result := asked.answers.findSome? fun
    | .pages _ result => some result
    | _ => none
  result.getD (.error .shutdown)

def surfaceOf? (channel : Nat) (session : LoopSession) : Option Nat :=
  session.surfaces.findIdx? fun link => link.channel = channel

def report (session : LoopSession) : LoopReport :=
  let { loop, stage, .. } := session
  { isRunning := loop.isRunning
    pages := if session.hasHandle then some session.pages else none
    network := stage.network.report
    windows := stage.windows
    posted := stage.posted.filterMap fun (channel, commands) =>
      (session.surfaceOf? channel).map fun number => (number, commands)
    gone := (stage.released loop.hub).filterMap session.surfaceOf?
    ended := session.callers.zipIdx.filterMap fun (caller, number) =>
      match caller.progress with
      | .ended result => some (number, result)
      | _ => none }

def forgetReported (session : LoopSession) : LoopSession :=
  { session with
    stage := session.stage.forgetReported session.loop.hub
    answers := []
    callers := session.callers.map fun caller =>
      match caller.progress with
      | .ended _ => { caller with progress := .gone }
      | _ => caller }

end LoopSession

end BookmarkHub
