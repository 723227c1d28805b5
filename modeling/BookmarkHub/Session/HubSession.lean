import BookmarkHub.Session.Stage

/-!
# A session of one hub

The hub is told each thing directly and answers at once.  Surfaces are known
by the numbers of their links, which are given from outside.
-/

set_option autoImplicit false

namespace BookmarkHub

structure HubSession where
  hub : Hub := {}
  stage : Stage := {}
  deriving Inhabited

structure HubReport where
  pages : List PageInfo
  client : Option Phase
  network : NetworkReport
  windows : List WindowRequest
  posted : List (Nat × List HubCommand)
  gone : List Nat
  deriving Inhabited

namespace HubSession

def tell (act : Hub → Hub.Handled) (session : HubSession) :
    Except HubError Unit × HubSession :=
  let handled := act session.hub
  (handled.result,
    { hub := handled.hub, stage := handled.effects.foldl Stage.apply session.stage })

def connect (id : Nat) (act : Link → Hub → Hub.Handled) (session : HubSession) :
    Except HubError Unit × HubSession :=
  let (link, stage) := session.stage.openChannel id
  tell (act link) { session with stage }

def login (options : ConnectionOptions) (refuses holds : Bool) (session : HubSession) :
    Except HubError Unit × HubSession :=
  let (client, network) := session.stage.network.addClient options refuses holds
  tell (Hub.setClient (some client)) { session with stage := { session.stage with network } }

/-- Lets the surfaces behind a link stop receiving; the hub is not told. -/
def dropSurface (id : Nat) (session : HubSession) : HubSession :=
  { session with stage := { session.stage with
      channels := session.stage.channels.map fun channel =>
        if channel.link = id then { channel with isReceived := false } else channel } }

def run (session : HubSession) : HubSession := { session with stage := session.stage.run }

def report (session : HubSession) : HubReport :=
  let { hub, stage } := session
  { pages := hub.registry.snapshot
    client := hub.client.map fun client => stage.network.phaseOf client
    network := stage.network.report
    windows := stage.windows
    posted := stage.posted.map fun (channel, commands) => (stage.linkOf channel, commands)
    gone := (stage.released hub).map stage.linkOf }

def forgetReported (session : HubSession) : HubSession :=
  { session with stage := session.stage.forgetReported session.hub }

end HubSession

end BookmarkHub
