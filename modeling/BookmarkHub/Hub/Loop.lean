import BookmarkHub.Hub.Handler

/-!
# The running hub

A running hub takes events from a mailbox, one at a time.  Callers reach it
through handles.  A surface holds a handle as long as it is connected, and so
does a call that waits for its surface to be connected.  The hub stops when it
is told to, or when the mailbox is empty and nobody holds a handle; whoever
still waits for an answer then learns that the hub is shut down.
-/

set_option autoImplicit false

namespace BookmarkHub

abbrev HubCaller := Nat

inductive HubEvent where
  | connectPage (key : String) (link : Link)
  | connectBridge (link : Link)
  | message (link : Nat) (command : SurfaceCommand)
  | disconnect (link : Nat)
  | openPage (page : Page) (tab : Option Tab)
  | openForActiveTab (page : Page)
  | closePage (caller : HubCaller) (key : String)
  | setClient (client : Option ClientId)
  | listPages (caller : HubCaller)
  | shutdown
  deriving Inhabited

inductive HubAnswer where
  | connected (link : Nat) (result : Except HubError Unit)
  | closed (caller : HubCaller) (result : Except HubError Unit)
  | pages (caller : HubCaller) (result : Except HubError (List PageInfo))
  deriving Inhabited

inductive HubLoopEffect where
  | act (effect : HubEffect)
  | lookUpTab (page : Page)
  | answer (answer : HubAnswer)
  deriving Inhabited

/-- A running hub, its mailbox with the oldest event first, and who holds a handle of it.  The
links are listed of the calls that wait for their surfaces to be connected. -/
structure HubLoop where
  hub : Hub := {}
  mailbox : List HubEvent := []
  isRunning : Bool := true
  links : Nat := 0
  handles : Nat := 1
  surfaces : List Nat := []
  connecting : List Nat := []
  deriving Inhabited

namespace HubLoop

abbrev Handled := HubLoop × List HubLoopEffect

def isHeld (loop : HubLoop) : Bool :=
  0 < loop.handles || !loop.surfaces.isEmpty || !loop.connecting.isEmpty

/-! ## Answers -/

/-- Answers the call that waits for a surface to be connected through a link.
A call that was given up gets no answer, and there is no surface. -/
def settleConnect (link : Nat) (result : Except HubError Unit) (loop : HubLoop) : Handled :=
  if loop.connecting.contains link then
    let surfaces := match result with
      | .ok _ => loop.surfaces ++ [link]
      | .error _ => loop.surfaces
    ({ loop with connecting := loop.connecting.erase link, surfaces },
      [.answer (.connected link result)])
  else (loop, [])

def reject (loop : HubLoop) : HubEvent → Handled
  | .connectPage _ link => loop.settleConnect link.id (.error .shutdown)
  | .closePage caller _ => (loop, [.answer (.closed caller (.error .shutdown))])
  | .listPages caller => (loop, [.answer (.pages caller (.error .shutdown))])
  | _ => (loop, [])

def rejectAll : List HubEvent → HubLoop → Handled
  | [], loop => (loop, [])
  | event :: rest, loop =>
      let (loop, effects) := loop.reject event
      let (loop, more) := rejectAll rest loop
      (loop, effects ++ more)

/-! ## Taking events -/

def stop (loop : HubLoop) : Handled :=
  let handled := loop.hub.shutdown
  let (stopped, rejections) := rejectAll loop.mailbox
    { loop with hub := handled.hub, mailbox := [], isRunning := false }
  (stopped, handled.effects.map .act ++ rejections)

def handled (loop : HubLoop) (handled : Hub.Handled) : Handled :=
  ({ loop with hub := handled.hub }, handled.effects.map .act)

/-- Handles an event.  Of an answer nobody waits for, nothing is seen. -/
def handle (windowOpens : Bool) (event : HubEvent) (loop : HubLoop) : Handled :=
  match event with
  | .connectPage key link =>
      let done := Hub.connectPage key link loop.hub
      let (loop, effects) := loop.handled done
      let (loop, answers) := loop.settleConnect link.id done.result
      (loop, effects ++ answers)
  | .connectBridge link => loop.handled (Hub.connectBridge link loop.hub)
  | .message link command => loop.handled (Hub.message windowOpens link command loop.hub)
  | .disconnect link => loop.handled (Hub.disconnect link loop.hub)
  | .openPage page tab => loop.handled (Hub.openPage windowOpens page tab loop.hub)
  | .openForActiveTab page => (loop, [.lookUpTab page])
  | .closePage caller key =>
      let done := Hub.closePage key loop.hub
      let (loop, effects) := loop.handled done
      (loop, effects ++ [.answer (.closed caller done.result)])
  | .setClient client => loop.handled (Hub.setClient client loop.hub)
  | .listPages caller =>
      (loop, [.answer (.pages caller (.ok loop.hub.registry.snapshot))])
  | .shutdown => loop.stop

/-- Lets the hub take the oldest event, or stop when there will be none. -/
def take (windowOpens : Bool) (loop : HubLoop) : Handled :=
  if loop.isRunning then
    match loop.mailbox with
    | event :: rest => handle windowOpens event { loop with mailbox := rest }
    | [] => if loop.isHeld then (loop, []) else loop.stop
  else (loop, [])

/-! ## Handles -/

def post (event : HubEvent) (loop : HubLoop) : Handled :=
  if loop.isRunning then ({ loop with mailbox := loop.mailbox ++ [event] }, [])
  else loop.reject event

def send (event : HubEvent) (loop : HubLoop) : Except HubError Unit × HubLoop :=
  if loop.isRunning then (.ok (), (loop.post event).1) else (.error .shutdown, loop)

def newLink (loop : HubLoop) : Link × HubLoop :=
  (⟨loop.links + 1, loop.links⟩, { loop with links := loop.links + 1 })

def connectPage (key : String) (loop : HubLoop) : Link × Handled :=
  let (link, loop) := loop.newLink
  (link, post (.connectPage key link) { loop with connecting := loop.connecting ++ [link.id] })

def abandonConnect (link : Nat) (loop : HubLoop) : HubLoop :=
  { loop with connecting := loop.connecting.erase link }

def connectBridge (loop : HubLoop) : Link × Except HubError Unit × HubLoop :=
  let (link, loop) := loop.newLink
  match loop.send (.connectBridge link) with
  | (.ok _, loop) => (link, .ok (), { loop with surfaces := loop.surfaces ++ [link.id] })
  | (.error error, loop) => (link, .error error, loop)

def sendMessage (link : Nat) (command : SurfaceCommand) (loop : HubLoop) : Bool × HubLoop :=
  let (result, loop) := loop.send (.message link command)
  (result.isOk, loop)

def dropSurface (link : Nat) (loop : HubLoop) : HubLoop :=
  let loop := { loop with surfaces := loop.surfaces.erase link }
  (loop.post (.disconnect link)).1

/-- Hands in the tab that was looked up.  Looking up holds no handle: when
nobody holds one any more, the tab comes too late. -/
def tabFound (page : Page) (tab : Option Tab) (loop : HubLoop) : HubLoop :=
  if loop.isHeld then (loop.post (.openPage page tab)).1 else loop

end HubLoop

end BookmarkHub
