import BookmarkHub.Hub.State

/-!
# What the hub does

One function for each thing that the hub can be told.  Each gives the answer,
the next state and what is done on the way.
-/

set_option autoImplicit false

namespace BookmarkHub.Hub

/-! ## Clients -/

def setClient (client : Option ClientId) (hub : Hub) : Handled where
  hub := { hub with client }
  effects := hub.client.toList.map .closeClient

/-! ## Opening pages -/

/-- What a connected surface is told when its page is to come to the front. -/
def refocus (context : PageContext) : List HubEffect :=
  match context.link with
  | none => []
  | some link =>
      context.tab.toList.map (fun tab => .post link (.setTab tab)) ++ [.post link .focus]

/-- Opens the page of a key, or brings it to the front if it is open.  A given
tab replaces the one of an open page.  The context of a new page is there before
its window is asked for, and goes away again without a window. -/
def openOrRefocus (windowOpens : Bool) (key openParams : String) (tab : Option Tab)
    (hub : Hub) : Handled :=
  match hub.registry.find? key with
  | some context =>
      let context := { context with tab := tab.or context.tab }
      { hub := { hub with registry := hub.registry.put context }
        effects := refocus context ++ [.window (.focus key)] }
  | none =>
      let registry := (hub.registry.create key tab).2
      if windowOpens then
        { hub := { hub with registry }
          effects := [.window (.open (Page.windowUrl key openParams) hub.window)] }
      else
        { result := .error (.windowing "window creation refused")
          hub := { hub with registry := (registry.remove key).2 } }

def openPage (windowOpens : Bool) (page : Page) (tab : Option Tab) (hub : Hub) : Handled :=
  openOrRefocus windowOpens page.key page.openParams tab hub

def openFromCommand (windowOpens : Bool) (command : SurfaceCommand) (hub : Hub) : Handled :=
  match Page.ofCommand? command with
  | some (page, tab) => openPage windowOpens page tab hub
  | none => { hub }

def closePage (key : String) (hub : Hub) : Handled :=
  let (removed, registry) := hub.registry.remove key
  let hub := { hub with registry }
  match removed with
  | none => { result := .error (.unknownPage key), hub }
  | some context => { hub, effects := context.link.toList.map fun link => .post link .close }

/-! ## Connecting surfaces -/

def connectPage (key : String) (link : Link) (hub : Hub) : Handled :=
  match hub.registry.attach key link with
  | .error error => { result := .error (.protocolViolation key error), hub }
  | .ok (context, registry) =>
      { hub := { hub with registry }
        effects := context.tab.toList.map fun tab => .post link (.setTab tab) }

def connectBridge (link : Link) (hub : Hub) : Handled where
  hub := { hub with bridges := hub.bridges.insert link.id link }

/-- Forgets a link whose surface went away, and the page it was attached to. -/
def disconnect (id : Nat) (hub : Hub) : Handled :=
  if hub.bridges.contains id then { hub := { hub with bridges := hub.bridges.erase id } }
  else
    match hub.registry.keyForLink? id with
    | some key => { hub := { hub with registry := (hub.registry.remove key).2 } }
    | none => { hub }

/-! ## Relaying calls -/

/-- Relays a call of a surface to the client.  Without a client, or when the
call is no operation, the surface is answered at once. -/
def relayCall (relay : Relay) (func : String) (args : List Json) (hub : Hub) : Handled :=
  match hub.client with
  | none =>
      { hub, effects := [.post relay.link
          (relay.refuse Relay.notAuthenticated "not authenticated")] }
  | some client =>
      match Operation.ofCall func args with
      | .error error =>
          { result := .error (.call error)
            hub
            effects := [.post relay.link (relay.refuse Relay.badRequest error.message)] }
      | .ok operation => { hub, effects := [.submit client relay operation] }

/-! ## Messages of surfaces -/

def pageMessage (windowOpens : Bool) (key : String) (command : SurfaceCommand) (hub : Hub) :
    Handled :=
  match command with
  | .clearTab => { hub := { hub with registry := (hub.registry.remove key).2 } }
  | .relay id func args =>
      match (hub.registry.find? key).bind PageContext.link with
      | none => { result := .error (.unknownPage key), hub }
      | some link => relayCall ⟨link, id⟩ func args hub
  | command => openFromCommand windowOpens command hub

/-- Handles a command from a bridge.  A bridge has no page to clear. -/
def bridgeMessage (windowOpens : Bool) (id : Nat) (command : SurfaceCommand) (hub : Hub) :
    Handled :=
  match hub.bridges.find? id with
  | none => { hub }
  | some link =>
      match command with
      | .clearTab => { hub }
      | .relay id func args => relayCall ⟨link, id⟩ func args hub
      | command => openFromCommand windowOpens command hub

/-- Handles a command that came through the link with a number.  A link that
belongs to nothing any more is not heard. -/
def message (windowOpens : Bool) (id : Nat) (command : SurfaceCommand) (hub : Hub) :
    Handled :=
  if hub.bridges.contains id then bridgeMessage windowOpens id command hub
  else
    match hub.registry.keyForLink? id with
    | some key => pageMessage windowOpens key command hub
    | none => { hub }

/-! ## Stopping -/

def shutdown (hub : Hub) : Handled :=
  let (contexts, registry) := hub.registry.drain
  let links := contexts.filterMap PageContext.link
  let handled := setClient none { hub with registry, bridges := Table.empty }
  { handled with effects := links.map (.post · .close) ++ handled.effects }

end BookmarkHub.Hub
