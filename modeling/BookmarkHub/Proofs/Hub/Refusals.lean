import BookmarkHub.Proofs.Hub.Custody

/-!
# Refusals

What the hub refuses leaves no trace.  A refused demand changes neither the
pages nor the bridges nor the client, and hands no request to a client.  Nothing
is posted about it either, except that a call which is no operation is answered
as a bad request.
-/

set_option autoImplicit false

namespace BookmarkHub

namespace Hub

/-- What can be asked of the hub and be refused. -/
inductive Demand where
  | connectPage (key : String) (link : Link)
  | openOrRefocus (key openParams : String) (tab : Option Tab)
  | openPage (page : Page) (tab : Option Tab)
  | pageMessage (key : String) (command : SurfaceCommand)
  | bridgeMessage (number : Nat) (command : SurfaceCommand)
  | closePage (key : String)

namespace Demand

def handled (windowOpens : Bool) (hub : Hub) : Demand → Handled
  | .connectPage key link => Hub.connectPage key link hub
  | .openOrRefocus key openParams tab => Hub.openOrRefocus windowOpens key openParams tab hub
  | .openPage page tab => Hub.openPage windowOpens page tab hub
  | .pageMessage key command => Hub.pageMessage windowOpens key command hub
  | .bridgeMessage number command => Hub.bridgeMessage windowOpens number command hub
  | .closePage key => Hub.closePage key hub

/-- The key of the page that a demand opens or brings to the front. -/
def openedKey? (hub : Hub) : Demand → Option String
  | .openOrRefocus key _ _ => some key
  | .openPage page _ => some page.key
  | .pageMessage _ command => (Page.ofCommand? command).map (·.1.key)
  | .bridgeMessage number command =>
      (hub.bridges.find? number).bind fun _ => (Page.ofCommand? command).map (·.1.key)
  | .connectPage _ _ | .closePage _ => none

def relayed? (hub : Hub) : Demand → Option (Relay × String × List Json)
  | .pageMessage key (.relay id func args) =>
      ((hub.registry.find? key).bind PageContext.link).map fun link => (⟨link, id⟩, func, args)
  | .bridgeMessage number (.relay id func args) =>
      (hub.bridges.find? number).map fun link => (⟨link, id⟩, func, args)
  | _ => none

/-- What is done about a refused demand: a call that is no operation is answered. -/
def reply (hub : Hub) (demand : Demand) : HubError → List HubEffect
  | .call error => (demand.relayed? hub).toList.map fun (relay, _, _) =>
      .post relay.link (relay.refuse 400 error.message)
  | _ => []

end Demand

/-- Why the hub refuses a demand. -/
inductive Refuses (windowOpens : Bool) (hub : Hub) : Demand → HubError → Prop where
  | notOpened (key : String) (link : Link) (absent : hub.registry.find? key = none) :
      Refuses windowOpens hub (.connectPage key link) (.protocolViolation key .notOpened)
  | alreadyAttached (key : String) (link attached : Link) (context : PageContext)
      (held : hub.registry.find? key = some context) (linked : context.link = some attached) :
      Refuses windowOpens hub (.connectPage key link)
        (.protocolViolation key (.alreadyAttached attached.id))
  | noWindow (demand : Demand) (key : String) (opens : demand.openedKey? hub = some key)
      (absent : hub.registry.find? key = none) (refused : windowOpens = false) :
      Refuses windowOpens hub demand (.windowing "window creation refused")
  | notConnected (key : String) (id : UInt64) (func : String) (args : List Json)
      (unlinked : (hub.registry.find? key).bind PageContext.link = none) :
      Refuses windowOpens hub (.pageMessage key (.relay id func args)) (.unknownPage key)
  | notOpen (key : String) (absent : hub.registry.find? key = none) :
      Refuses windowOpens hub (.closePage key) (.unknownPage key)
  | badCall (demand : Demand) (relay : Relay) (func : String) (args : List Json)
      (client : ClientId) (error : CallError)
      (relays : demand.relayed? hub = some (relay, func, args))
      (loggedIn : hub.client = some client) (bad : Operation.ofCall func args = .error error) :
      Refuses windowOpens hub demand (.call error)

/-! ## One handler after the other -/

section Handlers
variable {hub : Hub}

theorem closePage_of_absent {key : String} (absent : hub.registry.find? key = none) :
    closePage key hub = { result := .error (.unknownPage key), hub } := by
  have taken : (hub.registry.remove key).1 = none := absent
  simp only [closePage, taken, Registry.remove_of_absent absent]

theorem closePage_of_context {key : String} {context : PageContext}
    (held : hub.registry.find? key = some context) : (closePage key hub).result = .ok () := by
  have taken : (hub.registry.remove key).1 = some context := held
  simp only [closePage, taken]

theorem openOrRefocus_of_refused {key : String} (openParams : String) (tab : Option Tab)
    (absent : hub.registry.find? key = none) :
    openOrRefocus false key openParams tab hub =
      { result := .error (.windowing "window creation refused"), hub } := by
  simp only [openOrRefocus, absent, Registry.remove_create absent, Bool.false_eq_true, if_false]

theorem refused_of_openOrRefocus {windowOpens : Bool} {key openParams : String}
    {tab : Option Tab} {error : HubError}
    (failed : (openOrRefocus windowOpens key openParams tab hub).result = .error error) :
    hub.registry.find? key = none ∧ windowOpens = false ∧
      error = .windowing "window creation refused" := by
  cases held : hub.registry.find? key with
  | some context =>
      simp only [openOrRefocus, held] at failed
      cases failed
  | none =>
      cases windowOpens with
      | true =>
          simp only [openOrRefocus, held, if_true] at failed
          cases failed
      | false =>
          rw [openOrRefocus_of_refused openParams tab held] at failed
          cases failed
          exact ⟨rfl, rfl, rfl⟩

theorem relayCall_of_bad {client : ClientId} {error : CallError} (relay : Relay) {func : String}
    {args : List Json} (loggedIn : hub.client = some client)
    (bad : Operation.ofCall func args = .error error) :
    relayCall relay func args hub =
      { result := .error (.call error)
        hub
        effects := [.post relay.link (relay.refuse 400 error.message)] } := by
  simp only [relayCall, loggedIn, bad, Relay.badRequest]

theorem bad_of_relayCall {relay : Relay} {func : String} {args : List Json} {error : HubError}
    (failed : (relayCall relay func args hub).result = .error error) :
    ∃ client reason, hub.client = some client ∧ Operation.ofCall func args = .error reason ∧
      error = .call reason := by
  cases loggedIn : hub.client with
  | none =>
      simp only [relayCall, loggedIn] at failed
      cases failed
  | some client =>
      cases called : Operation.ofCall func args with
      | ok operation =>
          simp only [relayCall, loggedIn, called] at failed
          cases failed
      | error reason =>
          rw [relayCall_of_bad relay loggedIn called] at failed
          cases failed
          exact ⟨client, reason, rfl, rfl, rfl⟩

end Handlers

/-! ## Demands -/

namespace Demand

section Demands
variable {windowOpens : Bool} {hub : Hub} {demand : Demand}

variable (windowOpens) in
theorem handled_of_opens {key : String} (opens : demand.openedKey? hub = some key) :
    ∃ openParams tab,
      demand.handled windowOpens hub = Hub.openOrRefocus windowOpens key openParams tab hub := by
  have opened {command : SurfaceCommand}
      (asked : (Page.ofCommand? command).map (·.1.key) = some key) :
      ∃ openParams tab, openFromCommand windowOpens command hub =
        Hub.openOrRefocus windowOpens key openParams tab hub := by
    obtain ⟨⟨page, tab⟩, named, rfl⟩ := Option.map_eq_some_iff.1 asked
    exact ⟨page.openParams, tab, by simp only [openFromCommand, named, Hub.openPage]⟩
  cases demand with
  | openOrRefocus other openParams tab =>
      cases opens
      exact ⟨openParams, tab, rfl⟩
  | openPage page tab =>
      cases opens
      exact ⟨page.openParams, tab, rfl⟩
  | pageMessage surface command =>
      have asked : (Page.ofCommand? command).map (·.1.key) = some key := opens
      cases command with
      | clearTab | relay => cases asked
      | _ => exact opened asked
  | bridgeMessage number command =>
      obtain ⟨link, known, asked⟩ := Option.bind_eq_some_iff.1 opens
      simp only [handled, Hub.bridgeMessage, known]
      cases command with
      | clearTab | relay => cases asked
      | _ => exact opened asked
  | connectPage | closePage => cases opens

theorem handled_of_relays {relay : Relay} {func : String} {args : List Json}
    (relays : demand.relayed? hub = some (relay, func, args)) :
    demand.handled windowOpens hub = relayCall relay func args hub := by
  cases demand with
  | pageMessage key command =>
      cases command with
      | relay id =>
          obtain ⟨link, linked, same⟩ := Option.map_eq_some_iff.1 relays
          cases same
          simp only [handled, Hub.pageMessage, linked]
      | _ => cases relays
  | bridgeMessage number command =>
      cases command with
      | relay id =>
          obtain ⟨link, known, same⟩ := Option.map_eq_some_iff.1 relays
          cases same
          simp only [handled, Hub.bridgeMessage, known]
      | _ => cases relays
  | _ => cases relays

theorem handled_of_refuses {error : HubError} (refuses : Refuses windowOpens hub demand error) :
    demand.handled windowOpens hub =
      { result := .error error, hub, effects := demand.reply hub error } := by
  cases refuses with
  | notOpened key link absent =>
      simp only [handled, Hub.connectPage, Registry.attach, absent, reply]
  | alreadyAttached key link attached context held linked =>
      simp only [handled, Hub.connectPage, Registry.attach, held, linked, reply]
  | noWindow _ key opens absent refused =>
      obtain ⟨openParams, tab, opened⟩ := handled_of_opens windowOpens opens
      rw [opened, refused, openOrRefocus_of_refused openParams tab absent]
      rfl
  | notConnected key id func args unlinked =>
      simp only [handled, Hub.pageMessage, unlinked, reply]
  | notOpen key absent => exact closePage_of_absent absent
  | badCall _ relay func args client reason relays loggedIn bad =>
      rw [handled_of_relays relays, relayCall_of_bad relay loggedIn bad]
      simp [reply, relays]

theorem refuses_of_connectPage {key : String} {link : Link} {error : HubError}
    (failed : (Hub.connectPage key link hub).result = .error error) :
    Refuses windowOpens hub (.connectPage key link) error := by
  cases held : hub.registry.find? key with
  | none =>
      simp only [Hub.connectPage, Registry.attach, held] at failed
      cases failed
      exact .notOpened key link held
  | some context =>
      cases linked : context.link with
      | none =>
          simp only [Hub.connectPage, Registry.attach, held, linked] at failed
          cases failed
      | some attached =>
          simp only [Hub.connectPage, Registry.attach, held, linked] at failed
          cases failed
          exact .alreadyAttached key link attached context held linked

theorem refuses_of_closePage {key : String} {error : HubError}
    (failed : (Hub.closePage key hub).result = .error error) :
    Refuses windowOpens hub (.closePage key) error := by
  cases held : hub.registry.find? key with
  | none =>
      rw [closePage_of_absent held] at failed
      cases failed
      exact .notOpen key held
  | some context =>
      rw [closePage_of_context held] at failed
      cases failed

/-- A command of a page that opens nothing and relays nothing clears the page, or is a call
of a page without a surface. -/
theorem refuses_of_pageMessage {key : String} {command : SurfaceCommand} {error : HubError}
    (unopened : (pageMessage key command).openedKey? hub = none)
    (unrelayed : (pageMessage key command).relayed? hub = none)
    (failed : (Hub.pageMessage windowOpens key command hub).result = .error error) :
    Refuses windowOpens hub (.pageMessage key command) error := by
  cases command with
  | clearTab => cases failed
  | relay id func args =>
      have unlinked := Option.map_eq_none_iff.1 unrelayed
      simp only [Hub.pageMessage, unlinked] at failed
      cases failed
      exact .notConnected key id func args unlinked
  | _ => cases unopened

theorem met_of_bridgeMessage {number : Nat} {command : SurfaceCommand}
    (unopened : (bridgeMessage number command).openedKey? hub = none)
    (unrelayed : (bridgeMessage number command).relayed? hub = none) :
    (Hub.bridgeMessage windowOpens number command hub).result = .ok () := by
  cases known : hub.bridges.find? number with
  | none => simp only [Hub.bridgeMessage, known]
  | some link =>
      simp only [openedKey?, known, Option.bind_some] at unopened
      cases command with
      | clearTab => simp only [Hub.bridgeMessage, known]
      | relay => simp [relayed?, known] at unrelayed
      | _ => cases unopened

/-- Whatever fails was refused for one of the reasons. -/
theorem refuses_of_failed {error : HubError}
    (failed : (demand.handled windowOpens hub).result = .error error) :
    Refuses windowOpens hub demand error := by
  cases opens : demand.openedKey? hub with
  | some key =>
      obtain ⟨openParams, tab, opened⟩ := handled_of_opens windowOpens opens
      rw [opened] at failed
      obtain ⟨absent, refused, rfl⟩ := refused_of_openOrRefocus failed
      exact .noWindow demand key opens absent refused
  | none =>
      cases relays : demand.relayed? hub with
      | some call =>
          obtain ⟨relay, func, args⟩ := call
          rw [handled_of_relays relays] at failed
          obtain ⟨client, reason, loggedIn, bad, rfl⟩ := bad_of_relayCall failed
          exact .badCall demand relay func args client reason relays loggedIn bad
      | none =>
          cases demand with
          | connectPage key link => exact refuses_of_connectPage failed
          | closePage key => exact refuses_of_closePage failed
          | pageMessage key command => exact refuses_of_pageMessage opens relays failed
          | bridgeMessage number command =>
              rw [handled, met_of_bridgeMessage opens relays] at failed
              cases failed
          | openOrRefocus | openPage => cases opens

end Demands

end Demand

/-- What the hub refuses, it refuses for a reason, and nothing comes of it, except that a call
which is no operation is answered.  A surface is turned away only by a page that is not open or
that has a surface, which stays with it. -/
structure Traceless (windowOpens : Bool) (hub : Hub) : Prop where
  refused : ∀ (demand : Demand) (error : HubError),
    (demand.handled windowOpens hub).result = .error error ↔
      Refuses windowOpens hub demand error
  unchanged : ∀ (demand : Demand) (error : HubError),
    (demand.handled windowOpens hub).result = .error error →
      (demand.handled windowOpens hub).hub = hub
  silent : ∀ (demand : Demand) (error : HubError),
    (demand.handled windowOpens hub).result = .error error →
      (demand.handled windowOpens hub).effects = demand.reply hub error
  connects : ∀ key link, (∃ error, (connectPage key link hub).result = .error error) ↔
    hub.registry.find? key = none ∨ ∃ context attached,
      hub.registry.find? key = some context ∧ context.link = some attached
  attached : ∀ key link context attached, hub.registry.find? key = some context →
    context.link = some attached →
    (connectPage key link hub).hub.registry.find? key = some context

theorem connectPage_fails_iff (windowOpens : Bool) (hub : Hub) (key : String) (link : Link) :
    (∃ error, Refuses windowOpens hub (.connectPage key link) error) ↔
      hub.registry.find? key = none ∨ ∃ context attached,
        hub.registry.find? key = some context ∧ context.link = some attached := by
  constructor
  · rintro ⟨error, refuses⟩
    cases refuses with
    | notOpened _ _ absent => exact .inl absent
    | alreadyAttached _ _ attached context held linked =>
        exact .inr ⟨context, attached, held, linked⟩
    | noWindow _ _ opens => cases opens
    | badCall _ _ _ _ _ _ relays => cases relays
  · rintro (absent | ⟨context, attached, held, linked⟩)
    · exact ⟨_, .notOpened key link absent⟩
    · exact ⟨_, .alreadyAttached key link attached context held linked⟩

theorem traceless (windowOpens : Bool) (hub : Hub) : Traceless windowOpens hub := by
  have iff (demand : Demand) (error : HubError) :
      (demand.handled windowOpens hub).result = .error error ↔
        Refuses windowOpens hub demand error := by
    refine ⟨Demand.refuses_of_failed, fun refuses => ?_⟩
    rw [Demand.handled_of_refuses refuses]
  refine ⟨iff, ?_, ?_, ?_, ?_⟩
  · intro demand error failed
    rw [Demand.handled_of_refuses ((iff demand error).1 failed)]
  · intro demand error failed
    rw [Demand.handled_of_refuses ((iff demand error).1 failed)]
  · intro key link
    rw [← connectPage_fails_iff windowOpens hub key link]
    exact exists_congr fun error => iff (.connectPage key link) error
  · intro key link context attached held linked
    have refuses : Refuses windowOpens hub (.connectPage key link) _ :=
      .alreadyAttached key link attached context held linked
    have unchanged := congrArg Handled.hub (Demand.handled_of_refuses refuses)
    rw [Demand.handled] at unchanged
    rw [unchanged]
    exact held

end Hub

/-! ## The events of a running hub -/

namespace HubEvent

/-- The demand that an event makes.  What comes through a link comes from a bridge or from
the surface of a page. -/
def demand? (hub : Hub) : HubEvent → Option Hub.Demand
  | .connectPage key link => some (.connectPage key link)
  | .openPage page tab => some (.openPage page tab)
  | .closePage _ key => some (.closePage key)
  | .message number command =>
      if hub.bridges.contains number then some (.bridgeMessage number command)
      else (hub.registry.keyForLink? number).map (.pageMessage · command)
  | _ => none

section Demands
variable (windowOpens : Bool) {hub : Hub} {event : HubEvent}

theorem handled_of_demand {demand : Hub.Demand} (made : event.demand? hub = some demand) :
    event.handled windowOpens hub = demand.handled windowOpens hub := by
  cases event with
  | message number command =>
      simp only [demand?] at made
      split at made
      · rename_i bridge
        cases made
        simp only [handled, Hub.message, bridge, if_true, Hub.Demand.handled]
      · rename_i unbridged
        obtain ⟨key, known, rfl⟩ := Option.map_eq_some_iff.1 made
        simp only [handled, Hub.message, unbridged, known, Bool.false_eq_true, if_false,
          Hub.Demand.handled]
  | connectPage | openPage | closePage =>
      cases made
      rfl
  | _ => cases made

theorem met_of_undemanded (undemanded : event.demand? hub = none) :
    (event.handled windowOpens hub).result = .ok () := by
  cases event with
  | message number command =>
      simp only [demand?] at undemanded
      split at undemanded
      · cases undemanded
      · rename_i unbridged
        have unknown := Option.map_eq_none_iff.1 undemanded
        simp only [handled, Hub.message, unbridged, unknown, Bool.false_eq_true, if_false]
  | disconnect number =>
      simp only [handled, Hub.disconnect]
      split
      · rfl
      · split <;> rfl
  | connectPage | openPage | closePage => cases undemanded
  | _ => rfl

end Demands

end HubEvent

namespace Switchboard

theorem perform_of_posts (board : Switchboard) (cause : Option Nat) {handled : HubLoop.Handled}
    (posts : ∀ act ∈ handled.2.filterMap HubLoopEffect.act?, ∃ link command,
      act = .post link command) :
    (board.perform cause handled).clients = board.clients ∧
      (board.perform cause handled).tasks = board.tasks := by
  obtain ⟨loop, effects⟩ := handled
  have folded (former : Switchboard) : (effects.foldl (apply cause) former).clients =
      former.clients ∧ (effects.foldl (apply cause) former).tasks = former.tasks := by
    induction effects generalizing former with
    | nil => exact ⟨rfl, rfl⟩
    | cons effect rest ih =>
        have applied : (former.apply cause effect).clients = former.clients ∧
            (former.apply cause effect).tasks = former.tasks := by
          cases effect with
          | act act =>
              obtain ⟨link, command, rfl⟩ := posts act (by simp [HubLoopEffect.act?])
              exact ⟨rfl, rfl⟩
          | lookUpTab | answer => exact ⟨rfl, rfl⟩
        have among : ∀ act ∈ rest.filterMap HubLoopEffect.act?,
            ∃ link command, act = .post link command := by
          intro act member
          refine posts act ?_
          rw [List.filterMap_cons]
          split
          · exact member
          · exact List.mem_cons_of_mem _ member
        have later := ih among (former.apply cause effect)
        exact ⟨later.1.trans applied.1, later.2.trans applied.2⟩
  exact folded { board with loop }

/-- When the hub takes an event and refuses what it demands, nothing changes around it.  The
answer to a call which is no operation is all that is posted. -/
structure Undisturbed (windowOpens : Bool) (board : Switchboard) (event : HubEvent)
    (error : HubError) : Prop where
  hub : (board.step (.take windowOpens)).loop.hub = board.loop.hub
  clients : (board.step (.take windowOpens)).clients = board.clients
  tasks : (board.step (.take windowOpens)).tasks = board.tasks
  posted : ∃ demand, event.demand? board.loop.hub = some demand ∧
    Hub.Refuses windowOpens board.loop.hub demand error ∧
    (board.step (.take windowOpens)).posted = board.posted ++
      (demand.reply board.loop.hub error).filterMap
        (postOf? (board.loop.call?.map fun _ => board.calls.length))

theorem reply_posts (hub : Hub) (demand : Hub.Demand) (error : HubError) :
    ∀ act ∈ demand.reply hub error, ∃ link command, act = .post link command := by
  intro act member
  cases error with
  | call reason =>
      obtain ⟨⟨relay, _, _⟩, _, rfl⟩ := List.mem_map.1 member
      exact ⟨_, _, rfl⟩
  | _ => cases member

theorem undisturbed {board : Switchboard} {windowOpens : Bool} {event : HubEvent} {error : HubError}
    (next : board.loop.next? = some event)
    (failed : (event.handled windowOpens board.loop.hub).result = .error error) :
    Undisturbed windowOpens board event error := by
  cases made : event.demand? board.loop.hub with
  | none =>
      rw [event.met_of_undemanded windowOpens made] at failed
      cases failed
  | some demand =>
      rw [event.handled_of_demand windowOpens made] at failed
      have refuses := Hub.Demand.refuses_of_failed failed
      have does := HubLoop.take_does windowOpens next
      rw [event.handled_of_demand windowOpens made, Hub.Demand.handled_of_refuses refuses] at does
      have posts : ∀ act ∈ (board.loop.take windowOpens).2.filterMap HubLoopEffect.act?,
          ∃ link command, act = .post link command := by
        rw [does.acts]
        exact reply_posts board.loop.hub demand error
      have quiet := perform_of_posts { board with calls := board.calls ++ board.loop.call?.toList }
        (board.loop.call?.map fun _ => board.calls.length) posts
      refine ⟨?_, quiet.1, quiet.2, demand, made, refuses, ?_⟩
      · rw [take_loop, does.hub]
      · rw [board.take_posted windowOpens next, event.handled_of_demand windowOpens made,
          Hub.Demand.handled_of_refuses refuses]

/-- A refusal leaves no trace: in no state of a hub that is asked directly, and in no run of
a hub that takes events. -/
theorem refusals_traceless (windowOpens : Bool) :
    (∀ hub : Hub, hub.Traceless windowOpens) ∧
      ∀ options moves event error, (run options moves).loop.next? = some event →
        (event.handled windowOpens (run options moves).loop.hub).result = .error error →
        Undisturbed windowOpens (run options moves) event error := by
  refine ⟨fun hub => hub.traceless windowOpens, ?_⟩
  intro options moves event error next failed
  exact undisturbed next failed

/-- A bridge calls what is no operation. -/
def unknownCall : List HubMove :=
  [.ask (.setClient (some 0)), .take true, .connectBridge, .take true,
    .sendMessage 1 (.relay 7 "getNothing" [])]

theorem unknownCall_traceless :
    Undisturbed true (run (fun _ => {}) unknownCall) (.message 1 (.relay 7 "getNothing" []))
        (.call (.unknownMethod "getNothing")) ∧
      ((run (fun _ => {}) unknownCall).step (.take true)).posted =
        [⟨some 0, Link.numbered 1,
          .answer 7 400 (Relay.errorBody "unknown RPC method: getNothing")⟩] :=
  ⟨(refusals_traceless true).2 (fun _ => {}) unknownCall
    (.message 1 (.relay 7 "getNothing" [])) _ rfl rfl, rfl⟩

end Switchboard

end BookmarkHub
