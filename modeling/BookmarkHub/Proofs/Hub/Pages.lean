import BookmarkHub.Proofs.Hub.Calls

/-!
# What an event does to the pages

An event concerns the page that it asks for, the page that a surface is
connected for, or the page that goes away with it.  Every other page stays as
it is.
-/

set_option autoImplicit false

namespace BookmarkHub

/-! ## Surfaces and their pages -/

/-- The surface with a number is the one of a page. -/
def Registry.Attached (registry : Registry) (key : String) (number : Nat) : Prop :=
  ∃ context link, registry.find? key = some context ∧ context.link = some link ∧ link.id = number

section Attached
variable {registry : Registry} {key : String} {number : Nat}

theorem Registry.Filed.attached_of_key (filed : registry.Filed)
    (known : registry.keyForLink? number = some key) : registry.Attached key number := by
  have linked := filed.link_of_key known
  obtain ⟨context, held, link⟩ := Option.bind_eq_some_iff.1 linked
  exact ⟨context, Link.numbered number, held, link, rfl⟩

theorem Registry.Attached.hasLink (attached : registry.Attached key number) :
    ∃ context ∈ registry.pages.values, context.hasLink number = true := by
  obtain ⟨context, link, held, linked, rfl⟩ := attached
  refine ⟨context, Table.mem_values_of_find? held, ?_⟩
  simp [PageContext.hasLink, linked]

theorem Registry.attached_of_hasLink {context : PageContext}
    (member : context ∈ registry.pages.values) (linked : context.hasLink number = true) :
    ∃ key, registry.Attached key number := by
  obtain ⟨key, held⟩ := Table.find?_of_mem_values member
  cases link : context.link with
  | none => simp [PageContext.hasLink, link] at linked
  | some other =>
      refine ⟨key, context, other, held, link, ?_⟩
      simpa [PageContext.hasLink, link] using linked

end Attached

namespace Hub

/-- Nobody is the surface of two pages, or of a page and a bridge. -/
structure Exclusive (hub : Hub) : Prop where
  once : ∀ number key other, hub.registry.Attached key number →
    hub.registry.Attached other number → key = other
  apart : ∀ number key, hub.registry.Attached key number → hub.bridges.contains number = false

section Hears
variable {hub : Hub} {number : Nat}

theorem hears_iff : hub.hears number = true ↔
    hub.bridges.contains number = true ∨ ∃ key, hub.registry.Attached key number := by
  rw [hears, Bool.or_eq_true, List.any_eq_true]
  constructor
  · rintro (bridge | ⟨context, member, linked⟩)
    · exact Or.inl bridge
    · exact Or.inr (Registry.attached_of_hasLink member linked)
  · rintro (bridge | ⟨key, attached⟩)
    · exact Or.inl bridge
    · exact Or.inr attached.hasLink

theorem heard_of_attached {key : String} (attached : hub.registry.Attached key number) :
    hub.hears number = true :=
  hears_iff.2 (Or.inr ⟨key, attached⟩)

theorem unheard_of_unknown (unbridged : ¬ hub.bridges.contains number = true)
    (unknown : hub.registry.keyForLink? number = none) : hub.hears number = false := by
  have nowhere : ∀ context ∈ hub.registry.pages.values, ¬ context.hasLink number = true := by
    simpa [Registry.keyForLink?] using unknown
  rw [hears, Bool.or_eq_false_iff, List.any_eq_false]
  exact ⟨Bool.eq_false_iff.2 unbridged, nowhere⟩

end Hears

/-! ## What comes from a surface -/

/-- What the hub does with a command that came through the link with a number. -/
inductive Receives (windowOpens : Bool) (number : Nat) (hub : Hub) :
    SurfaceCommand → Handled → Prop where
  | drop (command : SurfaceCommand) (unheard : hub.hears number = false) :
      Receives windowOpens number hub command { hub }
  | ignore (bridge : hub.bridges.contains number = true) :
      Receives windowOpens number hub .clearTab { hub }
  | clear (key : String) (attached : hub.registry.Attached key number) :
      Receives windowOpens number hub .clearTab
        { hub := { hub with registry := (hub.registry.remove key).2 } }
  | relay (id : UInt64) (func : String) (args : List Json) (heard : hub.hears number = true) :
      Receives windowOpens number hub (.relay id func args)
        (relayCall ⟨Link.numbered number, id⟩ func args hub)
  | opens (command : SurfaceCommand) (page : Page) (tab : Option Tab)
      (heard : hub.hears number = true) (asked : Page.ofCommand? command = some (page, tab)) :
      Receives windowOpens number hub command (openPage windowOpens page tab hub)

/-- What the hub does when the surface with a number went away. -/
inductive Forgets (number : Nat) (hub : Hub) : Handled → Prop where
  | nobody (unheard : hub.hears number = false) : Forgets number hub { hub }
  | bridge (known : hub.bridges.contains number = true) :
      Forgets number hub { hub := { hub with bridges := hub.bridges.erase number } }
  | page (key : String) (attached : hub.registry.Attached key number) :
      Forgets number hub { hub := { hub with registry := (hub.registry.remove key).2 } }

section Surfaces
variable (windowOpens : Bool) {hub : Hub} (number : Nat)

theorem opens_of_heard (heard : hub.hears number = true) (command : SurfaceCommand)
    {page : Page} {tab : Option Tab} (asked : Page.ofCommand? command = some (page, tab)) :
    message windowOpens number command hub = openPage windowOpens page tab hub := by
  have opened : openFromCommand windowOpens command hub = openPage windowOpens page tab hub := by
    simp only [openFromCommand, asked]
  rw [← opened]
  unfold message
  split
  · rename_i bridge
    obtain ⟨link, found⟩ := Option.isSome_iff_exists.1 bridge
    simp only [bridgeMessage, found]
    cases command <;> first | rfl | cases asked
  · rename_i unbridged
    cases known : hub.registry.keyForLink? number with
    | none =>
        rw [unheard_of_unknown unbridged known] at heard
        cases heard
    | some key =>
        simp only [pageMessage]
        cases command <;> first | rfl | cases asked

variable (filed : Filed hub)
include filed

theorem clear_receives :
    Receives windowOpens number hub .clearTab (message windowOpens number .clearTab hub) := by
  unfold message
  split
  · rename_i bridge
    obtain ⟨link, found⟩ := Option.isSome_iff_exists.1 bridge
    simp only [bridgeMessage, found]
    exact .ignore bridge
  · rename_i unbridged
    cases known : hub.registry.keyForLink? number with
    | some key => exact .clear key (filed.registry.attached_of_key known)
    | none => exact .drop .clearTab (unheard_of_unknown unbridged known)

theorem message_receives (command : SurfaceCommand) :
    Receives windowOpens number hub command (message windowOpens number command hub) := by
  cases heard : hub.hears number with
  | false =>
      rw [message_of_unheard windowOpens command heard]
      exact .drop command heard
  | true =>
      cases asked : Page.ofCommand? command with
      | some request =>
          obtain ⟨page, tab⟩ := request
          rw [opens_of_heard windowOpens number heard command asked]
          exact .opens command page tab heard asked
      | none =>
          cases command with
          | clearTab => exact clear_receives windowOpens number filed
          | relay id func args =>
              rw [message_relay windowOpens filed heard]
              exact .relay id func args heard
          | _ => cases asked

theorem disconnect_forgets : Forgets number hub (disconnect number hub) := by
  unfold disconnect
  split
  · rename_i bridge
    exact .bridge bridge
  · rename_i unbridged
    cases known : hub.registry.keyForLink? number with
    | some key => exact .page key (filed.registry.attached_of_key known)
    | none => exact .nobody (unheard_of_unknown unbridged known)

end Surfaces

end Hub

/-! ## What an event asks for and what it removes -/

namespace HubEvent

/-- What the hub does about an event, apart from the answers that callers wait for. -/
def handled (windowOpens : Bool) (hub : Hub) : HubEvent → Hub.Handled
  | .connectPage key link => Hub.connectPage key link hub
  | .connectBridge link => Hub.connectBridge link hub
  | .message link command => Hub.message windowOpens link command hub
  | .disconnect link => Hub.disconnect link hub
  | .openPage page tab => Hub.openPage windowOpens page tab hub
  | .closePage _ key => Hub.closePage key hub
  | .setClient client => Hub.setClient client hub
  | .shutdown => Hub.shutdown hub
  | .openForActiveTab _ | .listPages _ => { hub }

/-- The page that an event asks for, with the tab to open it for. -/
def request? (hub : Hub) : HubEvent → Option (Page × Option Tab)
  | .openPage page tab => some (page, tab)
  | .message number command => if hub.hears number then Page.ofCommand? command else none
  | _ => none

/-- The events with which a page goes away. -/
inductive Removes (hub : Hub) (key : String) : HubEvent → Prop where
  | clear (number : Nat) (attached : hub.registry.Attached key number) :
      Removes hub key (.message number .clearTab)
  | leave (number : Nat) (attached : hub.registry.Attached key number) :
      Removes hub key (.disconnect number)
  | close (caller : HubCaller) : Removes hub key (.closePage caller key)
  | shutdown : Removes hub key .shutdown

inductive Changes (windowOpens : Bool) (hub : Hub) (key : String) (event : HubEvent) :
    Option PageContext → Prop where
  | same (unopened : ∀ page tab, event.request? hub = some (page, tab) → page.key = key →
        windowOpens = false ∧ hub.registry.find? key = none)
      (unremoved : ¬ event.Removes hub key) :
      Changes windowOpens hub key event (hub.registry.find? key)
  | opened (page : Page) (tab : Option Tab) (asked : event.request? hub = some (page, tab))
      (named : page.key = key) (absent : hub.registry.find? key = none)
      (opens : windowOpens = true) : Changes windowOpens hub key event (some { key, tab })
  | refocused (page : Page) (tab : Option Tab) (context : PageContext)
      (asked : event.request? hub = some (page, tab)) (named : page.key = key)
      (held : hub.registry.find? key = some context) :
      Changes windowOpens hub key event (some { context with tab := tab.or context.tab })
  | connected (link : Link) (context : PageContext) (connects : event = .connectPage key link)
      (held : hub.registry.find? key = some context) (unlinked : context.link = none) :
      Changes windowOpens hub key event (some { context with link := some link })
  | removed (removes : event.Removes hub key) : Changes windowOpens hub key event none

end HubEvent

namespace Hub

section Opening
variable {hub : Hub} {page : Page} (tab : Option Tab)

theorem openPage_of_context (windowOpens : Bool) {context : PageContext}
    (held : hub.registry.find? page.key = some context) :
    openPage windowOpens page tab hub =
      { hub := { hub with registry := hub.registry.put { context with tab := tab.or context.tab } }
        effects := refocus { context with tab := tab.or context.tab } ++
          [.window (.focus page.key)] } := by
  simp only [openPage, openOrRefocus, held]

variable (absent : hub.registry.find? page.key = none)
include absent

theorem openPage_of_absent : openPage true page tab hub =
    { hub := { hub with registry := hub.registry.put { key := page.key, tab } }
      effects := [.window (.open (Page.windowUrl page.key page.openParams) hub.window)] } := by
  simp only [openPage, openOrRefocus, absent, Registry.create_of_absent absent, if_true]

theorem openPage_of_refused : openPage false page tab hub =
    { result := .error (.windowing "window creation refused"), hub } := by
  simp only [openPage, openOrRefocus, absent, Registry.remove_create absent, Bool.false_eq_true,
    if_false]

end Opening

section Changes
variable (windowOpens : Bool) {hub : Hub} (key : String)

theorem changes_same {event : HubEvent} {after : Hub} (same : after.registry = hub.registry)
    (unasked : event.request? hub = none) (unremoved : ¬ event.Removes hub key) :
    event.Changes windowOpens hub key (after.registry.find? key) := by
  rw [same]
  refine .same ?_ unremoved
  intro page tab asked
  rw [unasked] at asked
  cases asked

theorem remove_changes {event : HubEvent} {removed : String}
    (unasked : event.request? hub = none)
    (removes : ∀ other, event.Removes hub other ↔ other = removed) :
    event.Changes windowOpens hub key ((hub.registry.remove removed).2.find? key) := by
  rw [Registry.find?_remove]
  split
  · rename_i same
    exact .removed ((removes key).2 same)
  · rename_i apart
    exact changes_same windowOpens key rfl unasked (mt (removes key).1 apart)

theorem openPage_changes (filed : Filed hub) {event : HubEvent} {page : Page} {tab : Option Tab}
    (asked : event.request? hub = some (page, tab)) (unremoved : ¬ event.Removes hub key) :
    event.Changes windowOpens hub key
      ((openPage windowOpens page tab hub).hub.registry.find? key) := by
  have unopened (apart : key = page.key → windowOpens = false ∧ hub.registry.find? key = none) :
      event.Changes windowOpens hub key (hub.registry.find? key) := by
    refine .same ?_ unremoved
    intro wanted wantedTab alsoAsked named
    rw [asked] at alsoAsked
    cases alsoAsked
    exact apart named.symm
  cases held : hub.registry.find? page.key with
  | some context =>
      have keyed : context.key = page.key := filed.registry.keys _ _ held
      rw [openPage_of_context tab windowOpens held]
      simp only [Registry.find?_put]
      split
      · rename_i named
        rw [keyed] at named
        rw [← named] at held
        exact .refocused page tab context asked named.symm held
      · rename_i apart
        rw [keyed] at apart
        exact unopened fun named => absurd named apart
  | none =>
      cases opens : windowOpens with
      | true =>
          rw [openPage_of_absent tab held]
          simp only [Registry.find?_put]
          split
          · rename_i named
            subst named
            exact .opened page tab asked rfl held rfl
          · rename_i apart
            rw [opens] at unopened
            exact unopened fun named => absurd named apart
      | false =>
          rw [openPage_of_refused tab held]
          rw [opens] at unopened
          refine unopened fun named => ⟨rfl, ?_⟩
          rw [named]
          exact held

theorem connectPage_changes (filed : Filed hub) (page : String) (link : Link) :
    (HubEvent.connectPage page link).Changes windowOpens hub key
      ((connectPage page link hub).hub.registry.find? key) := by
  have unchanged : (HubEvent.connectPage page link).Changes windowOpens hub key
      (hub.registry.find? key) := changes_same windowOpens key rfl rfl nofun
  unfold connectPage Registry.attach
  cases held : hub.registry.find? page with
  | none => exact unchanged
  | some context =>
      have keyed : context.key = page := filed.registry.keys page context held
      cases linked : context.link with
      | some other =>
          simp only [linked]
          exact unchanged
      | none =>
          simp only [linked, Registry.find?_put]
          split
          · rename_i named
            rw [keyed] at named
            subst named
            exact .connected link context rfl held linked
          · exact unchanged

theorem message_changes (filed : Filed hub) (exclusive : Exclusive hub) (number : Nat)
    (command : SurfaceCommand) :
    (HubEvent.message number command).Changes windowOpens hub key
      ((message windowOpens number command hub).hub.registry.find? key) := by
  have received := message_receives windowOpens number filed command
  generalize message windowOpens number command hub = handled at received ⊢
  cases received with
  | drop _ unheard =>
      refine changes_same windowOpens key rfl (by simp [HubEvent.request?, unheard]) ?_
      rintro ⟨_, attached⟩
      rw [heard_of_attached attached] at unheard
      cases unheard
  | ignore bridge =>
      refine changes_same windowOpens key rfl (by simp [HubEvent.request?, Page.ofCommand?]) ?_
      rintro ⟨_, attached⟩
      rw [exclusive.apart number key attached] at bridge
      cases bridge
  | clear own attached =>
      refine remove_changes windowOpens key (by simp [HubEvent.request?, Page.ofCommand?]) ?_
      -- nobody is the surface of two pages, so no other page is removed
      intro other
      constructor
      · rintro ⟨_, alsoAttached⟩
        exact exclusive.once number other own alsoAttached attached
      · rintro rfl
        exact .clear number attached
  | relay id func args heard =>
      rw [relayCall_hub]
      exact changes_same windowOpens key rfl (by simp [HubEvent.request?, Page.ofCommand?]) nofun
  | opens _ page tab heard asked =>
      refine openPage_changes windowOpens key filed (by simp [HubEvent.request?, heard, asked]) ?_
      rintro ⟨_, _⟩
      cases asked

theorem disconnect_changes (filed : Filed hub) (exclusive : Exclusive hub) (number : Nat) :
    (HubEvent.disconnect number).Changes windowOpens hub key
      ((disconnect number hub).hub.registry.find? key) := by
  have forgotten := disconnect_forgets number filed
  generalize disconnect number hub = handled at forgotten ⊢
  cases forgotten with
  | nobody unheard =>
      refine changes_same windowOpens key rfl rfl ?_
      rintro (_ | ⟨_, attached⟩)
      rw [heard_of_attached attached] at unheard
      cases unheard
  | bridge known =>
      refine changes_same windowOpens key rfl rfl ?_
      rintro (_ | ⟨_, attached⟩)
      rw [exclusive.apart number key attached] at known
      cases known
  | page own attached =>
      refine remove_changes windowOpens key rfl ?_
      intro other
      constructor
      · rintro (_ | ⟨_, alsoAttached⟩)
        exact exclusive.once number other own alsoAttached attached
      · rintro rfl
        exact .leave number attached

theorem closePage_changes (caller : HubCaller) (page : String) :
    (HubEvent.closePage caller page).Changes windowOpens hub key
      ((closePage page hub).hub.registry.find? key) := by
  have removed : (closePage page hub).hub.registry.find? key =
      (hub.registry.remove page).2.find? key := by
    unfold closePage
    dsimp only
    split <;> rfl
  rw [removed]
  refine remove_changes windowOpens key rfl ?_
  intro other
  constructor
  · rintro ⟨⟩
    rfl
  · rintro rfl
    exact .close caller

/-- Whatever the hub is told, a page changes only as that event can change it. -/
theorem event_changes (filed : Filed hub) (exclusive : Exclusive hub) (event : HubEvent) :
    event.Changes windowOpens hub key ((event.handled windowOpens hub).hub.registry.find? key) := by
  cases event with
  | connectPage page link => exact connectPage_changes windowOpens key filed page link
  | message number command => exact message_changes windowOpens key filed exclusive number command
  | disconnect number => exact disconnect_changes windowOpens key filed exclusive number
  | openPage page tab => exact openPage_changes windowOpens key filed rfl nofun
  | closePage caller page => exact closePage_changes windowOpens key caller page
  | shutdown => exact .removed .shutdown
  | connectBridge | openForActiveTab | setClient | listPages =>
      exact changes_same windowOpens key rfl rfl nofun

end Changes

end Hub

end BookmarkHub
