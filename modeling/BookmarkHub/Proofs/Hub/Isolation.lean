import BookmarkHub.Proofs.Hub.Ownership

/-!
# Surfaces do not reach each other

What comes from a surface concerns its own page and, if it asks for a page,
that page; it never takes a link from a page or gives it one.  A surface that
was forgotten makes the hub do nothing, also when a later surface is connected
for the same page.
-/

set_option autoImplicit false

namespace BookmarkHub

namespace HubEvent

def surface? : HubEvent → Option Nat
  | .message number _ | .disconnect number => some number
  | _ => none

/-- What the hub may do about an event that comes from a surface. -/
inductive Permits (hub : Hub) : HubEvent → HubEffect → Prop where
  | answer (number : Nat) (id : UInt64) (func : String) (args : List Json) (status : UInt16)
      (body : Json) : Permits hub (.message number (.relay id func args))
        (.post (Link.numbered number) (.answer id status body))
  | submit (number : Nat) (id : UInt64) (func : String) (args : List Json) (client : ClientId)
      (operation : Operation) : Permits hub (.message number (.relay id func args))
        (.submit client ⟨Link.numbered number, id⟩ operation)
  | setTab (number : Nat) (command : SurfaceCommand) (page : Page) (tab : Option Tab)
      (asked : Page.ofCommand? command = some (page, tab)) (context : PageContext) (link : Link)
      (held : hub.registry.find? page.key = some context) (linked : context.link = some link)
      (shown : Tab) (known : tab.or context.tab = some shown) :
      Permits hub (.message number command) (.post link (.setTab shown))
  | focus (number : Nat) (command : SurfaceCommand) (page : Page) (tab : Option Tab)
      (asked : Page.ofCommand? command = some (page, tab)) (context : PageContext) (link : Link)
      (held : hub.registry.find? page.key = some context) (linked : context.link = some link) :
      Permits hub (.message number command) (.post link .focus)
  | focusWindow (number : Nat) (command : SurfaceCommand) (page : Page) (tab : Option Tab)
      (asked : Page.ofCommand? command = some (page, tab)) :
      Permits hub (.message number command) (.window (.focus page.key))
  | openWindow (number : Nat) (command : SurfaceCommand) (page : Page) (tab : Option Tab)
      (asked : Page.ofCommand? command = some (page, tab))
      (absent : hub.registry.find? page.key = none) :
      Permits hub (.message number command)
        (.window (.open (Page.windowUrl page.key page.openParams) hub.window))

end HubEvent

namespace Hub

section Permits
variable (windowOpens : Bool) {hub : Hub} {number : Nat}

theorem mem_refocus {context : PageContext} {effect : HubEffect}
    (member : effect ∈ refocus context) : ∃ link, context.link = some link ∧
      (effect = .post link .focus ∨
        ∃ tab, context.tab = some tab ∧ effect = .post link (.setTab tab)) := by
  cases linked : context.link with
  | none => simp [refocus, linked] at member
  | some link =>
      simp only [refocus, linked, List.mem_append, List.mem_map, List.mem_singleton,
        Option.mem_toList] at member
      refine ⟨link, rfl, ?_⟩
      rcases member with ⟨tab, known, rfl⟩ | rfl
      · exact Or.inr ⟨tab, known, rfl⟩
      · exact Or.inl rfl

theorem openPage_permits (command : SurfaceCommand) {page : Page} {tab : Option Tab}
    (asked : Page.ofCommand? command = some (page, tab)) :
    ∀ effect ∈ (openPage windowOpens page tab hub).effects,
      (HubEvent.message number command).Permits hub effect := by
  intro effect member
  cases held : hub.registry.find? page.key with
  | some context =>
      rw [openPage_of_context tab windowOpens held] at member
      rcases List.mem_append.1 member with told | focused
      · obtain ⟨link, linked, rfl | ⟨shown, known, rfl⟩⟩ := mem_refocus told
        · exact .focus number command page tab asked context link held linked
        · exact .setTab number command page tab asked context link held linked shown known
      · rw [List.mem_singleton.1 focused]
        exact .focusWindow number command page tab asked
  | none =>
      cases windowOpens with
      | true =>
          rw [openPage_of_absent tab held] at member
          rw [List.mem_singleton.1 member]
          exact .openWindow number command page tab asked held
      | false =>
          rw [openPage_of_refused tab held] at member
          cases member

theorem message_permits (filed : Filed hub) (command : SurfaceCommand) :
    ∀ effect ∈ (message windowOpens number command hub).effects,
      (HubEvent.message number command).Permits hub effect := by
  have received := message_receives windowOpens number filed command
  generalize message windowOpens number command hub = handled at received ⊢
  intro effect member
  cases received with
  | drop | ignore | clear => cases member
  | opens _ page tab heard asked => exact openPage_permits windowOpens command asked effect member
  | relay id func args heard =>
      rcases relayCall_cases hub ⟨Link.numbered number, id⟩ func args with
        ⟨_, refused⟩ | ⟨client, error, _, _, refused⟩ | ⟨client, operation, _, _, submitted⟩
      · rw [refused] at member
        rw [List.mem_singleton.1 member]
        exact .answer number id func args _ _
      · rw [refused] at member
        rw [List.mem_singleton.1 member]
        exact .answer number id func args _ _
      · rw [submitted] at member
        rw [List.mem_singleton.1 member]
        exact .submit number id func args client operation

theorem disconnect_bridges (filed : Filed hub) {other : Nat} (apart : other ≠ number) :
    (disconnect number hub).hub.bridges.find? other = hub.bridges.find? other := by
  have forgotten := disconnect_forgets number filed
  generalize disconnect number hub = handled at forgotten ⊢
  cases forgotten with
  | nobody | page => rfl
  | bridge =>
      have unequal : compare other number ≠ .eq := mt Nat.compare_eq_eq.1 apart
      rw [Table.find?_erase, if_neg unequal]

end Permits

end Hub

/-! ## What a surface leaves alone -/

/-- An event of a surface is taken, and concerns nobody but the surface and the page that it asks
for.  A page of another surface keeps its link, and stays as it is unless it is asked for. -/
structure HubLoop.Confined (windowOpens : Bool) (event : HubEvent) (number : Nat)
    (loop : HubLoop) : Prop where
  pages : ∀ key, event.Changes windowOpens loop.hub key
    ((loop.take windowOpens).1.hub.registry.find? key)
  kept : ∀ key context, ¬ loop.hub.registry.Attached key number →
    loop.hub.registry.find? key = some context →
      ∃ later, (loop.take windowOpens).1.hub.registry.find? key = some later ∧
        later.link = context.link
  others : ∀ key, ¬ loop.hub.registry.Attached key number →
    (∀ command page tab, event = .message number command →
      Page.ofCommand? command = some (page, tab) → page.key ≠ key) →
      (loop.take windowOpens).1.hub.registry.find? key = loop.hub.registry.find? key
  links : ∀ key later link,
    (loop.take windowOpens).1.hub.registry.find? key = some later → later.link = some link →
      ∃ context, loop.hub.registry.find? key = some context ∧ context.link = some link
  bridges : ∀ other, other ≠ number →
    (loop.take windowOpens).1.hub.bridges.find? other = loop.hub.bridges.find? other
  client : (loop.take windowOpens).1.hub.client = loop.hub.client
  rest : (loop.take windowOpens).1 =
    { loop with hub := (loop.take windowOpens).1.hub, mailbox := loop.mailbox.tail }
  done : ∀ effect ∈ (loop.take windowOpens).2,
    ∃ act, effect = .act act ∧ event.Permits loop.hub act
  unheard : loop.hub.hears number = false →
    loop.take windowOpens = ({ loop with mailbox := loop.mailbox.tail }, [])

section Confined
variable (windowOpens : Bool) {loop : HubLoop} {event : HubEvent} {number : Nat}

theorem HubEvent.Changes.kept {hub : Hub} {key : String} {after : Option PageContext}
    (changes : event.Changes windowOpens hub key after) (comes : event.surface? = some number)
    (foreign : ¬ hub.registry.Attached key number) {context : PageContext}
    (held : hub.registry.find? key = some context) :
    ∃ later, after = some later ∧ later.link = context.link := by
  cases changes with
  | same => exact ⟨context, held, rfl⟩
  | opened page tab asked named absent =>
      rw [absent] at held
      cases held
  | refocused page tab old asked named before =>
      rw [before] at held
      cases held
      exact ⟨_, rfl, rfl⟩
  | connected link old connects =>
      rw [connects] at comes
      cases comes
  | removed removes =>
      cases removes with
      | clear own attached | leave own attached =>
          cases comes
          exact absurd attached foreign
      | close | shutdown => cases comes

theorem HubEvent.command_of_request {hub : Hub} {page : Page} {tab : Option Tab}
    (comes : event.surface? = some number) (asked : event.request? hub = some (page, tab)) :
    ∃ command, event = .message number command ∧ Page.ofCommand? command = some (page, tab) := by
  cases event with
  | message own command =>
      cases comes
      simp only [HubEvent.request?] at asked
      split at asked
      · exact ⟨command, rfl, asked⟩
      · cases asked
  | disconnect => cases asked
  | _ => cases comes

theorem HubEvent.Changes.others {hub : Hub} {key : String} {after : Option PageContext}
    (changes : event.Changes windowOpens hub key after) (comes : event.surface? = some number)
    (foreign : ¬ hub.registry.Attached key number)
    (unasked : ∀ command page tab, event = .message number command →
      Page.ofCommand? command = some (page, tab) → page.key ≠ key) :
    after = hub.registry.find? key := by
  cases changes with
  | same => rfl
  | opened page tab asked named | refocused page tab _ asked named =>
      obtain ⟨command, sent, names⟩ := HubEvent.command_of_request comes asked
      exact absurd named (unasked command page tab sent names)
  | connected link old connects =>
      rw [connects] at comes
      cases comes
  | removed removes =>
      cases removes with
      | clear own attached | leave own attached =>
          cases comes
          exact absurd attached foreign
      | close | shutdown => cases comes

theorem HubEvent.Changes.links {hub : Hub} {key : String} {later : PageContext} {link : Link}
    (changes : event.Changes windowOpens hub key (some later))
    (comes : event.surface? = some number) (linked : later.link = some link) :
    ∃ context, hub.registry.find? key = some context ∧ context.link = some link := by
  generalize same : some later = after at changes
  cases changes with
  | same => exact ⟨later, same.symm, linked⟩
  | opened =>
      cases same
      cases linked
  | refocused page tab old asked named held =>
      cases same
      exact ⟨old, held, linked⟩
  | connected new old connects =>
      rw [connects] at comes
      cases comes
  | removed => cases same

theorem HubLoop.take_of_surface (next : loop.next? = some event)
    (comes : event.surface? = some number) :
    loop.take windowOpens = ({ loop with mailbox := loop.mailbox.tail } : HubLoop).handled
      (event.handled windowOpens loop.hub) := by
  rw [HubLoop.take_of_next windowOpens next]
  cases event with
  | message | disconnect => rfl
  | _ => cases comes

theorem HubEvent.handled_surface {hub : Hub} (filed : hub.Filed)
    (comes : event.surface? = some number) :
    (∀ other, other ≠ number →
      (event.handled windowOpens hub).hub.bridges.find? other = hub.bridges.find? other) ∧
    (event.handled windowOpens hub).hub.client = hub.client ∧
    (∀ effect ∈ (event.handled windowOpens hub).effects, event.Permits hub effect) ∧
    (hub.hears number = false → event.handled windowOpens hub = { hub }) := by
  cases event with
  | message own command =>
      cases comes
      obtain ⟨registry, pagesOnly⟩ := Hub.message_registry windowOpens filed command
      refine ⟨?_, ?_, Hub.message_permits windowOpens filed command, ?_⟩
      · intro other _
        rw [HubEvent.handled, pagesOnly]
      · rw [HubEvent.handled, pagesOnly]
      · exact Hub.message_of_unheard windowOpens command
  | disconnect own =>
      cases comes
      have bridges (other : Nat) (apart : other ≠ number) :=
        Hub.disconnect_bridges filed apart
      have forgotten := Hub.disconnect_forgets number filed
      simp only [HubEvent.handled]
      generalize Hub.disconnect number hub = handled at forgotten bridges ⊢
      refine ⟨bridges, ?_, ?_, ?_⟩
      · cases forgotten <;> rfl
      · intro effect member
        cases forgotten <;> cases member
      · intro unheard
        cases forgotten with
        | nobody => rfl
        | bridge known =>
            rw [Hub.hears_iff.2 (Or.inl known)] at unheard
            cases unheard
        | page key attached =>
            rw [Hub.heard_of_attached attached] at unheard
            cases unheard
  | _ => cases comes

theorem HubLoop.Owned.confined (owned : loop.Owned) (filed : loop.Filed)
    (next : loop.next? = some event) (comes : event.surface? = some number) :
    loop.Confined windowOpens event number := by
  have taken := HubLoop.take_of_surface windowOpens next comes
  have changes (key : String) :=
    Hub.event_changes windowOpens key filed.hub owned.exclusive event
  obtain ⟨bridges, client, permits, unheard⟩ :=
    HubEvent.handled_surface windowOpens filed.hub comes
  have hub : (loop.take windowOpens).1.hub = (event.handled windowOpens loop.hub).hub := by
    rw [taken]
    rfl
  refine ⟨?_, ?_, ?_, ?_, ?_, ?_, ?_, ?_, ?_⟩
  · rw [hub]
    exact changes
  · intro key context foreign held
    rw [hub]
    exact (changes key).kept windowOpens comes foreign held
  · intro key foreign unasked
    rw [hub]
    exact (changes key).others windowOpens comes foreign unasked
  · intro key later link found linked
    rw [hub] at found
    have change := changes key
    rw [found] at change
    exact change.links windowOpens comes linked
  · rw [hub]
    exact bridges
  · rw [hub]
    exact client
  · rw [taken]
    rfl
  · intro effect member
    rw [taken] at member
    obtain ⟨act, among, rfl⟩ := List.mem_map.1 member
    exact ⟨act, rfl, permits act among⟩
  · intro forgotten
    rw [taken, unheard forgotten]
    rfl

end Confined

/-! ## Over a run -/

/-- Surfaces are isolated from each other.  Nobody is the surface of two pages, or of a page and a
bridge.  Whoever is forgotten, in whatever way, is never heard again. -/
structure Isolated (board : Switchboard) : Prop where
  confined : ∀ windowOpens event number, board.loop.next? = some event →
    event.surface? = some number → board.loop.Confined windowOpens event number
  exclusive : board.loop.hub.Exclusive
  forgotten : ∀ number move, board.loop.hub.hears number = true →
    (board.step move).loop.hub.hears number = false → (board.step move).loop.Retired number
  retired : ∀ number, board.loop.Retired number → ∀ moves : List HubMove,
    (moves.foldl Switchboard.step board).loop.Retired number

namespace Switchboard

section Run
variable (options : ClientId → ConnectionOptions)

theorem run_append (moves more : List HubMove) :
    more.foldl step (run options moves) = run options (moves ++ more) :=
  (List.foldl_append ..).symm

theorem run_retired (moves more : List HubMove) {number : Nat}
    (retired : (run options moves).loop.Retired number) :
    (run options (moves ++ more)).loop.Retired number := by
  induction more using List.reverseRecOn with
  | nil =>
      rw [List.append_nil]
      exact retired
  | append_singleton earlier move ih =>
      have sound := run_sound options (moves ++ earlier)
      have owned := run_owned options (moves ++ earlier)
      have step := step_retired sound owned ih move
      rw [← List.append_assoc, ← run_append]
      exact step

/-- In every run of a hub, surfaces are isolated from each other. -/
theorem run_isolated (moves : List HubMove) : Isolated (run options moves) where
  confined := fun windowOpens _ _ next comes =>
    (run_owned options moves).confined windowOpens (run_sound options moves).filed next comes
  exclusive := (run_owned options moves).exclusive
  forgotten := fun _ move heard unheard =>
    step_forgotten (run_owned options moves) move heard unheard
  retired := by
    intro number retired more
    rw [run_append]
    exact run_retired options moves more retired

end Run

end Switchboard

end BookmarkHub
