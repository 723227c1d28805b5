import BookmarkHub.Proofs.Hub.Holders

/-!
# A connected surface knows its tab

The tab of a page changes when its page is asked for, and its surface is told
when it connects and at every refocus.  So the tab that was posted last through
the link of a page is the tab of the page.
-/

set_option autoImplicit false

namespace BookmarkHub

@[simp] def HubCommand.tab? : HubCommand → Option Tab
  | .setTab tab => some tab
  | _ => none

@[simp] def HubEffect.tabFor? (link : Link) : HubEffect → Option Tab
  | .post other command => if other = link then command.tab? else none
  | _ => none

def tabsFor (link : Link) (effects : List HubEffect) : List Tab :=
  effects.filterMap (·.tabFor? link)

namespace Hub

/-! ## What an event posts -/

section Posts
variable {link : Link}

variable (link) in
theorem tabsFor_posts (other : Link) (tabs : List Tab) :
    tabsFor link (tabs.map fun tab => .post other (.setTab tab)) =
      if other = link then tabs else [] := by
  split
  · rename_i same
    simp [tabsFor, List.filterMap_map, same]
  · rename_i apart
    simp [tabsFor, List.filterMap_map, apart]

theorem tabsFor_of_unshown {effects : List HubEffect}
    (unshown : ∀ effect ∈ effects, effect.tabFor? link = none) : tabsFor link effects = [] :=
  List.filterMap_eq_nil_iff.2 unshown

theorem refocus_of_link {context : PageContext} (linked : context.link = some link) :
    refocus context =
      context.tab.toList.map (fun tab => .post link (.setTab tab)) ++ [.post link .focus] := by
  simp only [refocus, linked]

theorem refocus_of_unlinked {context : PageContext} (unlinked : context.link = none) :
    refocus context = [] := by
  simp only [refocus, unlinked]

theorem tabsFor_refocus (context : PageContext) :
    tabsFor link (refocus context) =
      if context.link = some link then context.tab.toList else [] := by
  cases linked : context.link with
  | none => simp [refocus_of_unlinked linked, tabsFor]
  | some other =>
      have posted := tabsFor_posts link other context.tab.toList
      rw [refocus_of_link linked, tabsFor, List.filterMap_append, ← tabsFor, posted]
      simp

end Posts

def Refocuses (hub : Hub) (link : Link) (event : HubEvent) (tab : Option Tab)
    (context : PageContext) : Prop :=
  ∃ page, event.request? hub = some (page, tab) ∧
    hub.registry.find? page.key = some context ∧ context.link = some link

def Connects (hub : Hub) (link : Link) (event : HubEvent) (context : PageContext) : Prop :=
  ∃ key, event = .connectPage key link ∧
    hub.registry.find? key = some context ∧ context.link = none

/-- The tabs that an event posts through a link. -/
inductive Shows (hub : Hub) (link : Link) (event : HubEvent) : List Tab → Prop where
  | refocus (tab : Option Tab) (context : PageContext)
      (refocuses : Refocuses hub link event tab context) :
      Shows hub link event (tab.or context.tab).toList
  | connect (context : PageContext) (connects : Connects hub link event context) :
      Shows hub link event context.tab.toList
  | nothing (unasked : ∀ tab context, ¬ Refocuses hub link event tab context)
      (unconnected : ∀ context, ¬ Connects hub link event context) : Shows hub link event []

section Shows
variable (windowOpens : Bool) {hub : Hub} (link : Link) {event : HubEvent}

variable {link} in
theorem shows_of_silent {effects : List HubEffect} (unasked : event.request? hub = none)
    (pageless : ∀ key, event ≠ .connectPage key link)
    (unshown : ∀ effect ∈ effects, effect.tabFor? link = none) :
    Shows hub link event (tabsFor link effects) := by
  rw [tabsFor_of_unshown unshown]
  refine .nothing ?_ ?_
  · rintro tab context ⟨page, asked, _⟩
    rw [unasked] at asked
    cases asked
  · rintro context ⟨key, connects, _⟩
    exact pageless key connects

theorem openPage_shows {page : Page} {tab : Option Tab}
    (asked : event.request? hub = some (page, tab)) :
    Shows hub link event (tabsFor link (openPage windowOpens page tab hub).effects) := by
  have pageless (context : PageContext) : ¬ Connects hub link event context := by
    rintro ⟨key, rfl, _⟩
    cases asked
  cases held : hub.registry.find? page.key with
  | some context =>
      have window : tabsFor link [.window (.focus page.key)] = [] := rfl
      rw [openPage_of_context tab windowOpens held, tabsFor, List.filterMap_append, ← tabsFor,
        ← tabsFor, window, List.append_nil, tabsFor_refocus]
      split
      · rename_i linked
        exact .refocus tab context ⟨page, asked, held, linked⟩
      · rename_i elsewhere
        refine .nothing ?_ pageless
        rintro other found ⟨wanted, alsoAsked, alsoHeld, linked⟩
        rw [asked] at alsoAsked
        cases alsoAsked
        rw [held] at alsoHeld
        cases alsoHeld
        exact elsewhere linked
  | none =>
      have unasked (other : Option Tab) (found : PageContext) :
          ¬ Refocuses hub link event other found := by
        rintro ⟨wanted, alsoAsked, alsoHeld, _⟩
        rw [asked] at alsoAsked
        cases alsoAsked
        rw [held] at alsoHeld
        cases alsoHeld
      cases windowOpens with
      | true =>
          rw [openPage_of_absent tab held]
          exact .nothing unasked pageless
      | false =>
          rw [openPage_of_refused tab held]
          exact .nothing unasked pageless

theorem connectPage_shows (key : String) (connecting : Link) :
    Shows hub link (.connectPage key connecting)
      (tabsFor link (connectPage key connecting hub).effects) := by
  have unasked (tab : Option Tab) (context : PageContext) :
      ¬ Refocuses hub link (.connectPage key connecting) tab context := by
    rintro ⟨page, asked, _⟩
    cases asked
  unfold connectPage Registry.attach
  cases held : hub.registry.find? key with
  | none =>
      refine .nothing unasked ?_
      rintro context ⟨wanted, connects, alsoHeld, _⟩
      cases connects
      rw [held] at alsoHeld
      cases alsoHeld
  | some context =>
      cases linked : context.link with
      | some other =>
          simp only [linked]
          refine .nothing unasked ?_
          rintro found ⟨wanted, connects, alsoHeld, unlinked⟩
          cases connects
          rw [held] at alsoHeld
          cases alsoHeld
          rw [linked] at unlinked
          cases unlinked
      | none =>
          simp only [linked, tabsFor_posts]
          split
          · rename_i same
            subst same
            exact .connect context ⟨key, rfl, held, linked⟩
          · rename_i apart
            refine .nothing unasked ?_
            rintro found ⟨wanted, connects, _⟩
            cases connects
            exact apart rfl

theorem message_shows (filed : Filed hub) (number : Nat) (command : SurfaceCommand) :
    Shows hub link (.message number command)
      (tabsFor link (message windowOpens number command hub).effects) := by
  have received := message_receives windowOpens number filed command
  generalize message windowOpens number command hub = handled at received ⊢
  cases received with
  | drop _ unheard =>
      exact shows_of_silent (by simp [HubEvent.request?, unheard]) (by simp) (by simp)
  | ignore | clear =>
      exact shows_of_silent (by simp [HubEvent.request?, Page.ofCommand?]) (by simp) (by simp)
  | opens _ page tab heard asked =>
      refine openPage_shows windowOpens link ?_
      simp only [HubEvent.request?, heard, if_true, asked]
  | relay id func args heard =>
      refine shows_of_silent (by simp [HubEvent.request?, Page.ofCommand?]) (by simp) ?_
      rcases relayCall_cases hub ⟨Link.numbered number, id⟩ func args with
        ⟨_, done⟩ | ⟨_, _, _, _, done⟩ | ⟨_, _, _, _, done⟩ <;>
      · rw [done]
        intro effect member
        rw [List.mem_singleton.1 member]
        simp [Relay.refuse]

/-- Tabs are posted through a link only when its page is asked for or its surface connects. -/
theorem event_shows (filed : Filed hub) (event : HubEvent) :
    Shows hub link event (tabsFor link (event.handled windowOpens hub).effects) := by
  cases event with
  | connectPage key connecting => exact connectPage_shows link key connecting
  | message number command => exact message_shows windowOpens link filed number command
  | openPage page tab => exact openPage_shows windowOpens link rfl
  | disconnect number =>
      have forgotten := disconnect_forgets number filed
      simp only [HubEvent.handled]
      generalize disconnect number hub = handled at forgotten ⊢
      cases forgotten <;> exact shows_of_silent rfl (by simp) (by simp)
  | closePage caller key =>
      refine shows_of_silent rfl (by simp) ?_
      simp only [HubEvent.handled, closePage]
      split
      · simp
      · intro effect member
        obtain ⟨other, _, rfl⟩ := List.mem_map.1 member
        simp
  | setClient client =>
      refine shows_of_silent rfl (by simp) fun effect member => ?_
      obtain ⟨old, _, rfl⟩ := List.mem_map.1 member
      rfl
  | shutdown =>
      refine shows_of_silent rfl (by simp) fun effect member => ?_
      rcases List.mem_append.1 member with closed | client
      · obtain ⟨other, _, rfl⟩ := List.mem_map.1 closed
        simp
      · obtain ⟨old, _, rfl⟩ := List.mem_map.1 client
        rfl
  | connectBridge | openForActiveTab | listPages =>
      refine shows_of_silent rfl (by simp) fun effect member => ?_
      cases member

end Shows

end Hub

/-! ## What has been posted through a link -/

namespace Switchboard

/-- The tabs that were posted through a link, oldest first. -/
def shown (link : Link) (board : Switchboard) : List Tab :=
  board.posted.filterMap fun posted =>
    if posted.link = link then posted.command.tab? else none

def postOf? (cause : Option Nat) : HubEffect → Option Posted
  | .post link command => some ⟨cause, link, command⟩
  | _ => none

section Posted
variable (board : Switchboard) (cause : Option Nat)

theorem apply_posted (effect : HubLoopEffect) :
    (board.apply cause effect).posted =
      board.posted ++ (effect.act?.bind (postOf? cause)).toList := by
  rcases effect with effect | page | answer
  · cases effect <;> simp [apply, hand, tellClient, HubLoopEffect.act?, postOf?]
  · simp [apply, HubLoopEffect.act?]
  · simp [apply, HubLoopEffect.act?]

theorem perform_posted (handled : HubLoop.Handled) :
    (board.perform cause handled).posted =
      board.posted ++ (handled.2.filterMap HubLoopEffect.act?).filterMap (postOf? cause) := by
  obtain ⟨loop, effects⟩ := handled
  have folded (former : Switchboard) : (effects.foldl (apply cause) former).posted =
      former.posted ++ (effects.filterMap HubLoopEffect.act?).filterMap (postOf? cause) := by
    induction effects generalizing former with
    | nil => simp
    | cons effect rest ih =>
        rw [List.foldl_cons, ih, apply_posted, List.append_assoc]
        cases acted : effect.act? with
        | none => simp [acted]
        | some act => cases posted : postOf? cause act <;> simp [acted, posted]
  exact folded { board with loop }

theorem take_posted (windowOpens : Bool) {event : HubEvent}
    (next : board.loop.next? = some event) :
    (board.step (.take windowOpens)).posted = board.posted ++
      (event.handled windowOpens board.loop.hub).effects.filterMap
        (postOf? (board.loop.call?.map fun _ => board.calls.length)) := by
  rw [step, perform_posted, (HubLoop.take_does windowOpens next).acts]

theorem take_shown (windowOpens : Bool) (link : Link) {event : HubEvent}
    (next : board.loop.next? = some event) :
    (board.step (.take windowOpens)).shown link = board.shown link ++
      tabsFor link (event.handled windowOpens board.loop.hub).effects := by
  rw [shown, board.take_posted windowOpens next, List.filterMap_append, List.filterMap_filterMap]
  refine congrArg (board.shown link ++ ·) (List.filterMap_congr fun effect _ => ?_)
  cases effect <;> rfl

theorem call?_of_request {loop : HubLoop} {request : Page × Option Tab}
    (asked : loop.request? = some request) : loop.call? = none := by
  unfold HubLoop.request? HubLoop.next? at asked
  unfold HubLoop.call?
  split
  · rename_i running mailbox
    simp only [running, mailbox, Option.bind_some, HubEvent.request?, Page.ofCommand?,
      ite_self] at asked
    cases asked
  · rfl

theorem take_idle (windowOpens : Bool) (nothing : board.loop.next? = none) :
    board.step (.take windowOpens) = board := by
  have uncalled : board.loop.call? = none := by
    unfold HubLoop.next? at nothing
    unfold HubLoop.call?
    split
    · rename_i running mailbox
      rw [running, mailbox] at nothing
      cases nothing
    · rfl
  simp [step, uncalled, HubLoop.take_of_none windowOpens nothing, perform]

theorem take_request_posted (windowOpens : Bool) {page : Page} {tab : Option Tab}
    {context : PageContext} (asked : board.loop.request? = some (page, tab))
    (held : board.loop.hub.registry.find? page.key = some context) :
    (board.step (.take windowOpens)).posted = board.posted ++
      (Hub.refocus { context with tab := tab.or context.tab }).filterMap (postOf? none) := by
  obtain ⟨event, next, requested⟩ := Option.bind_eq_some_iff.1 asked
  rw [board.take_posted windowOpens next, call?_of_request asked,
    HubEvent.handled_of_request windowOpens requested,
    Hub.openPage_of_context tab windowOpens held, List.filterMap_append]
  simp [postOf?]

theorem post_acts (loop : HubLoop) (event : HubEvent) :
    (loop.post event).2.filterMap HubLoopEffect.act? = [] := by
  unfold HubLoop.post
  split
  · rfl
  · exact (HubLoop.reject_does loop event).acts

theorem step_shown (link : Link) (move : HubMove)
    (untaken : ∀ windowOpens, move ≠ .take windowOpens) :
    (board.step move).shown link = board.shown link := by
  have unposted {after : Switchboard} (same : after.posted = board.posted) :
      after.shown link = board.shown link := by
    rw [shown, same]
    rfl
  cases move with
  | take windowOpens => exact absurd rfl (untaken windowOpens)
  | ask request =>
      refine unposted ?_
      rw [step, perform_posted, post_acts]
      simp
  | connectPage key =>
      refine unposted ?_
      rw [step, perform_posted, HubLoop.connectPage, post_acts]
      simp
  | wake task =>
      rcases board.wake_cases task with same | ⟨_, outcome, _, _, _, _, _, woken⟩
      · exact unposted (by rw [step, same])
      · rw [step, woken, shown, shown, finish, List.filterMap_append]
        -- an answer carries no tab
        cases outcome <;> simp [Relay.answer, Relay.refuse]
  | _ => exact unposted rfl

end Posted

/-! ## Over a run -/

/-- The tab that was posted last through the link of a page is the tab of the page, and
nothing was posted through the links of surfaces that are still to be connected. -/
structure Current (board : Switchboard) : Prop where
  pages : ∀ key context link, board.loop.hub.registry.find? key = some context →
    context.link = some link → (board.shown link).getLast? = context.tab
  awaited : ∀ number ∈ board.loop.awaited, board.shown (Link.numbered number) = []
  unused : ∀ number, board.loop.links < number → board.shown (Link.numbered number) = []

section Current
variable {options : ClientId → ConnectionOptions} {board : Switchboard}

theorem current_start : Current (start options) where
  pages := fun _ _ _ held => by cases held
  awaited := fun _ member => by cases member
  unused := fun _ _ => rfl

theorem getLast?_append_toList (tabs : List Tab) (tab : Option Tab) :
    (tabs ++ tab.toList).getLast? = tab.or tabs.getLast? := by
  cases tab <;> simp

section Take
variable (windowOpens : Bool) {event : HubEvent} (next : board.loop.next? = some event)
include next

theorem awaited_of_connects {link : Link} {context : PageContext}
    (connects : board.loop.hub.Connects link event context) : link.id ∈ board.loop.awaited := by
  obtain ⟨key, rfl, _⟩ := connects
  rw [HubLoop.awaited_of_next next]
  exact List.mem_append_left _ (List.mem_singleton_self _)

theorem given_of_connects (sound : Sound options board) {link : Link} {context : PageContext}
    (connects : board.loop.hub.Connects link event context) : link = Link.numbered link.id := by
  obtain ⟨key, rfl, _⟩ := connects
  refine sound.filed.mailbox (.connectPage key link) ?_
  unfold HubLoop.next? at next
  split at next
  · rename_i mailbox
    cases next
    rw [mailbox]
    exact List.mem_cons_self
  · split at next <;> cases next
  · cases next

variable (owned : board.loop.Owned)
include owned

theorem unconnected_of_attached {key : String} {link : Link}
    (attached : board.loop.hub.registry.Attached key link.id) (context : PageContext) :
    ¬ board.loop.hub.Connects link event context := by
  intro connects
  have unheard := owned.unheard link.id (awaited_of_connects next connects)
  rw [Hub.heard_of_attached attached] at unheard
  cases unheard

variable (sound : Sound options board)
include sound

/-- Whatever tab a page has after an event, its surface has been told. -/
theorem Current.take_pages (current : Current board) {key : String} {later : PageContext}
    {link : Link} (held : (board.step (.take windowOpens)).loop.hub.registry.find? key = some later)
    (linked : later.link = some link) :
    ((board.step (.take windowOpens)).shown link).getLast? = later.tab := by
  have shows := Hub.event_shows windowOpens link sound.filed.hub event
  have changes := Hub.event_changes windowOpens key sound.filed.hub owned.exclusive event
  rw [take_loop, (HubLoop.take_does windowOpens next).hub] at held
  rw [board.take_shown windowOpens link next]
  rw [held] at changes
  generalize tabsFor link (event.handled windowOpens board.loop.hub).effects = tabs at shows
  generalize result : some later = after at changes
  cases changes with
  | same unopened =>
      have attached : board.loop.hub.registry.Attached key link.id :=
        ⟨later, link, result.symm, linked, rfl⟩
      cases shows with
      | nothing =>
          rw [List.append_nil]
          exact current.pages key later link result.symm linked
      | refocus tab context refocuses =>
          -- the page that is asked for would be this one
          obtain ⟨page, asked, before, opened⟩ := refocuses
          have named : page.key = key := owned.exclusive.once link.id page.key key
            ⟨context, link, before, opened, rfl⟩ attached
          rw [(unopened page tab asked named).2] at result
          cases result
      | connect context connects =>
          exact (unconnected_of_attached next owned attached context connects).elim
  | opened =>
      cases result
      cases linked
  | refocused page tab old asked named before =>
      cases result
      have attached : board.loop.hub.registry.Attached key link.id :=
        ⟨old, link, before, linked, rfl⟩
      have known := current.pages key old link before linked
      have refocuses : board.loop.hub.Refocuses link event tab old :=
        ⟨page, asked, by rw [named, before], linked⟩
      cases shows with
      | nothing unasked => exact (unasked tab old refocuses).elim
      | refocus other context also =>
          obtain ⟨wanted, alsoAsked, alsoHeld, _⟩ := also
          rw [asked] at alsoAsked
          cases alsoAsked
          rw [named, before] at alsoHeld
          cases alsoHeld
          rw [getLast?_append_toList, known, Option.or_assoc, Option.or_self]
      | connect context connects =>
          exact (unconnected_of_attached next owned attached context connects).elim
  | connected other old connecting before unlinked =>
      cases result
      cases linked
      have connects : board.loop.hub.Connects link event old :=
        ⟨key, connecting, before, unlinked⟩
      have silent : board.shown link = [] := by
        rw [given_of_connects next sound connects]
        exact current.awaited link.id (awaited_of_connects next connects)
      cases shows with
      | nothing _ unconnected => exact (unconnected old connects).elim
      | refocus tab context refocuses =>
          obtain ⟨page, asked, _⟩ := refocuses
          rw [connecting] at asked
          cases asked
      | connect context also =>
          obtain ⟨wanted, alsoConnecting, alsoBefore, _⟩ := also
          rw [connecting] at alsoConnecting
          cases alsoConnecting
          rw [before] at alsoBefore
          cases alsoBefore
          rw [silent, List.nil_append]
          cases old.tab <;> rfl
  | removed => cases result

omit owned in
theorem take_silent {number : Nat} (silent : board.shown (Link.numbered number) = [])
    (unheard : board.loop.hub.hears number = false)
    (waits : event.connecting? ≠ some number) :
    (board.step (.take windowOpens)).shown (Link.numbered number) = [] := by
  have shows := Hub.event_shows windowOpens (Link.numbered number) sound.filed.hub event
  rw [board.take_shown windowOpens _ next, silent, List.nil_append]
  generalize tabsFor (Link.numbered number) _ = tabs at shows
  cases shows with
  | nothing => rfl
  | refocus tab context refocuses =>
      obtain ⟨page, asked, held, linked⟩ := refocuses
      have attached : board.loop.hub.registry.Attached page.key number :=
        ⟨context, _, held, linked, rfl⟩
      rw [Hub.heard_of_attached attached] at unheard
      cases unheard
  | connect context connects =>
      obtain ⟨key, rfl, _⟩ := connects
      exact absurd rfl waits

end Take

theorem Current.take (sound : Sound options board) (owned : board.loop.Owned)
    (current : Current board) (windowOpens : Bool) : Current (board.step (.take windowOpens)) := by
  cases next : board.loop.next? with
  | none =>
      rw [board.take_idle windowOpens next]
      exact current
  | some event =>
      refine ⟨?_, ?_, ?_⟩
      · intro key later link held linked
        exact current.take_pages windowOpens next owned sound held linked
      · intro number member
        rw [take_loop] at member
        have before := (HubLoop.take_awaited board.loop windowOpens).subset member
        refine take_silent windowOpens next sound (current.awaited number before)
          (owned.unheard number before) ?_
        intro connects
        exact (owned.waits_of_next windowOpens next connects).2 member
      · intro number above
        rw [take_loop, HubLoop.take_links] at above
        refine take_silent windowOpens next sound (current.unused number above) ?_ ?_
        · rw [← Bool.not_eq_true]
          intro heard
          have known := owned.known number heard
          omega
        · intro connects
          have given := owned.given number (owned.waits_of_next windowOpens next connects).1
          omega

theorem Current.step (sound : Sound options board) (owned : board.loop.Owned)
    (current : Current board) (move : HubMove) : Current (board.step move) := by
  rcases board.step_cases move with ⟨windowOpens, rfl, _⟩ | ⟨untaken, queues⟩
  · exact current.take sound owned windowOpens
  · have shown (link : Link) := board.step_shown link move untaken
    refine ⟨?_, ?_, ?_⟩
    · intro key context link held linked
      rw [queues.hub] at held
      rw [shown]
      exact current.pages key context link held linked
    · intro number member
      rw [shown]
      rcases queues.waits member with before | ⟨newest, _⟩
      · exact current.awaited number before
      · exact current.unused number (by omega)
    · intro number above
      have links := queues.links
      rw [shown]
      exact current.unused number (by omega)

/-- A connected surface knows the tab of its page.  A page that is asked for without a tab keeps
its own; its surface is told the tab, if there is one, and then to come to the front. -/
structure Told (options : ClientId → ConnectionOptions) (moves : List HubMove) : Prop where
  last : ∀ key context link, (run options moves).loop.hub.registry.find? key = some context →
    context.link = some link → ((run options moves).shown link).getLast? = context.tab
  never : ∀ key context link, (run options moves).loop.hub.registry.find? key = some context →
    context.link = some link → ((run options moves).shown link = [] ↔ context.tab = none)
  stored : ∀ page tab context, (run options moves).loop.request? = some (page, tab) →
    (run options moves).loop.hub.registry.find? page.key = some context → ∀ windowOpens,
      (run options (moves ++ [.take windowOpens])).loop.hub.registry.find? page.key =
        some { context with tab := tab.or context.tab }
  refocused : ∀ page tab context link, (run options moves).loop.request? = some (page, tab) →
    (run options moves).loop.hub.registry.find? page.key = some context →
    context.link = some link → ∀ windowOpens,
      (run options (moves ++ [.take windowOpens])).posted = (run options moves).posted ++
        ((tab.or context.tab).toList.map HubCommand.setTab ++ [HubCommand.focus]).map
          (⟨none, link, ·⟩)
  unattached : ∀ page tab context, (run options moves).loop.request? = some (page, tab) →
    (run options moves).loop.hub.registry.find? page.key = some context →
    context.link = none → ∀ windowOpens,
      (run options (moves ++ [.take windowOpens])).posted = (run options moves).posted

section Run
variable (options : ClientId → ConnectionOptions) (moves : List HubMove)

theorem run_current : Current (run options moves) := by
  induction moves using List.reverseRecOn with
  | nil => exact current_start
  | append_singleton earlier move ih =>
      rw [run_snoc]
      exact ih.step (run_sound options earlier) (run_owned options earlier) move

/-- In every run of a hub a connected surface knows the tab of its page. -/
theorem run_told : Told options moves where
  last := (run_current options moves).pages
  never := by
    intro key context link held linked
    rw [← (run_current options moves).pages key context link held linked,
      List.getLast?_eq_none_iff]
  stored := by
    intro page tab context asked held windowOpens
    rw [run_snoc, take_loop, (HubLoop.take_of_request windowOpens asked).1,
      Hub.openPage_of_context tab windowOpens held, Registry.find?_put, if_pos]
    exact ((run_sound options moves).filed.hub.registry.keys page.key context held).symm
  refocused := by
    intro page tab context link asked held linked windowOpens
    have shows : Hub.refocus { context with tab := tab.or context.tab } = _ :=
      Hub.refocus_of_link linked
    rw [run_snoc, take_request_posted _ windowOpens asked held, shows]
    cases tab.or context.tab <;> rfl
  unattached := by
    intro page tab context asked held unlinked windowOpens
    have silent : Hub.refocus { context with tab := tab.or context.tab } = [] :=
      Hub.refocus_of_unlinked unlinked
    rw [run_snoc, take_request_posted _ windowOpens asked held, silent]
    exact List.append_nil _

end Run

end Current

end Switchboard

end BookmarkHub
