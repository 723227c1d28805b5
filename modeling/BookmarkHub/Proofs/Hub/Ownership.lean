import BookmarkHub.Proofs.Hub.Events

/-!
# Whose surface is whose

Every surface that connects gets a number of its own, and is the surface of one
page or is one bridge.  When it is forgotten, its number stays behind: nothing
that still comes under that number concerns a later surface.
-/

set_option autoImplicit false

namespace BookmarkHub

/-! ## Who is there after an event -/

namespace Hub

section Event
variable (windowOpens : Bool) {hub : Hub} {number : Nat}

variable (hub) in
theorem openPage_registry (page : Page) (tab : Option Tab) :
    ∃ registry, (openPage windowOpens page tab hub).hub = { hub with registry } := by
  cases held : hub.registry.find? page.key with
  | some context =>
      rw [openPage_of_context tab windowOpens held]
      exact ⟨_, rfl⟩
  | none =>
      cases windowOpens with
      | true =>
          rw [openPage_of_absent tab held]
          exact ⟨_, rfl⟩
      | false =>
          rw [openPage_of_refused tab held]
          exact ⟨hub.registry, rfl⟩

theorem message_registry (filed : Filed hub) (command : SurfaceCommand) :
    ∃ registry, (message windowOpens number command hub).hub = { hub with registry } := by
  have received := message_receives windowOpens number filed command
  generalize message windowOpens number command hub = handled at received ⊢
  cases received with
  | drop | ignore => exact ⟨hub.registry, rfl⟩
  | clear key => exact ⟨_, rfl⟩
  | relay id func args => exact ⟨hub.registry, relayCall_hub _ func args⟩
  | opens _ page tab => exact openPage_registry windowOpens hub page tab

theorem event_bridges (filed : Filed hub) {event : HubEvent}
    (bridge : (event.handled windowOpens hub).hub.bridges.contains number = true) :
    hub.bridges.contains number = true ∨
      ∃ link, event = .connectBridge link ∧ link.id = number := by
  cases event with
  | connectBridge link =>
      simp only [HubEvent.handled, connectBridge, Table.contains, Table.find?_insert,
        Nat.compare_eq_eq] at bridge
      split at bridge
      · rename_i same
        exact Or.inr ⟨link, rfl, same.symm⟩
      · exact Or.inl bridge
  | connectPage key link =>
      left
      have unchanged : (connectPage key link hub).hub.bridges = hub.bridges := by
        unfold connectPage
        split <;> rfl
      rw [HubEvent.handled, unchanged] at bridge
      exact bridge
  | message link command =>
      obtain ⟨registry, pagesOnly⟩ := message_registry windowOpens filed command
      rw [HubEvent.handled, pagesOnly] at bridge
      exact Or.inl bridge
  | disconnect link =>
      left
      have forgotten := disconnect_forgets link filed
      rw [HubEvent.handled] at bridge
      generalize disconnect link hub = handled at forgotten bridge
      cases forgotten with
      | nobody | page => exact bridge
      | bridge =>
          simp only [Table.contains, Table.find?_erase] at bridge
          split at bridge
          · cases bridge
          · exact bridge
  | openPage page tab =>
      obtain ⟨registry, pagesOnly⟩ := openPage_registry windowOpens hub page tab
      rw [HubEvent.handled, pagesOnly] at bridge
      exact Or.inl bridge
  | closePage caller key =>
      left
      have unchanged : (closePage key hub).hub.bridges = hub.bridges := by
        unfold closePage
        dsimp only
        split <;> rfl
      rw [HubEvent.handled, unchanged] at bridge
      exact bridge
  | shutdown => cases bridge
  | openForActiveTab | setClient | listPages => exact Or.inl bridge

theorem event_attached (filed : Filed hub) (exclusive : Exclusive hub) {event : HubEvent}
    {key : String}
    (attached : (event.handled windowOpens hub).hub.registry.Attached key number) :
    hub.registry.Attached key number ∨
      ∃ link, event = .connectPage key link ∧ link.id = number := by
  obtain ⟨context, link, held, linked, same⟩ := attached
  have changes := event_changes windowOpens key filed exclusive event
  generalize found : (event.handled windowOpens hub).hub.registry.find? key = result at changes
  rw [found] at held
  cases changes with
  | same => exact Or.inl ⟨context, link, held, linked, same⟩
  | opened =>
      cases held
      cases linked
  | refocused page tab old asked named before =>
      cases held
      exact Or.inl ⟨old, link, before, linked, same⟩
  | connected new old connects =>
      cases held
      cases linked
      exact Or.inr ⟨link, connects, same⟩
  | removed => cases held

theorem event_hears (filed : Filed hub) (exclusive : Exclusive hub) {event : HubEvent}
    (heard : (event.handled windowOpens hub).hub.hears number = true) :
    hub.hears number = true ∨ event.connecting? = some number := by
  rcases hears_iff.1 heard with bridge | ⟨key, attached⟩
  · rcases event_bridges windowOpens filed bridge with before | ⟨link, rfl, rfl⟩
    · exact Or.inl (hears_iff.2 (Or.inl before))
    · exact Or.inr rfl
  · rcases event_attached windowOpens filed exclusive attached with before | ⟨link, rfl, rfl⟩
    · exact Or.inl (heard_of_attached before)
    · exact Or.inr rfl

/-- As long as new surfaces come with new numbers, nobody is the surface of two. -/
theorem event_exclusive (filed : Filed hub) (exclusive : Exclusive hub) {event : HubEvent}
    (fresh : ∀ number, event.connecting? = some number → hub.hears number = false) :
    Exclusive (event.handled windowOpens hub).hub := by
  have unattached {number : Nat} {key : String} (connects : event.connecting? = some number)
      (attached : hub.registry.Attached key number) : False := by
    have heard := heard_of_attached attached
    rw [fresh number connects] at heard
    cases heard
  constructor
  · intro number key other attached alsoAttached
    rcases event_attached windowOpens filed exclusive attached with before | ⟨link, rfl, rfl⟩
    · rcases event_attached windowOpens filed exclusive alsoAttached with
        alsoBefore | ⟨link, rfl, rfl⟩
      · exact exclusive.once number key other before alsoBefore
      · exact (unattached rfl before).elim
    · rcases event_attached windowOpens filed exclusive alsoAttached with
        alsoBefore | ⟨link, same, _⟩
      · exact (unattached rfl alsoBefore).elim
      · cases same
        rfl
  · intro number key attached
    rw [← Bool.not_eq_true]
    intro bridge
    rcases event_attached windowOpens filed exclusive attached with before | ⟨link, rfl, rfl⟩
    · rcases event_bridges windowOpens filed bridge with alsoBefore | ⟨link, rfl, rfl⟩
      · rw [exclusive.apart number key before] at alsoBefore
        cases alsoBefore
      · exact unattached rfl before
    · rcases event_bridges windowOpens filed bridge with before | ⟨link, same, _⟩
      · have heard := hears_iff.2 (Or.inl before)
        rw [fresh _ rfl] at heard
        cases heard
      · cases same

end Event

end Hub

/-! ## Numbers -/

namespace HubLoop

/-- Every surface has a number of its own, from before it is connected. -/
structure Owned (loop : HubLoop) : Prop where
  exclusive : loop.hub.Exclusive
  unheard : ∀ number ∈ loop.awaited, loop.hub.hears number = false
  distinct : loop.awaited.Nodup
  given : ∀ number ∈ loop.awaited, number ≤ loop.links
  known : ∀ number, loop.hub.hears number = true → number ≤ loop.links

/-- A surface that was connected once, and that nobody knows any more. -/
structure Retired (number : Nat) (loop : HubLoop) : Prop where
  given : number ≤ loop.links
  unheard : loop.hub.hears number = false
  unawaited : number ∉ loop.awaited

section Owned
variable {loop after : HubLoop}

theorem owned_initial : Owned {} := by
  refine ⟨⟨?_, ?_⟩, ?_, ?_, ?_, ?_⟩
  · rintro number key other ⟨context, link, held, _⟩
    cases held
  · rintro number key ⟨context, link, held, _⟩
    cases held
  · simp [awaited]
  · simp [awaited]
  · simp [awaited]
  · intro number heard
    cases heard

theorem Queues.waits (queues : Queues loop after) {number : Nat}
    (member : number ∈ after.awaited) :
    number ∈ loop.awaited ∨ number = loop.links + 1 ∧ number ≤ after.links := by
  rcases queues.awaited with same | ⟨more, counted⟩
  · rw [same] at member
    exact Or.inl member
  · rw [more] at member
    rcases List.mem_append.1 member with before | last
    · exact Or.inl before
    · have newest := List.mem_singleton.1 last
      exact Or.inr ⟨newest, by omega⟩

theorem Owned.queues (owned : Owned loop) (queues : Queues loop after) : Owned after := by
  have links := queues.links
  refine ⟨?_, ?_, ?_, ?_, ?_⟩
  · rw [queues.hub]
    exact owned.exclusive
  · intro number member
    rw [queues.hub]
    rcases queues.waits member with before | ⟨newest, _⟩
    · exact owned.unheard number before
    · rw [← Bool.not_eq_true]
      intro heard
      -- the newest number is above all that were given out
      have known := owned.known number heard
      omega
  · rcases queues.awaited with same | ⟨more, _⟩
    · rw [same]
      exact owned.distinct
    · rw [more]
      refine List.nodup_append.2 ⟨owned.distinct, List.nodup_singleton _, ?_⟩
      intro number before newest last same
      have given := owned.given number before
      have counted := List.mem_singleton.1 last
      omega
  · intro number member
    rcases queues.waits member with before | ⟨_, given⟩
    · exact Nat.le_trans (owned.given number before) links
    · exact given
  · intro number heard
    rw [queues.hub] at heard
    exact Nat.le_trans (owned.known number heard) links

theorem Retired.queues {number : Nat} (retired : Retired number loop)
    (queues : Queues loop after) : Retired number after := by
  have given := retired.given
  refine ⟨Nat.le_trans given queues.links, ?_, ?_⟩
  · rw [queues.hub]
    exact retired.unheard
  · intro member
    rcases queues.waits member with before | ⟨newest, _⟩
    · exact retired.unawaited before
    · omega

section Take
variable (windowOpens : Bool) (owned : Owned loop) (filed : Filed loop)
include owned filed

theorem Owned.heard_of_take {number : Nat}
    (heard : (loop.take windowOpens).1.hub.hears number = true) :
    loop.hub.hears number = true ∨
      ∃ event, loop.next? = some event ∧ event.connecting? = some number := by
  cases next : loop.next? with
  | none =>
      rw [take_of_none windowOpens next] at heard
      exact Or.inl heard
  | some event =>
      rw [(take_does windowOpens next).hub] at heard
      rcases Hub.event_hears windowOpens filed.hub owned.exclusive heard with before | connects
      · exact Or.inl before
      · exact Or.inr ⟨event, rfl, connects⟩

omit filed in
theorem Owned.waits_of_next {event : HubEvent} {number : Nat} (next : loop.next? = some event)
    (connects : event.connecting? = some number) :
    number ∈ loop.awaited ∧ number ∉ (loop.take windowOpens).1.awaited := by
  have waiting := awaited_of_next next
  rw [connects] at waiting
  have distinct := owned.distinct
  rw [waiting] at distinct
  have later := (take_does windowOpens next).mailbox.filterMap HubEvent.connecting?
  refine ⟨?_, fun member => ?_⟩
  · rw [waiting]
    exact List.mem_append_left _ (List.mem_singleton_self number)
  · exact (List.nodup_append.1 distinct).2.2 number (List.mem_singleton_self number) number
      (later.subset member) rfl

theorem Owned.take : Owned (loop.take windowOpens).1 := by
  have later := take_awaited loop windowOpens
  have links := take_links loop windowOpens
  refine ⟨?_, ?_, later.nodup owned.distinct, ?_, ?_⟩
  · cases next : loop.next? with
    | none =>
        rw [take_of_none windowOpens next]
        exact owned.exclusive
    | some event =>
        rw [(take_does windowOpens next).hub]
        -- who is connected waited in the mailbox, so nobody was heard under that number
        refine Hub.event_exclusive windowOpens filed.hub owned.exclusive ?_
        intro number connects
        exact owned.unheard number (owned.waits_of_next windowOpens next connects).1
  · intro number member
    rw [← Bool.not_eq_true]
    intro heard
    rcases owned.heard_of_take windowOpens filed heard with before | ⟨event, next, connects⟩
    · rw [owned.unheard number (later.subset member)] at before
      cases before
    · exact (owned.waits_of_next windowOpens next connects).2 member
  · intro number member
    rw [links]
    exact owned.given number (later.subset member)
  · intro number heard
    rw [links]
    rcases owned.heard_of_take windowOpens filed heard with before | ⟨event, next, connects⟩
    · exact owned.known number before
    · exact owned.given number (owned.waits_of_next windowOpens next connects).1

theorem Owned.retired_take {number : Nat} (retired : Retired number loop) :
    Retired number (loop.take windowOpens).1 := by
  have later := take_awaited loop windowOpens
  refine ⟨?_, ?_, fun member => retired.unawaited (later.subset member)⟩
  · rw [take_links]
    exact retired.given
  · rw [← Bool.not_eq_true]
    intro heard
    rcases owned.heard_of_take windowOpens filed heard with before | ⟨event, next, connects⟩
    · rw [retired.unheard] at before
      cases before
    · exact retired.unawaited (owned.waits_of_next windowOpens next connects).1

omit filed in
theorem Owned.retired_of_heard {number : Nat} (heard : loop.hub.hears number = true)
    (unheard : (loop.take windowOpens).1.hub.hears number = false) :
    Retired number (loop.take windowOpens).1 := by
  have later := take_awaited loop windowOpens
  refine ⟨?_, unheard, fun member => ?_⟩
  · rw [take_links]
    exact owned.known number heard
  · rw [owned.unheard number (later.subset member)] at heard
    cases heard

end Take

end Owned

end HubLoop

/-! ## Over a run -/

namespace Switchboard

section Run
variable {options : ClientId → ConnectionOptions} {board : Switchboard}

theorem step_owned (sound : Sound options board) (owned : board.loop.Owned) (move : HubMove) :
    (board.step move).loop.Owned := by
  rcases board.step_cases move with ⟨windowOpens, _, taken⟩ | ⟨_, queues⟩
  · rw [taken]
    exact owned.take windowOpens sound.filed
  · exact owned.queues queues

theorem run_owned (options : ClientId → ConnectionOptions) (moves : List HubMove) :
    (run options moves).loop.Owned := by
  induction moves using List.reverseRecOn with
  | nil => exact HubLoop.owned_initial
  | append_singleton earlier move ih =>
      rw [run_snoc]
      exact step_owned (run_sound options earlier) ih move

theorem step_retired (sound : Sound options board) (owned : board.loop.Owned) {number : Nat}
    (retired : board.loop.Retired number) (move : HubMove) :
    (board.step move).loop.Retired number := by
  rcases board.step_cases move with ⟨windowOpens, _, taken⟩ | ⟨_, queues⟩
  · rw [taken]
    exact owned.retired_take windowOpens sound.filed retired
  · exact retired.queues queues

theorem step_forgotten (owned : board.loop.Owned) {number : Nat} (move : HubMove)
    (heard : board.loop.hub.hears number = true)
    (unheard : (board.step move).loop.hub.hears number = false) :
    (board.step move).loop.Retired number := by
  rcases board.step_cases move with ⟨windowOpens, _, taken⟩ | ⟨_, queues⟩
  · rw [taken] at unheard ⊢
    exact owned.retired_of_heard windowOpens heard unheard
  · rw [queues.hub, heard] at unheard
    cases unheard

end Run

end Switchboard

end BookmarkHub
