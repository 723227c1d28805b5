import BookmarkHub.Proofs.Hub.Holders
import BookmarkHub.Proofs.Hub.Landing

/-!
# Surfaces that nobody has

When the hub has taken every event, each surface that it has attached is with
somebody, or its caller was answered and has not looked, or its caller stopped
waiting.  In the last case nobody will ever tell the hub: the page can be shown
and not connected until somebody closes it.
-/

set_option autoImplicit false

namespace BookmarkHub

namespace Hub

section Connecting
variable {hub : Hub} {key : String}

theorem connectPage_of_unlinked {context : PageContext}
    (held : hub.registry.find? key = some context) (unlinked : context.link = none) (link : Link) :
    connectPage key link hub = {
      hub := { hub with registry := hub.registry.put { context with link := some link } }
      effects := context.tab.toList.map fun tab => .post link (.setTab tab) } := by
  simp only [connectPage, Registry.attach, held, unlinked]

theorem connectPage_of_attached {number : Nat} (attached : hub.registry.Attached key number)
    (link : Link) : connectPage key link hub =
      { result := .error (.protocolViolation key (.alreadyAttached number)), hub } := by
  obtain ⟨context, other, held, linked, rfl⟩ := attached
  simp only [connectPage, Registry.attach, held, linked]

theorem openPage_of_attached (windowOpens : Bool) {page : Page} (tab : Option Tab) {number : Nat}
    (attached : hub.registry.Attached page.key number) :
    (openPage windowOpens page tab hub).effects.filterMap HubEffect.window? =
      [.focus page.key] := by
  obtain ⟨context, _, held, _⟩ := attached
  rw [openPage_of_context tab windowOpens held, List.filterMap_append, refocus_windowless]
  rfl

theorem openPage_unlinked {page : Page} (tab : Option Tab)
    (free : ∀ number, ¬ hub.registry.Attached page.key number) (filed : hub.Filed) :
    ∃ context, (openPage true page tab hub).hub.registry.find? page.key = some context ∧
      context.link = none ∧ context.key = page.key := by
  cases held : hub.registry.find? page.key with
  | none =>
      rw [openPage_of_absent tab held]
      exact ⟨_, by rw [Registry.find?_put, if_pos rfl], rfl, rfl⟩
  | some context =>
      have keyed : context.key = page.key := filed.registry.keys _ _ held
      have unlinked : context.link = none := Option.eq_none_iff_forall_ne_some.2
        fun link linked => free link.id ⟨context, link, held, linked, rfl⟩
      rw [openPage_of_context tab true held]
      exact ⟨{ context with tab := tab.or context.tab },
        by rw [Registry.find?_put, if_pos keyed.symm], unlinked, keyed⟩

end Connecting

end Hub

namespace Landing

section Steady
variable {state : Landing}

/-! ## What the hub does -/

section Take
variable (windowOpens : Bool) {event : HubEvent}

def answered (event : HubEvent) (state : Landing) : List Nat :=
  HubLoop.landed windowOpens event { state.loop with mailbox := state.loop.mailbox.tail }

theorem take_settles (next : state.loop.next? = some event) (goesOn : event ≠ .shutdown) :
    state.step (.take windowOpens) = { state with
      loop := { state.loop with
        mailbox := state.loop.mailbox.tail
        hub := (event.handled windowOpens state.loop.hub).hub
        connecting := event.release state.loop.connecting
        surfaces := state.loop.surfaces ++ state.answered windowOpens event }
      unseen := state.unseen ++ state.answered windowOpens event } := by
  simp only [step]
  rw [HubLoop.take_of_next windowOpens next, HubLoop.handle_eq windowOpens _ goesOn]
  rfl

theorem take_ends (owned : state.loop.Owned) (attends : state.loop.Attends)
    (next : state.loop.next? = some .shutdown) :
    state.step (.take windowOpens) = { state with
      loop := { state.loop with
        hub := state.loop.hub.shutdown.hub
        mailbox := []
        isRunning := false
        connecting := [] } } := by
  have stops := HubLoop.take_stops windowOpens owned next
  have idle : state.loop.mailbox.tail.foldl HubEvent.release state.loop.connecting = [] := by
    have nobody := (attends.take windowOpens owned).idle (by rw [stops])
    rwa [stops] at nobody
  have nobody : (state.loop.hub.shutdown.effects.map HubLoopEffect.act ++
      (state.loop.mailbox.tail.filterMap (·.rejection? state.loop.connecting)).map
        HubLoopEffect.answer).filterMap HubLoopEffect.landed? = [] := by
    rw [List.filterMap_append, HubLoop.acts_landed, List.nil_append]
    refine List.filterMap_eq_nil_iff.2 fun effect member => ?_
    obtain ⟨answer, among, rfl⟩ := List.mem_map.1 member
    obtain ⟨other, _, rejected⟩ := List.mem_filterMap.1 among
    exact other.landed?_of_rejection rejected
  simp only [step, stops, nobody, idle, List.append_nil]

theorem answered_numbers (distinct : state.numbers.Nodup) (goesOn : event ≠ .shutdown) :
    ((state.loop.surfaces ++ state.answered windowOpens event) ++
      (event.release state.loop.connecting ++ state.forsaken)).Nodup ∧
    (∀ number ∈ (state.loop.surfaces ++ state.answered windowOpens event) ++
      (event.release state.loop.connecting ++ state.forsaken), number ∈ state.numbers) ∧
    ∀ number ∈ state.numbers, number ∈ (state.loop.surfaces ++ state.answered windowOpens event) ++
        (event.release state.loop.connecting ++ state.forsaken) ∨
      event.connecting? = some number ∧
        (event.handled windowOpens state.loop.hub).hub = state.loop.hub := by
  rcases HubLoop.landed_cases windowOpens event
    { state.loop with mailbox := state.loop.mailbox.tail } goesOn with
    ⟨nobody, refused⟩ | ⟨key, link, rfl, waits, landed⟩
  · rw [answered, nobody, List.append_nil]
    have fewer : (state.loop.surfaces ++
        (event.release state.loop.connecting ++ state.forsaken)).Sublist state.numbers :=
      (List.Sublist.refl _).append
        ((event.release_sublist _).append (List.Sublist.refl _))
    refine ⟨fewer.nodup distinct, fun number member => fewer.subset member, ?_⟩
    intro number known
    rcases List.mem_append.1 known with has | others
    · exact .inl (List.mem_append_left _ has)
    · rcases List.mem_append.1 others with waits | forsaken
      · by_cases stays : number ∈ event.release state.loop.connecting
        · exact .inl (List.mem_append_right _ (List.mem_append_left _ stays))
        · cases event with
          | connectPage key link =>
              have same : number = link.id := by
                by_contra apart
                exact stays ((List.mem_erase_of_ne apart).2 waits)
              subst same
              exact .inr ⟨rfl, refused key link rfl waits⟩
          | _ => exact absurd waits stays
      · exact .inl (List.mem_append_right _ (List.mem_append_right _ forsaken))
  · have moved : ((state.loop.surfaces ++ [link.id]) ++
        (state.loop.connecting.erase link.id ++ state.forsaken)).Perm state.numbers := by
      rw [List.append_assoc]
      exact ((List.perm_cons_erase waits).symm.append_right _).append_left _
    rw [answered, landed, HubEvent.release]
    exact ⟨moved.nodup_iff.2 distinct, fun number => moved.mem_iff.1,
      fun number known => .inl (moved.mem_iff.2 known)⟩

theorem answered_waits (goesOn : event ≠ .shutdown) {number : Nat}
    (member : number ∈ state.answered windowOpens event) : number ∈ state.loop.connecting := by
  rcases HubLoop.landed_cases windowOpens event
    { state.loop with mailbox := state.loop.mailbox.tail } goesOn with
    ⟨nobody, _⟩ | ⟨key, link, rfl, waits, landed⟩
  · rw [answered, nobody] at member
    cases member
  · rw [answered, landed] at member
    cases List.mem_singleton.1 member
    exact waits

section Settled
variable (steady : Steady state) (next : state.loop.next? = some event)
  (goesOn : event ≠ .shutdown)
include steady next goesOn

theorem Steady.settled : Steady { state with
    loop := { state.loop with
      mailbox := state.loop.mailbox.tail
      hub := (event.handled windowOpens state.loop.hub).hub
      connecting := event.release state.loop.connecting
      surfaces := state.loop.surfaces ++ state.answered windowOpens event }
    unseen := state.unseen ++ state.answered windowOpens event } := by
  have settles := congrArg Landing.loop (take_settles windowOpens next goesOn)
  have owned := steady.owned.take windowOpens steady.filed
  have filed := steady.filed.take windowOpens
  have attends := steady.attends.take windowOpens steady.owned
  have unawaited {number : Nat} (connects : event.connecting? = some number) :=
    steady.owned.waits_of_next windowOpens next connects
  simp only [step] at settles
  rw [settles] at owned filed attends
  have running := HubLoop.running_of_next next
  have mailbox := HubLoop.mailbox_of_next next goesOn
  have coming := steady.coming
  rw [mailbox] at coming
  obtain ⟨distinct, old, lost⟩ := answered_numbers windowOpens steady.distinct goesOn
  have before {number : Nat} (unlanded : number ∈ event.release state.loop.connecting ∨
      number ∈ state.unseen ++ state.answered windowOpens event ∨ number ∈ state.forsaken) :
      state.Unlanded number := by
    rcases unlanded with waits | notSeen | forsaken
    · exact .inl ((event.release_sublist _).subset waits)
    · rcases List.mem_append.1 notSeen with was | now
      · exact .inr (.inl was)
      · exact .inl (answered_waits windowOpens goesOn now)
    · exact .inr (.inr forsaken)
  have later {other : HubEvent} (member : other ∈ state.loop.mailbox.tail) :
      other ∈ state.loop.mailbox := List.mem_of_mem_tail member
  refine ⟨owned, filed, attends, distinct,
    fun number member => steady.given number (old number member),
    fun other member => steady.tellers other (later member), ?_, ?_, ?_,
    fun number unlanded other member => steady.silent number (before unlanded) other (later member),
    ?_, ?_, ?_⟩
  · intro number member
    exact List.mem_append.2 ((List.mem_append.1 member).imp_left (steady.unseen number))
  · have apart := List.nodup_append.1 (List.nodup_append.1 distinct).1
    exact List.nodup_append.2 ⟨steady.once, apart.2.1,
      fun number was => apart.2.2 number (steady.unseen number was)⟩
  · intro number unlanded
    rw [← Bool.not_eq_true]
    intro bridge
    rcases Hub.event_bridges windowOpens steady.filed.hub bridge with was | ⟨link, rfl, rfl⟩
    · rw [steady.bridges number (before unlanded)] at was
      cases was
    · exact steady.silent link.id (before unlanded) _ (mailbox ▸ List.mem_cons_self ..) rfl
  · intro number heard
    have stays (known : number ∈ state.numbers) : number ∈ _ :=
      (lost number known).resolve_right fun ⟨connects, same⟩ => by
        -- who is refused was not heard before
        rw [same, steady.owned.unheard number (unawaited connects).1] at heard
        cases heard
    rcases Hub.event_hears windowOpens steady.filed.hub steady.owned.exclusive heard with
      was | connects
    · rcases steady.heard number was with known | leaves
      · exact .inl (stays known)
      · rw [mailbox] at leaves
        rcases List.mem_cons.1 leaves with rfl | waits
        · have unheard := Hub.disconnect_unheard steady.filed.hub steady.owned.exclusive number
          rw [HubEvent.handled, unheard] at heard
          cases heard
        · exact .inr waits
    · exact (coming.1 number connects).imp_left stays
  · refine coming.2.mono fun other member number connects known => ?_
    refine (lost number known).resolve_right fun ⟨alsoConnects, _⟩ => ?_
    refine (unawaited alsoConnects).2 ?_
    rw [settles]
    exact List.mem_filterMap.2 ⟨other, member, connects⟩
  · intro stopped
    exact absurd (stopped.symm.trans running) (by simp)

end Settled

theorem Steady.take (steady : Steady state) : Steady (state.step (.take windowOpens)) := by
  cases next : state.loop.next? with
  | none =>
      simp only [step, HubLoop.take_of_none windowOpens next, List.filterMap_nil, List.append_nil]
      exact steady
  | some event =>
      by_cases stops : event = .shutdown
      · subst stops
        have ends := take_ends windowOpens steady.owned steady.attends next
        have owned := steady.owned.take windowOpens steady.filed
        have filed := steady.filed.take windowOpens
        have attends := steady.attends.take windowOpens steady.owned
        have loop := congrArg Landing.loop ends
        simp only [step] at loop
        rw [loop] at owned filed attends
        rw [ends]
        have fewer : (state.loop.surfaces ++ ([] ++ state.forsaken)).Sublist state.numbers :=
          (List.Sublist.refl _).append (List.sublist_append_right _ _)
        exact ⟨owned, filed, attends, fewer.nodup steady.distinct,
          fun number member => steady.given number (fewer.subset member), nofun, steady.unseen,
          steady.once, fun _ _ => rfl, nofun, (fun _ heard => by cases heard), trivial,
          fun _ _ => rfl⟩
      · rw [take_settles windowOpens next stops]
        exact steady.settled windowOpens next stops

end Take

/-! ## Over a run -/

section Step
variable (steady : Steady state)
include steady

theorem Steady.post {event : HubEvent} (given : event.IsGiven) (nobody : event.connecting? = none)
    (holder : ∀ number, event.teller? = some number → state.holds number = true) :
    Steady { state with loop := (state.loop.post event).1 } := by
  cases running : state.loop.isRunning with
  | true =>
      rw [HubLoop.post, if_pos running]
      exact steady.queue (steady.tells_post running given nobody holder)
  | false =>
      have same : (state.loop.post event).1 = state.loop := by
        rw [HubLoop.post, if_neg (by simp [running]), HubLoop.reject_eq]
        cases event with
        | connectPage | connectBridge => cases nobody
        | _ => rfl
      rw [same]
      exact steady

omit steady in
theorem connectPage_queue (running : state.loop.isRunning = true) (key : String) :
    state.step (.connectPage key) = state.queue
      (.connectPage key ⟨state.loop.links + 1, state.loop.links⟩) (state.loop.links + 1)
      state.loop.surfaces (state.loop.connecting ++ [state.loop.links + 1]) := by
  simp [step, HubLoop.connectPage, HubLoop.newLink, HubLoop.post, running, Landing.queue]

theorem Steady.connectPage (key : String) : Steady (state.step (.connectPage key)) := by
  cases running : state.loop.isRunning with
  | true =>
      rw [connectPage_queue running]
      exact steady.queue (steady.tells_connectPage running key)
  | false =>
      -- nobody waits for a hub that has stopped, and neither does the new caller
      have nobody := steady.attends.idle running
      have same : (state.loop.connectPage key).2.1 =
          { state.loop with links := state.loop.links + 1 } := by
        simp [HubLoop.connectPage, HubLoop.newLink, HubLoop.post, running, HubLoop.reject_eq,
          HubEvent.release, nobody]
      rw [Landing.step, same]
      exact steady.idle (Nat.le_succ _) (List.Sublist.refl _)

theorem Steady.connectBridge : Steady { state with loop := (state.loop.connectBridge).2.2 } := by
  cases running : state.loop.isRunning with
  | true =>
      have same : (state.loop.connectBridge).2.2 = (state.queue
          (.connectBridge ⟨state.loop.links + 1, state.loop.links⟩) (state.loop.links + 1)
          (state.loop.surfaces ++ [state.loop.links + 1]) state.loop.connecting).loop := by
        simp [HubLoop.connectBridge, HubLoop.newLink, HubLoop.send, HubLoop.post, running,
          Landing.queue]
      rw [same]
      exact steady.queue (steady.tells_connectBridge running)
  | false =>
      have same : (state.loop.connectBridge).2.2 =
          { state.loop with links := state.loop.links + 1 } := by
        simp [HubLoop.connectBridge, HubLoop.newLink, HubLoop.send, running]
      rw [same]
      exact steady.idle (Nat.le_succ _) (List.Sublist.refl _)

theorem Steady.sendMessage {link : Nat} (held : state.holds link = true)
    (command : SurfaceCommand) :
    Steady { state with loop := (state.loop.sendMessage link command).2 } := by
  simp only [HubLoop.sendMessage, HubLoop.send]
  split
  · exact steady.post trivial rfl fun number told => by cases told; exact held
  · exact steady

theorem Steady.dropSurface {link : Nat} (held : state.holds link = true) :
    Steady { state with loop := state.loop.dropSurface link } := by
  cases running : state.loop.isRunning with
  | true =>
      rw [HubLoop.dropSurface, HubLoop.post, if_pos running]
      exact steady.queue (steady.tells_drop running held)
  | false =>
      -- a hub that has stopped hears nobody, and need not be told
      have fewer : (state.loop.surfaces.erase link ++ (state.loop.connecting ++
          state.forsaken)).Sublist state.numbers :=
        List.erase_sublist.append (List.Sublist.refl _)
      have empty := steady.attends.stopped running
      have same : state.loop.dropSurface link =
          { state.loop with surfaces := state.loop.surfaces.erase link } := by
        simp [HubLoop.dropSurface, HubLoop.post, running, HubLoop.reject]
      rw [same]
      refine ⟨steady.owned.queues (HubLoop.queues_same rfl rfl (Nat.le_refl _)),
        ⟨steady.filed.hub, steady.filed.mailbox⟩, steady.attends.same rfl rfl rfl,
        fewer.nodup steady.distinct, fun number member => steady.given number (fewer.subset member),
        steady.tellers, steady.dropped held, steady.once, steady.bridges, steady.silent, ?_, ?_,
        steady.ended⟩
      · intro number heard
        exact absurd heard (by simp [steady.ended running number])
      · simp only [empty]
        trivial

theorem Steady.tabFound (page : Page) (tab : Option Tab) :
    Steady { state with loop := state.loop.tabFound page tab } := by
  unfold HubLoop.tabFound
  split
  · exact steady.post trivial rfl nofun
  · exact steady

theorem Steady.step (move : LandingMove) : Steady (state.step move) := by
  cases move with
  | take windowOpens => exact steady.take windowOpens
  | ask request => cases request <;> exact steady.post trivial rfl nofun
  | connectPage key => exact steady.connectPage key
  | connectBridge => exact steady.connectBridge
  | receive link => exact steady.idle (Nat.le_refl _) List.erase_sublist
  | giveUp link => exact steady.giveUp link
  | sendMessage link command =>
      rw [Landing.step]
      split
      · rename_i held
        exact steady.sendMessage held command
      · exact steady
  | dropSurface link =>
      rw [Landing.step]
      split
      · rename_i held
        exact steady.dropSurface held
      · exact steady
  | tabFound page tab => exact steady.tabFound page tab
  | holdHandle | dropHandle => exact steady.idle (Nat.le_refl _) (List.Sublist.refl _)

end Step

end Steady

theorem run_steady (moves : List LandingMove) : Steady (run moves) := by
  induction moves using List.reverseRecOn with
  | nil => exact steady_initial
  | append_singleton earlier move ih =>
      rw [run_snoc]
      exact ih.step move

/-! ## Pages that nobody can use -/

/-- A page shows a surface that nobody has, and nobody has asked to close it. -/
structure Stranded (key : String) (number : Nat) (state : Landing) : Prop where
  forsaken : number ∈ state.forsaken
  unclosed : ∀ caller, .closePage caller key ∉ state.loop.mailbox
  attached : state.loop.isRunning = true → state.loop.hub.registry.Attached key number

section Stranded
variable {key : String} {number : Nat} {state : Landing}

theorem Stranded.same (stranded : Stranded key number state) {after : Landing}
    (hub : after.loop.hub = state.loop.hub)
    (running : after.loop.isRunning = state.loop.isRunning)
    (forsaken : state.forsaken ⊆ after.forsaken)
    (mailbox : ∀ event ∈ after.loop.mailbox, event ∈ state.loop.mailbox ∨
      ∀ caller, event ≠ .closePage caller key) : Stranded key number after where
  forsaken := forsaken stranded.forsaken
  unclosed := by
    intro caller closes
    rcases mailbox _ closes with earlier | other
    · exact stranded.unclosed caller earlier
    · exact other caller rfl
  attached := by
    rw [hub, running]
    exact stranded.attached

/-- The hub frees a page when its surface says so, and nobody can say it. -/
theorem Stranded.settled (stranded : Stranded key number state) (steady : Steady state)
    (windowOpens : Bool) {event : HubEvent} (next : state.loop.next? = some event)
    (goesOn : event ≠ .shutdown) : Stranded key number (state.step (.take windowOpens)) := by
  have mailbox := HubLoop.mailbox_of_next next goesOn
  have first : event ∈ state.loop.mailbox := mailbox ▸ List.mem_cons_self ..
  obtain ⟨context, link, held, linked, same⟩ := stranded.attached (HubLoop.running_of_next next)
  have silent {other : Nat} (attached : state.loop.hub.registry.Attached key other) :
      event.teller? ≠ some other := by
    obtain ⟨again, otherLink, alsoHeld, alsoLinked, rfl⟩ := attached
    cases held.symm.trans alsoHeld
    cases linked.symm.trans alsoLinked
    exact steady.silent link.id (.inr (.inr (same ▸ stranded.forsaken))) event first
  have stays : ¬ event.Removes state.loop.hub key := by
    intro removes
    cases removes with
    | clear other attached | leave other attached => exact silent attached rfl
    | close caller => exact stranded.unclosed caller first
    | shutdown => exact goesOn rfl
  obtain ⟨later, found, still⟩ := (Hub.event_changes windowOpens key steady.filed.hub
    steady.owned.exclusive event).link held linked stays
  rw [take_settles windowOpens next goesOn]
  exact ⟨stranded.forsaken,
    fun caller closes => stranded.unclosed caller (List.mem_of_mem_tail closes),
    fun _ => ⟨later, link, found, still, same⟩⟩

theorem Stranded.take (stranded : Stranded key number state) (steady : Steady state)
    (windowOpens : Bool) : Stranded key number (state.step (.take windowOpens)) := by
  cases next : state.loop.next? with
  | none =>
      simp only [Landing.step, HubLoop.take_of_none windowOpens next]
      exact stranded.same rfl rfl (List.Subset.refl _) fun _ => .inl
  | some event =>
      by_cases stops : event = .shutdown
      · subst stops
        rw [take_ends windowOpens steady.owned steady.attends next]
        exact ⟨stranded.forsaken, fun _ => List.not_mem_nil, nofun⟩
      · exact stranded.settled steady windowOpens next stops

theorem Stranded.post (stranded : Stranded key number state) {loop : HubLoop} {event : HubEvent}
    (hub : loop.hub = state.loop.hub) (running : loop.isRunning = state.loop.isRunning)
    (mailbox : loop.mailbox = state.loop.mailbox)
    (other : ∀ caller, event ≠ .closePage caller key) :
    Stranded key number { state with loop := (loop.post event).1 } := by
  refine stranded.same ?_ ((loop.post_isRunning event).trans running) (List.Subset.refl _) ?_
  · rcases HubLoop.post_cases loop event with posted | ⟨same, _, _⟩
    · simp only [posted, hub]
    · exact same.trans hub
  · intro queued member
    rcases HubLoop.post_cases loop event with posted | ⟨_, same, _⟩
    · simp only [posted, mailbox] at member
      rcases List.mem_append.1 member with earlier | last
      · exact .inl earlier
      · cases List.mem_singleton.1 last
        exact .inr other
    · simp only [same, mailbox] at member
      exact .inl member

/-- Only who asks to close a page frees it from a surface that nobody has. -/
theorem Stranded.step (stranded : Stranded key number state) (steady : Steady state)
    {move : LandingMove} (unasked : ∀ caller, move ≠ .ask (.closePage caller key)) :
    Stranded key number (state.step move) := by
  have idle {after : Landing} (hub : after.loop.hub = state.loop.hub)
      (running : after.loop.isRunning = state.loop.isRunning)
      (forsaken : state.forsaken ⊆ after.forsaken)
      (mailbox : after.loop.mailbox = state.loop.mailbox) : Stranded key number after :=
    stranded.same hub running forsaken fun _ member => .inl (mailbox ▸ member)
  cases move with
  | take windowOpens => exact stranded.take steady windowOpens
  | ask request =>
      refine stranded.post rfl rfl rfl fun caller same => unasked caller ?_
      cases request <;> cases same
      rfl
  | connectPage page => exact stranded.post rfl rfl rfl (by simp)
  | connectBridge =>
      refine stranded.same HubLoop.connectBridge_queues.hub state.loop.connectBridge_isRunning
        (List.Subset.refl _) fun event member => ?_
      cases running : state.loop.isRunning with
      | true =>
          simp only [Landing.step, HubLoop.connectBridge, HubLoop.newLink, HubLoop.send,
            HubLoop.post, running, if_true] at member
          refine (List.mem_append.1 member).imp_right fun last => ?_
          cases List.mem_singleton.1 last
          simp
      | false =>
          simp only [Landing.step, HubLoop.connectBridge, HubLoop.newLink, HubLoop.send, running,
            Bool.false_eq_true, if_false] at member
          exact .inl member
  | receive link => exact idle rfl rfl (List.Subset.refl _) rfl
  | giveUp link =>
      rw [Landing.step, Landing.giveUp]
      split
      · exact idle rfl rfl (List.subset_append_left _ _) rfl
      · split
        · exact idle rfl rfl (List.subset_append_left _ _) rfl
        · exact stranded
  | sendMessage link command =>
      rw [Landing.step]
      split
      · simp only [HubLoop.sendMessage, HubLoop.send]
        split
        · exact stranded.post rfl rfl rfl (by simp)
        · exact stranded
      · exact stranded
  | dropSurface link =>
      rw [Landing.step]
      split
      · exact stranded.post rfl rfl rfl (by simp)
      · exact stranded
  | tabFound page tab =>
      rw [Landing.step, HubLoop.tabFound]
      split
      · exact stranded.post rfl rfl rfl (by simp)
      · exact stranded
  | holdHandle | dropHandle => exact idle rfl rfl (List.Subset.refl _) rfl

end Stranded

/-! ## Pages that are free -/

/-- A page is opened, and a caller connects it. -/
def reopening (page : Page) (tab : Option Tab) : List LandingMove :=
  [.ask (.openPage page tab), .take true, .connectPage page.key, .take true]

section Free
variable {state : Landing} (running : state.loop.isRunning = true)
  (taken : state.loop.mailbox = [])
include running taken

theorem next?_queue (event : HubEvent) (links : Nat) (surfaces connecting : List Nat) :
    (state.queue event links surfaces connecting).loop.next? = some event := by
  simp [Landing.queue, HubLoop.next?, running, taken]

theorem opens (page : Page) (tab : Option Tab) :
    (state.step (.ask (.openPage page tab))).step (.take true) = { state with
      loop := { state.loop with hub := (Hub.openPage true page tab state.loop.hub).hub } } := by
  have posted : state.step (.ask (.openPage page tab)) = state.queue (.openPage page tab)
      state.loop.links state.loop.surfaces state.loop.connecting := by
    simp [step, HubLoop.post, running, HubRequest.event, Landing.queue]
  have nobody (loop : HubLoop) : HubLoop.landed true (.openPage page tab) loop = [] :=
    HubLoop.landed_of_other true loop (by simp) (by simp)
  rw [posted, take_settles true (next?_queue running taken (.openPage page tab) _ _ _) (by simp)]
  simp [answered, nobody, Landing.queue, HubEvent.handled, HubEvent.release, taken]

variable (state) in
theorem connects {key : String} {context : PageContext}
    (held : state.loop.hub.registry.find? key = some context) (unlinked : context.link = none)
    (windowOpens : Bool) :
    ((state.step (.connectPage key)).step (.take windowOpens)).unseen =
        state.unseen ++ [state.loop.links + 1] ∧
      ((state.step (.connectPage key)).step (.take windowOpens)).loop.hub.registry =
        state.loop.hub.registry.put
          { context with link := some ⟨state.loop.links + 1, state.loop.links⟩ } := by
  rw [connectPage_queue running, take_settles windowOpens (next?_queue running taken
    (.connectPage key ⟨state.loop.links + 1, state.loop.links⟩) _ _ _) (by simp)]
  simp [answered, HubLoop.landed_connectPage, HubEvent.handled, Landing.queue,
    Hub.connectPage_of_unlinked held unlinked, HubLoop.settleConnect, HubLoop.handled,
    HubLoopEffect.landed?]

/-- A page without a surface is opened and connected. -/
theorem Steady.reopens (steady : Steady state) {page : Page} (tab : Option Tab)
    (free : ∀ number, ¬ state.loop.hub.registry.Attached page.key number) :
    state.loop.links + 1 ∈ ((reopening page tab).foldl Landing.step state).unseen ∧
      ((reopening page tab).foldl Landing.step state).loop.hub.registry.Attached page.key
        (state.loop.links + 1) := by
  obtain ⟨context, held, unlinked, keyed⟩ := Hub.openPage_unlinked tab free steady.filed.hub
  simp only [reopening, List.foldl_cons, List.foldl_nil, opens running taken page tab]
  obtain ⟨unseen, registry⟩ := connects
    { state with
      loop := { state.loop with hub := (Hub.openPage true page tab state.loop.hub).hub } }
    running taken held unlinked true
  constructor
  · rw [unseen]
    exact List.mem_append_right _ (List.mem_singleton_self _)
  · rw [registry]
    exact ⟨{ context with link := some ⟨state.loop.links + 1, state.loop.links⟩ }, _,
      by rw [Registry.find?_put, if_pos keyed.symm], rfl, rfl⟩

end Free

/-! ## Over a run -/

/-- Whom the hub hears when it has taken every event, and how a page becomes useless.  Where a
caller stopped waiting, nobody has the surface and nobody waits for it.  A page with such a
surface keeps it until somebody closes the page, and meanwhile gets no other surface and no other
window. -/
structure Moored (moves : List LandingMove) : Prop where
  heard : (run moves).loop.mailbox = [] → ∀ number, (run moves).loop.hub.hears number = true →
    (run moves).holds number = true ∨ number ∈ (run moves).unseen ∨
      number ∈ (run moves).forsaken
  bridges : (run moves).loop.mailbox = [] → ∀ number,
    (run moves).loop.hub.bridges.contains number = true → (run moves).holds number = true
  forsaken : ∀ number ∈ (run moves).forsaken, (run moves).holds number = false ∧
    number ∉ (run moves).loop.connecting ∧ number ∉ (run moves).unseen
  patient : (∀ link, .giveUp link ∉ moves) → (run moves).forsaken = []
  stranded : (run moves).loop.mailbox = [] → ∀ key, ∀ number ∈ (run moves).forsaken,
    (run moves).loop.hub.registry.Attached key number →
      ∀ more : List LandingMove, (∀ caller, .ask (.closePage caller key) ∉ more) →
        (run (moves ++ more)).loop.isRunning = true →
          (run (moves ++ more)).loop.hub.registry.Attached key number
  refused : ∀ key number, (run moves).loop.hub.registry.Attached key number →
    (∀ link, Hub.connectPage key link (run moves).loop.hub =
      { result := .error (.protocolViolation key (.alreadyAttached number))
        hub := (run moves).loop.hub }) ∧
    ∀ windowOpens page tab, page.key = key →
      (Hub.openPage windowOpens page tab (run moves).loop.hub).effects.filterMap
        HubEffect.window? = [.focus key]
  reopens : (run moves).loop.isRunning = true → (run moves).loop.mailbox = [] →
    ∀ page tab, (∀ number, ¬ (run moves).loop.hub.registry.Attached page.key number) →
      (run moves).loop.links + 1 ∈ (run (moves ++ reopening page tab)).unseen ∧
        (run (moves ++ reopening page tab)).loop.hub.registry.Attached page.key
          ((run moves).loop.links + 1)

section Run
variable {moves : List LandingMove}

theorem run_append (more : List LandingMove) : run (moves ++ more) = more.foldl step (run moves) :=
  List.foldl_append

theorem step_forsaken (state : Landing) {move : LandingMove} (waits : ∀ link, move ≠ .giveUp link) :
    (state.step move).forsaken = state.forsaken := by
  cases move with
  | giveUp link => exact absurd rfl (waits link)
  | sendMessage | dropSurface =>
      rw [step]
      split <;> rfl
  | _ => rfl

theorem run_patient (patient : ∀ link, .giveUp link ∉ moves) : (run moves).forsaken = [] := by
  induction moves using List.reverseRecOn with
  | nil => rfl
  | append_singleton earlier move ih =>
      rw [run_snoc, step_forsaken]
      · exact ih fun link among => patient link (List.mem_append_left _ among)
      · rintro link rfl
        exact patient link (List.mem_append_right _ (List.mem_singleton_self _))

theorem run_stranded {key : String} {number : Nat} (stranded : Stranded key number (run moves))
    (more : List LandingMove) (unasked : ∀ caller, .ask (.closePage caller key) ∉ more) :
    Stranded key number (run (moves ++ more)) := by
  induction more using List.reverseRecOn with
  | nil =>
      rw [List.append_nil]
      exact stranded
  | append_singleton between move ih =>
      rw [← List.append_assoc, run_snoc]
      refine (ih fun caller among => unasked caller (List.mem_append_left _ among)).step
        (run_steady _) fun caller same => unasked caller ?_
      rw [same]
      exact List.mem_append_right _ (List.mem_singleton_self _)

theorem run_heard (taken : (run moves).loop.mailbox = []) {number : Nat}
    (heard : (run moves).loop.hub.hears number = true) :
    (run moves).holds number = true ∨ number ∈ (run moves).unseen ∨
      number ∈ (run moves).forsaken := by
  have steady := run_steady moves
  rcases steady.heard number heard with known | leaves
  · rcases List.mem_append.1 known with has | others
    · by_cases seen : number ∈ (run moves).unseen
      · exact .inr (.inl seen)
      · exact .inl (holds_iff.2 ⟨has, seen⟩)
    · rcases List.mem_append.1 others with waits | forsaken
      · -- nobody waits for a hub that has taken every event
        obtain ⟨key, link, member, _⟩ := steady.attends.waits number waits
        rw [taken] at member
        cases member
      · exact .inr (.inr forsaken)
  · rw [taken] at leaves
    cases leaves

end Run

/-- In every run a surface that the hub hears has a caller, except those whose callers stopped
waiting; these keep their pages from being used. -/
theorem run_moored (moves : List LandingMove) : Moored moves where
  heard := fun taken _ heard => run_heard taken heard
  bridges := by
    intro taken number bridge
    rcases run_heard taken (Hub.hears_iff.2 (.inl bridge)) with held | nobody
    · exact held
    · rw [(run_steady moves).bridges number (.inr nobody)] at bridge
      cases bridge
  forsaken := by
    intro number forsaken
    have steady := run_steady moves
    obtain ⟨_, others, apart⟩ := List.nodup_append.1 steady.distinct
    have homeless : number ∉ (run moves).loop.surfaces := fun has =>
      apart number has number (List.mem_append_right _ forsaken) rfl
    refine ⟨?_, fun waits => ?_, fun unseen => homeless (steady.unseen number unseen)⟩
    · rw [← Bool.not_eq_true]
      exact fun held => homeless (holds_iff.1 held).1
    · exact (List.nodup_append.1 others).2.2 number waits number forsaken rfl
  patient := run_patient
  stranded := by
    intro taken key number forsaken attached more unasked running
    refine (run_stranded ⟨forsaken, ?_, fun _ => attached⟩ more unasked).attached running
    rw [taken]
    exact fun _ => List.not_mem_nil
  refused := by
    rintro key number attached
    refine ⟨Hub.connectPage_of_attached attached, ?_⟩
    rintro windowOpens page tab rfl
    exact Hub.openPage_of_attached windowOpens tab attached
  reopens := by
    intro running taken page tab free
    rw [run_append]
    exact (run_steady moves).reopens running taken tab free

/-- A caller connects a page and stops waiting before the hub takes its event. -/
def lostCaller : List LandingMove :=
  [.ask (.openPage .tags none), .take true, .connectPage "tagsTree", .giveUp 1, .take true]

theorem lostCaller_stranded : ¬ ((run lostCaller).loop.mailbox = [] →
    ∀ number, (run lostCaller).loop.hub.hears number = true →
      (run lostCaller).holds number = true ∨ number ∈ (run lostCaller).loop.connecting ∨
        number ∈ (run lostCaller).unseen) := by
  intro claimed
  have lost := claimed rfl 1 (by decide +kernel)
  revert lost
  decide +kernel

end Landing

end BookmarkHub
