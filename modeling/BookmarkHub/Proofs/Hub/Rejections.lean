import BookmarkHub.Proofs.Hub.Ownership

/-!
# Callers that wait for the hub

Whoever waits for a surface to be connected has an event in the mailbox, and is
answered when that event is taken.  When the hub stops, every event that is left
is rejected, so nobody waits for a hub that has stopped.
-/

set_option autoImplicit false

namespace BookmarkHub

namespace HubEvent

/-- The answer to an event that the hub does not take any more.  Of a connection that was
given up nothing is told. -/
def rejection? (connecting : List Nat) : HubEvent → Option HubAnswer
  | .connectPage _ link =>
      if connecting.contains link.id then some (.connected link.id (.error .shutdown)) else none
  | .closePage caller _ => some (.closed caller (.error .shutdown))
  | .listPages caller => some (.pages caller (.error .shutdown))
  | _ => none

def release (connecting : List Nat) : HubEvent → List Nat
  | .connectPage _ link => connecting.erase link.id
  | _ => connecting

theorem rejection?_erase {event : HubEvent} (connecting : List Nat) {number : Nat}
    (other : event.connecting? ≠ some number) :
    event.rejection? (connecting.erase number) = event.rejection? connecting := by
  cases event with
  | connectPage key link =>
      have apart : link.id ≠ number := fun same => other (congrArg some same)
      simp only [rejection?, List.contains_eq_mem, List.mem_erase_of_ne apart]
  | _ => rfl

theorem rejection?_release {first event : HubEvent} (connecting : List Nat)
    (apart : ∀ number, first.connecting? = some number → event.connecting? ≠ some number) :
    event.rejection? (first.release connecting) = event.rejection? connecting := by
  cases first with
  | connectPage key link => exact rejection?_erase connecting (apart link.id rfl)
  | _ => rfl

theorem release_sublist (event : HubEvent) (connecting : List Nat) :
    (event.release connecting).Sublist connecting := by
  cases event with
  | connectPage key link => exact List.erase_sublist
  | _ => exact List.Sublist.refl _

theorem releaseAll_nodup (events : List HubEvent) {connecting : List Nat}
    (distinct : connecting.Nodup) : (events.foldl release connecting).Nodup := by
  induction events generalizing connecting with
  | nil => exact distinct
  | cons event rest ih => exact ih ((event.release_sublist _).nodup distinct)

theorem mem_releaseAll {events : List HubEvent} {connecting : List Nat}
    (distinct : connecting.Nodup) {number : Nat}
    (member : number ∈ events.foldl release connecting) :
    number ∈ connecting ∧ ∀ key link, .connectPage key link ∈ events → link.id ≠ number := by
  induction events generalizing connecting with
  | nil => exact ⟨member, by simp⟩
  | cons event rest ih =>
      obtain ⟨before, others⟩ := ih ((event.release_sublist _).nodup distinct) member
      refine ⟨(event.release_sublist _).subset before, fun key link among => ?_⟩
      rcases List.mem_cons.1 among with rfl | later
      · rintro rfl
        exact distinct.not_mem_erase before
      · exact others key link later

end HubEvent

def HubLoopEffect.answer? : HubLoopEffect → Option HubAnswer
  | .answer given => some given
  | _ => none

namespace HubLoop

/-! ## Rejecting events -/

section Reject
variable (loop : HubLoop)

theorem settleConnect_connecting (link : Nat) (result : Except HubError Unit) :
    (loop.settleConnect link result).1.connecting = loop.connecting.erase link := by
  unfold settleConnect
  split
  · rfl
  · rename_i absent
    rw [List.erase_of_not_mem (by simpa using absent)]

theorem reject_eq (event : HubEvent) : loop.reject event =
    ({ loop with connecting := event.release loop.connecting },
      (event.rejection? loop.connecting).toList.map .answer) := by
  cases event with
  | connectPage key link =>
      by_cases waits : link.id ∈ loop.connecting
      · simp [reject, settleConnect, HubEvent.rejection?, HubEvent.release, waits]
      · simp [reject, settleConnect, HubEvent.rejection?, HubEvent.release, waits,
          List.erase_of_not_mem waits]
  | _ => rfl

/-- Rejecting answers whoever waits for one of the events, in their order. -/
theorem rejectAll_eq (events : List HubEvent)
    (distinct : (events.filterMap HubEvent.connecting?).Nodup) : rejectAll events loop =
      ({ loop with connecting := events.foldl HubEvent.release loop.connecting },
        (events.filterMap (·.rejection? loop.connecting)).map .answer) := by
  induction events generalizing loop with
  | nil => rfl
  | cons event rest ih =>
      have later : (rest.filterMap HubEvent.connecting?).Nodup :=
        ((List.sublist_cons_self event rest).filterMap _).nodup distinct
      have same : rest.filterMap (·.rejection? (event.release loop.connecting)) =
          rest.filterMap (·.rejection? loop.connecting) := by
        refine List.filterMap_congr fun other member => HubEvent.rejection?_release _ ?_
        intro number connects alsoConnects
        rw [List.filterMap_cons_some connects] at distinct
        exact (List.nodup_cons.1 distinct).1 (List.mem_filterMap.2 ⟨other, member, alsoConnects⟩)
      rw [rejectAll, reject_eq]
      simp only [ih _ later, same, List.foldl_cons]
      cases rejected : event.rejection? loop.connecting <;> simp [rejected]

end Reject

theorem rejectAll_isRunning (loop : HubLoop) (events : List HubEvent) :
    (rejectAll events loop).1.isRunning = loop.isRunning := by
  induction events generalizing loop with
  | nil => rfl
  | cons event rest ih =>
      rw [rejectAll, reject_eq]
      exact ih _

/-! ## Callers stop no hub -/

section Callers
variable (loop : HubLoop)

@[simp] theorem post_isRunning (event : HubEvent) :
    (loop.post event).1.isRunning = loop.isRunning := by
  unfold post
  split
  · rfl
  · rw [reject_eq]

@[simp] theorem send_isRunning (event : HubEvent) :
    (loop.send event).2.isRunning = loop.isRunning := by
  unfold send
  split
  · exact loop.post_isRunning event
  · rfl

theorem connectBridge_isRunning : (loop.connectBridge).2.2.isRunning = loop.isRunning := by
  have sent := send_isRunning { loop with links := loop.links + 1 }
    (.connectBridge ⟨loop.links + 1, loop.links⟩)
  simp only [connectBridge, newLink]
  split
  · rename_i answered
    rw [answered] at sent
    exact sent
  · rename_i answered
    rw [answered] at sent
    exact sent

theorem tabFound_isRunning (page : Page) (tab : Option Tab) :
    (loop.tabFound page tab).isRunning = loop.isRunning := by
  unfold tabFound
  split
  · exact loop.post_isRunning _
  · rfl

end Callers

/-! ## Nobody is forgotten -/

/-- Whoever waits has an event in the mailbox of a running hub. -/
structure Attends (loop : HubLoop) : Prop where
  waits : ∀ number ∈ loop.connecting, ∃ key link,
    .connectPage key link ∈ loop.mailbox ∧ link.id = number
  distinct : loop.connecting.Nodup
  stopped : loop.isRunning = false → loop.mailbox = []

section Attends
variable {loop after : HubLoop}

theorem attends_initial : Attends {} := ⟨by simp, List.nodup_nil, fun _ => rfl⟩

theorem Attends.idle (attends : Attends loop) (stopped : loop.isRunning = false) :
    loop.connecting = [] := by
  refine List.eq_nil_iff_forall_not_mem.2 fun number member => ?_
  obtain ⟨key, link, waiting, _⟩ := attends.waits number member
  rw [attends.stopped stopped] at waiting
  cases waiting

theorem Attends.same (attends : Attends loop) (connecting : after.connecting = loop.connecting)
    (mailbox : after.mailbox = loop.mailbox) (running : after.isRunning = loop.isRunning) :
    Attends after :=
  ⟨by rw [connecting, mailbox]; exact attends.waits, by rw [connecting]; exact attends.distinct,
    by rw [running, mailbox]; exact attends.stopped⟩

theorem Attends.awaited (attends : Attends loop) {number : Nat}
    (waits : number ∈ loop.connecting) : number ∈ loop.awaited := by
  obtain ⟨key, link, member, rfl⟩ := attends.waits number waits
  exact List.mem_filterMap.2 ⟨_, member, rfl⟩

theorem Attends.abandonConnect (attends : Attends loop) (link : Nat) :
    Attends (loop.abandonConnect link) :=
  ⟨fun number member => attends.waits number (List.mem_of_mem_erase member),
    attends.distinct.erase link, attends.stopped⟩

theorem Attends.post (attends : Attends loop) (event : HubEvent) :
    Attends (loop.post event).1 := by
  unfold HubLoop.post
  split
  · rename_i running
    refine ⟨fun number member => ?_, attends.distinct, fun stopped => ?_⟩
    · obtain ⟨key, link, waiting, same⟩ := attends.waits number member
      exact ⟨key, link, List.mem_append_left _ waiting, same⟩
    · rw [running] at stopped
      cases stopped
  · rw [reject_eq]
    exact ⟨fun number member => attends.waits number ((event.release_sublist _).subset member),
      (event.release_sublist _).nodup attends.distinct, attends.stopped⟩

theorem Attends.send (attends : Attends loop) (event : HubEvent) :
    Attends (loop.send event).2 := by
  unfold HubLoop.send
  split
  · exact attends.post event
  · exact attends

theorem Attends.connectPage (attends : Attends loop) (owned : Owned loop) (key : String) :
    Attends (loop.connectPage key).2.1 := by
  have fresh : loop.links + 1 ∉ loop.connecting := fun member =>
    absurd (owned.given _ (attends.awaited member)) (by omega)
  cases running : loop.isRunning with
  | true =>
      simp only [HubLoop.connectPage, newLink, HubLoop.post, running, if_true]
      refine ⟨fun number member => ?_, ?_, fun stopped => by cases stopped⟩
      · rcases List.mem_append.1 member with before | newest
        · obtain ⟨other, link, waiting, same⟩ := attends.waits number before
          exact ⟨other, link, List.mem_append_left _ waiting, same⟩
        · cases List.mem_singleton.1 newest
          exact ⟨key, _, List.mem_append_right _ (List.mem_singleton_self _), rfl⟩
      · refine List.nodup_append.2 ⟨attends.distinct, List.nodup_singleton _, ?_⟩
        rintro number before _ newest rfl
        cases List.mem_singleton.1 newest
        exact fresh before
  | false =>
      have nobody := attends.idle running
      simp only [HubLoop.connectPage, newLink, HubLoop.post, running, Bool.false_eq_true,
        if_false, reject_eq, HubEvent.release, nobody, List.nil_append, List.erase_cons_head]
      exact ⟨by simp, List.nodup_nil, fun _ => attends.stopped running⟩

theorem Attends.connectBridge (attends : Attends loop) : Attends (loop.connectBridge).2.2 := by
  have counted : Attends { loop with links := loop.links + 1 } := attends.same rfl rfl rfl
  have sent := counted.send (.connectBridge ⟨loop.links + 1, loop.links⟩)
  simp only [HubLoop.connectBridge, newLink]
  split
  · rename_i answered
    rw [answered] at sent
    exact sent.same rfl rfl rfl
  · rename_i answered
    rw [answered] at sent
    exact sent

theorem Attends.dropSurface (attends : Attends loop) (link : Nat) :
    Attends (loop.dropSurface link) := by
  have dropped : Attends { loop with surfaces := loop.surfaces.erase link } :=
    attends.same rfl rfl rfl
  exact dropped.post (.disconnect link)

theorem Attends.tabFound (attends : Attends loop) (page : Page) (tab : Option Tab) :
    Attends (loop.tabFound page tab) := by
  unfold HubLoop.tabFound
  split
  · exact attends.post _
  · exact attends

/-! ## Taking an event -/

variable (loop) in
theorem handle_settles (windowOpens : Bool) {event : HubEvent} (goesOn : event ≠ .shutdown) :
    (handle windowOpens event loop).1.mailbox = loop.mailbox ∧
      (handle windowOpens event loop).1.isRunning = loop.isRunning ∧
      (handle windowOpens event loop).1.connecting = event.release loop.connecting := by
  cases event with
  | connectPage key link =>
      have settled := settleConnect_connecting
        (loop.handled (Hub.connectPage key link loop.hub)).1 link.id
        (Hub.connectPage key link loop.hub).result
      refine ⟨?_, ?_, settled⟩ <;>
        · simp only [handle, settleConnect]
          split <;> rfl
  | shutdown => exact absurd rfl goesOn
  | _ => exact ⟨rfl, rfl, rfl⟩

theorem running_of_next {event : HubEvent} (next : loop.next? = some event) :
    loop.isRunning = true := by
  unfold next? at next
  split at next
  · assumption
  · assumption
  · cases next

theorem mem_tail_of_next {event other : HubEvent} (next : loop.next? = some event)
    (member : other ∈ loop.mailbox) (apart : other ≠ event) : other ∈ loop.mailbox.tail := by
  unfold next? at next
  split at next
  · rename_i mailbox
    cases next
    rw [mailbox] at member ⊢
    exact (List.mem_cons.1 member).resolve_left apart
  · rename_i empty
    rw [empty] at member
    cases member
  · cases next

theorem take_stops (windowOpens : Bool) (owned : Owned loop) (next : loop.next? = some .shutdown) :
    loop.take windowOpens =
      ({ loop with
          hub := loop.hub.shutdown.hub
          mailbox := []
          isRunning := false
          connecting := loop.mailbox.tail.foldl HubEvent.release loop.connecting },
        loop.hub.shutdown.effects.map .act ++
          (loop.mailbox.tail.filterMap (·.rejection? loop.connecting)).map .answer) := by
  have distinct : (loop.mailbox.tail.filterMap HubEvent.connecting?).Nodup :=
    ((List.tail_sublist loop.mailbox).filterMap _).nodup owned.distinct
  rw [take_of_next windowOpens next, handle, stop, rejectAll_eq _ _ distinct]

variable (windowOpens : Bool)

/-- The hub stops by shutting down, and not otherwise. -/
theorem take_isRunning : (loop.take windowOpens).1.isRunning = false ↔
    loop.isRunning = false ∨ loop.next? = some .shutdown := by
  cases next : loop.next? with
  | none =>
      rw [take_of_none windowOpens next]
      simp
  | some event =>
      have running := running_of_next next
      rw [take_of_next windowOpens next]
      by_cases stops : event = .shutdown
      · subst stops
        simp [handle, stop, rejectAll_isRunning]
      · rw [(handle_settles _ windowOpens stops).2.1]
        simp [running, stops]

theorem Attends.take (attends : Attends loop) (owned : Owned loop) :
    Attends (loop.take windowOpens).1 := by
  cases next : loop.next? with
  | none =>
      rw [take_of_none windowOpens next]
      exact attends
  | some event =>
      have running := running_of_next next
      by_cases stops : event = .shutdown
      · subst stops
        rw [take_stops windowOpens owned next]
        refine ⟨fun number member => ?_, ?_, fun _ => rfl⟩
        · obtain ⟨before, settled⟩ := HubEvent.mem_releaseAll attends.distinct member
          obtain ⟨key, link, waiting, same⟩ := attends.waits number before
          exact (settled key link (mem_tail_of_next next waiting nofun) same).elim
        · exact HubEvent.releaseAll_nodup _ attends.distinct
      · rw [take_of_next windowOpens next]
        obtain ⟨mailbox, runs, connecting⟩ :=
          handle_settles { loop with mailbox := loop.mailbox.tail } windowOpens stops
        refine ⟨fun number member => ?_, ?_, fun stopped => ?_⟩
        · rw [connecting] at member
          rw [mailbox]
          have among : number ∈ [event].foldl HubEvent.release loop.connecting := member
          obtain ⟨before, settled⟩ := HubEvent.mem_releaseAll attends.distinct among
          obtain ⟨key, link, waiting, same⟩ := attends.waits number before
          refine ⟨key, link, mem_tail_of_next next waiting ?_, same⟩
          rintro rfl
          exact settled key link (List.mem_singleton_self _) same
        · rw [connecting]
          exact (event.release_sublist _).nodup attends.distinct
        · rw [runs, running] at stopped
          cases stopped

end Attends

end HubLoop

/-! ## Over a run -/

namespace Switchboard

theorem step_attends {board : Switchboard} (owned : board.loop.Owned)
    (attends : board.loop.Attends) (move : HubMove) : (board.step move).loop.Attends := by
  cases move with
  | take windowOpens =>
      rw [take_loop]
      exact attends.take windowOpens owned
  | ask request =>
      rw [step, perform_loop]
      exact attends.post request.event
  | connectPage key =>
      rw [step, perform_loop]
      exact attends.connectPage owned key
  | abandonConnect link => exact attends.abandonConnect link
  | connectBridge => exact attends.connectBridge
  | sendMessage link command => exact attends.send (.message link command)
  | dropSurface link => exact attends.dropSurface link
  | tabFound page tab => exact attends.tabFound page tab
  | holdHandle | dropHandle | client => exact attends.same rfl rfl rfl
  | wake task =>
      rcases board.wake_cases task with same | ⟨_, _, _, _, _, _, _, woken⟩
      · rw [step, same]
        exact attends
      · rw [step, woken]
        exact attends.same rfl rfl rfl

theorem step_isRunning {board : Switchboard} (move : HubMove)
    (untaken : ∀ windowOpens, move ≠ .take windowOpens) :
    (board.step move).loop.isRunning = board.loop.isRunning := by
  cases move with
  | take windowOpens => exact absurd rfl (untaken windowOpens)
  | ask request =>
      rw [step, perform_loop]
      exact board.loop.post_isRunning request.event
  | connectPage key =>
      rw [step, perform_loop]
      exact HubLoop.post_isRunning _ _
  | connectBridge => exact board.loop.connectBridge_isRunning
  | sendMessage link command => exact board.loop.send_isRunning _
  | dropSurface link => exact HubLoop.post_isRunning _ _
  | tabFound page tab => exact board.loop.tabFound_isRunning page tab
  | abandonConnect | holdHandle | dropHandle | client => rfl
  | wake task =>
      rcases board.wake_cases task with same | ⟨_, _, _, _, _, _, _, woken⟩
      · rw [step, same]
      · rw [step, woken]
        rfl

theorem stopped_step_iff {board : Switchboard} (move : HubMove) :
    (board.step move).loop.isRunning = false ↔ board.loop.isRunning = false ∨
      ∃ windowOpens, move = .take windowOpens ∧ board.loop.next? = some .shutdown := by
  by_cases taken : ∃ windowOpens, move = .take windowOpens
  · obtain ⟨windowOpens, rfl⟩ := taken
    rw [take_loop, HubLoop.take_isRunning]
    simp
  · have untaken := not_exists.1 taken
    rw [step_isRunning move untaken]
    simp [untaken]

theorem run_attends (options : ClientId → ConnectionOptions) (moves : List HubMove) :
    (run options moves).loop.Attends := by
  induction moves using List.reverseRecOn with
  | nil => exact HubLoop.attends_initial
  | append_singleton earlier move ih =>
      rw [run_snoc]
      exact step_attends (run_owned options earlier) ih move

end Switchboard

end BookmarkHub
