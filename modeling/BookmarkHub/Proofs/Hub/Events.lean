import BookmarkHub.Proofs.Hub.Answers
import BookmarkHub.Proofs.Hub.Pages

/-!
# The next event of a running hub

A running hub takes one event after the other, and shuts down when none can come
any more.  What callers do in between only puts events into the mailbox; a
surface that connects there gets a number that no surface had before.
-/

set_option autoImplicit false

namespace BookmarkHub

def HubLoopEffect.act? : HubLoopEffect → Option HubEffect
  | .act effect => some effect
  | _ => none

def HubEvent.connecting? : HubEvent → Option Nat
  | .connectPage _ link | .connectBridge link => some link.id
  | _ => none

namespace HubLoop

/-- What the hub takes next.  When nobody is left who could tell it more, it shuts down. -/
def next? (loop : HubLoop) : Option HubEvent :=
  match loop.isRunning, loop.mailbox with
  | true, event :: _ => some event
  | true, [] => if loop.isHeld then none else some .shutdown
  | false, _ => none

def awaited (loop : HubLoop) : List Nat := loop.mailbox.filterMap HubEvent.connecting?

/-! ## What is done about an event -/

/-- Something is done to a hub while its callers get their answers. -/
structure Does (loop : HubLoop) (done : Hub.Handled) (after : Handled) : Prop where
  hub : after.1.hub = done.hub
  links : after.1.links = loop.links
  mailbox : after.1.mailbox.Sublist loop.mailbox
  acts : after.2.filterMap HubLoopEffect.act? = done.effects

section Does
variable {loop : HubLoop}

theorem does_nothing : Does loop { hub := loop.hub } (loop, []) :=
  ⟨rfl, rfl, List.Sublist.refl _, rfl⟩

variable (loop) in
theorem does_handled (done : Hub.Handled) : Does loop done (loop.handled done) := by
  refine ⟨rfl, rfl, List.Sublist.refl _, ?_⟩
  simp [handled, List.filterMap_map, Function.comp_def, HubLoopEffect.act?]

theorem Does.andAnswer {done : Hub.Handled} {first second : Handled} (does : Does loop done first)
    (answers : Does first.1 { hub := first.1.hub } second) :
    Does loop done (second.1, first.2 ++ second.2) := by
  refine ⟨answers.hub.trans does.hub, answers.links.trans does.links,
    answers.mailbox.trans does.mailbox, ?_⟩
  rw [List.filterMap_append, does.acts, answers.acts, List.append_nil]

theorem does_answer (answer : HubAnswer) :
    Does loop { hub := loop.hub } (loop, [.answer answer]) :=
  ⟨rfl, rfl, List.Sublist.refl _, rfl⟩

theorem settleConnect_does (link : Nat) (result : Except HubError Unit) :
    Does loop { hub := loop.hub } (loop.settleConnect link result) := by
  unfold settleConnect
  split
  · exact ⟨rfl, rfl, List.Sublist.refl _, rfl⟩
  · exact does_nothing

variable (loop) in
theorem reject_does (event : HubEvent) : Does loop { hub := loop.hub } (loop.reject event) := by
  cases event with
  | connectPage key link => exact settleConnect_does link.id (.error .shutdown)
  | closePage caller key => exact does_answer (.closed caller (.error .shutdown))
  | listPages caller => exact does_answer (.pages caller (.error .shutdown))
  | _ => exact does_nothing

variable (loop) in
theorem rejectAll_does (events : List HubEvent) :
    Does loop { hub := loop.hub } (rejectAll events loop) := by
  induction events generalizing loop with
  | nil => exact does_nothing
  | cons event rest ih => exact (reject_does loop event).andAnswer (ih _)

theorem stop_does : Does loop loop.hub.shutdown loop.stop := by
  have rejected := rejectAll_does
    { loop with hub := loop.hub.shutdown.hub, mailbox := [], isRunning := false } loop.mailbox
  refine ⟨rejected.hub, rejected.links, rejected.mailbox.trans (List.nil_sublist _), ?_⟩
  have acted := (does_handled loop loop.hub.shutdown).acts
  rw [handled] at acted
  rw [stop, List.filterMap_append, acted, rejected.acts, List.append_nil]

theorem handle_does (windowOpens : Bool) (event : HubEvent) :
    Does loop (event.handled windowOpens loop.hub) (handle windowOpens event loop) := by
  cases event with
  | connectPage key link => exact (does_handled loop _).andAnswer (settleConnect_does _ _)
  | closePage caller key => exact (does_handled loop _).andAnswer (does_answer _)
  | openForActiveTab page => exact ⟨rfl, rfl, List.Sublist.refl _, rfl⟩
  | listPages caller => exact does_answer _
  | shutdown => exact stop_does
  | _ => exact does_handled loop _

theorem take_of_none (windowOpens : Bool) (nothing : loop.next? = none) :
    loop.take windowOpens = (loop, []) := by
  unfold next? at nothing
  unfold take
  split at nothing
  · cases nothing
  · rename_i running empty
    split at nothing
    · rename_i held
      simp [running, empty, held]
    · cases nothing
  · rename_i stopped
    simp [stopped]

theorem take_of_next (windowOpens : Bool) {event : HubEvent} (next : loop.next? = some event) :
    loop.take windowOpens =
      handle windowOpens event { loop with mailbox := loop.mailbox.tail } := by
  unfold next? at next
  unfold take
  split at next
  · rename_i running mailbox
    cases next
    simp [running, mailbox]
  · rename_i running empty
    split at next
    · cases next
    · rename_i unheld
      cases next
      have same : { loop with mailbox := loop.mailbox.tail } = loop := by
        rw [empty, List.tail_nil, ← empty]
      rw [same]
      simp only [running, if_true, handle]
      split
      · rename_i mailbox
        rw [empty] at mailbox
        cases mailbox
      · exact if_neg unheld
  · cases next

theorem take_does (windowOpens : Bool) {event : HubEvent} (next : loop.next? = some event) :
    Does { loop with mailbox := loop.mailbox.tail } (event.handled windowOpens loop.hub)
      (loop.take windowOpens) := by
  rw [take_of_next windowOpens next]
  exact handle_does windowOpens event

theorem awaited_of_next {event : HubEvent} (next : loop.next? = some event) :
    loop.awaited =
      event.connecting?.toList ++ loop.mailbox.tail.filterMap HubEvent.connecting? := by
  unfold next? at next
  split at next
  · rename_i mailbox
    cases next
    rw [awaited, mailbox, List.tail_cons]
    cases connecting : event.connecting? <;> simp [connecting]
  · rename_i empty
    split at next
    · cases next
    · cases next
      simp [awaited, empty, HubEvent.connecting?]
  · cases next

section Take
variable (loop) (windowOpens : Bool)

theorem take_awaited : (loop.take windowOpens).1.awaited.Sublist loop.awaited := by
  cases next : loop.next? with
  | none =>
      rw [take_of_none windowOpens next]
  | some event =>
      rw [awaited_of_next next]
      have later := (take_does windowOpens next).mailbox.filterMap HubEvent.connecting?
      exact later.trans (List.sublist_append_right _ _)

theorem take_links : (loop.take windowOpens).1.links = loop.links := by
  cases next : loop.next? with
  | none => rw [take_of_none windowOpens next]
  | some event => exact (take_does windowOpens next).links

end Take

end Does

/-! ## What callers do -/

/-- Callers only put events into the mailbox. -/
structure Queues (before after : HubLoop) : Prop where
  hub : after.hub = before.hub
  links : before.links ≤ after.links
  awaited : after.awaited = before.awaited ∨
    after.awaited = before.awaited ++ [before.links + 1] ∧ after.links = before.links + 1

section Queues
variable {loop : HubLoop}

theorem queues_same {after : HubLoop} (hub : after.hub = loop.hub)
    (mailbox : after.mailbox = loop.mailbox) (links : loop.links ≤ after.links) :
    Queues loop after := by
  refine ⟨hub, links, Or.inl ?_⟩
  rw [awaited, mailbox]
  rfl

theorem reject_mailbox (event : HubEvent) : (loop.reject event).1.mailbox = loop.mailbox := by
  cases event with
  | connectPage key link =>
      simp only [reject, settleConnect]
      split <;> rfl
  | _ => rfl

variable (loop) in
theorem post_cases (event : HubEvent) :
    (loop.post event).1 = { loop with mailbox := loop.mailbox ++ [event] } ∨
      (loop.post event).1.hub = loop.hub ∧ (loop.post event).1.mailbox = loop.mailbox ∧
        (loop.post event).1.links = loop.links := by
  unfold post
  split
  · exact Or.inl rfl
  · have rejected := reject_does loop event
    exact Or.inr ⟨rejected.hub, reject_mailbox event, rejected.links⟩

variable (loop) in
theorem post_queues (event : HubEvent) (nobody : event.connecting? = none) :
    Queues loop (loop.post event).1 := by
  rcases post_cases loop event with posted | ⟨hub, mailbox, links⟩
  · rw [posted]
    refine ⟨rfl, Nat.le_refl _, Or.inl ?_⟩
    simp [awaited, nobody]
  · exact queues_same hub mailbox (Nat.le_of_eq links.symm)

theorem send_queues (event : HubEvent) (nobody : event.connecting? = none) :
    Queues loop (loop.send event).2 := by
  unfold send
  split
  · exact post_queues loop event nobody
  · exact queues_same rfl rfl (Nat.le_refl _)

theorem connectPage_queues (key : String) : Queues loop (loop.connectPage key).2.1 := by
  have posted := post_cases
    { loop with links := loop.links + 1, connecting := loop.connecting ++ [loop.links + 1] }
    (.connectPage key ⟨loop.links + 1, loop.links⟩)
  simp only [connectPage, newLink]
  rcases posted with posted | ⟨hub, mailbox, links⟩
  · rw [posted]
    refine ⟨rfl, Nat.le_succ _, Or.inr ⟨?_, rfl⟩⟩
    simp [awaited, HubEvent.connecting?]
  · exact queues_same hub mailbox (by rw [links]; exact Nat.le_succ _)

theorem connectBridge_queues : Queues loop (loop.connectBridge).2.2 := by
  cases running : loop.isRunning with
  | true =>
      simp only [connectBridge, newLink, send, post, running, if_true]
      refine ⟨rfl, Nat.le_succ _, Or.inr ⟨?_, rfl⟩⟩
      simp [awaited, HubEvent.connecting?]
  | false =>
      simp only [connectBridge, newLink, send, running, Bool.false_eq_true, if_false]
      exact queues_same rfl rfl (Nat.le_succ _)

theorem dropSurface_queues (link : Nat) : Queues loop (loop.dropSurface link) := by
  have posted := post_queues { loop with surfaces := loop.surfaces.erase link }
    (.disconnect link) rfl
  exact ⟨posted.hub, posted.links, posted.awaited⟩

theorem tabFound_queues (page : Page) (tab : Option Tab) :
    Queues loop (loop.tabFound page tab) := by
  unfold tabFound
  split
  · exact post_queues loop (.openPage page tab) rfl
  · exact queues_same rfl rfl (Nat.le_refl _)

end Queues

end HubLoop

/-! ## Moves -/

namespace Switchboard
variable (board : Switchboard)

theorem perform_loop (cause : Option Nat) (handled : HubLoop.Handled) :
    (board.perform cause handled).loop = handled.1 :=
  (applyAll_keeps cause handled.2 { board with loop := handled.1 }).1

theorem take_loop (windowOpens : Bool) :
    (board.step (.take windowOpens)).loop = (board.loop.take windowOpens).1 :=
  perform_loop _ _ _

theorem step_queues (move : HubMove) (untaken : ∀ windowOpens, move ≠ .take windowOpens) :
    board.loop.Queues (board.step move).loop := by
  cases move with
  | take windowOpens => exact absurd rfl (untaken windowOpens)
  | ask request =>
      rw [step, perform_loop]
      refine HubLoop.post_queues board.loop request.event ?_
      cases request <;> rfl
  | connectPage key =>
      rw [step, perform_loop]
      exact HubLoop.connectPage_queues key
  | connectBridge => exact HubLoop.connectBridge_queues
  | sendMessage link command => exact HubLoop.send_queues (.message link command) rfl
  | dropSurface link => exact HubLoop.dropSurface_queues link
  | tabFound page tab => exact HubLoop.tabFound_queues page tab
  | abandonConnect | holdHandle | dropHandle | client =>
      exact HubLoop.queues_same rfl rfl (Nat.le_refl _)
  | wake task =>
      rcases board.wake_cases task with same | ⟨_, _, _, _, _, _, _, woken⟩
      · rw [step, same]
        exact HubLoop.queues_same rfl rfl (Nat.le_refl _)
      · rw [step, woken]
        exact HubLoop.queues_same rfl rfl (Nat.le_refl _)

theorem step_cases (move : HubMove) :
    (∃ windowOpens, move = .take windowOpens ∧
      (board.step move).loop = (board.loop.take windowOpens).1) ∨
    (∀ windowOpens, move ≠ .take windowOpens) ∧ board.loop.Queues (board.step move).loop := by
  by_cases taken : ∃ windowOpens, move = .take windowOpens
  · obtain ⟨windowOpens, rfl⟩ := taken
    exact .inl ⟨windowOpens, rfl, board.take_loop windowOpens⟩
  · have untaken := not_exists.1 taken
    exact .inr ⟨untaken, board.step_queues move untaken⟩

theorem step_hub (move : HubMove) :
    (∃ windowOpens event, move = .take windowOpens ∧ board.loop.next? = some event ∧
      (board.step move).loop.hub = (event.handled windowOpens board.loop.hub).hub) ∨
    (∀ windowOpens, move = .take windowOpens → board.loop.next? = none) ∧
      (board.step move).loop.hub = board.loop.hub := by
  rcases board.step_cases move with ⟨windowOpens, rfl, taken⟩ | ⟨untaken, queues⟩
  · rw [taken]
    cases next : board.loop.next? with
    | some event =>
        exact .inl ⟨windowOpens, event, rfl, rfl, (HubLoop.take_does windowOpens next).hub⟩
    | none =>
        rw [HubLoop.take_of_none windowOpens next]
        exact .inr ⟨fun _ _ => rfl, rfl⟩
  · exact .inr ⟨fun windowOpens takes => absurd takes (untaken windowOpens), queues.hub⟩

end Switchboard

end BookmarkHub
