import BookmarkHub.Proofs.Connection.Closing
import BookmarkHub.Proofs.Hub.Isolation
import BookmarkHub.Proofs.Hub.Tabs

/-!
# What the hub hands to its clients

A hub has at most one client.  It hands that client the requests of the calls
that it relays, and tells it to close when another one takes its place or when
the hub shuts down.  It never touches a client that it does not have.
-/

set_option autoImplicit false

namespace BookmarkHub

def HubEffect.handed? : HubEffect → Option (ClientId × Happening)
  | .submit client _ operation => some (client, .send operation.toRequest)
  | .closeClient client => some (client, .close)
  | _ => none

/-- The client that the hub has after an event that changes its client. -/
def HubEvent.installs? : HubEvent → Option (Option ClientId)
  | .setClient client => some client
  | .shutdown => some none
  | _ => none

/-! ## What an event does to the client -/

namespace Hub
variable (windowOpens : Bool) {hub : Hub} {event : HubEvent}

theorem event_installs {client : Option ClientId} (installs : event.installs? = some client) :
    (event.handled windowOpens hub).hub.client = client ∧
      (event.handled windowOpens hub).effects.filterMap HubEffect.handed? =
        hub.client.toList.map fun old => (old, .close) := by
  cases event with
  | setClient other =>
      cases installs
      refine ⟨rfl, ?_⟩
      simp [HubEvent.handled, setClient, HubEffect.handed?, List.filterMap_map,
        Function.comp_def]
  | shutdown =>
      cases installs
      refine ⟨rfl, ?_⟩
      simp [HubEvent.handled, shutdown, setClient, HubEffect.handed?, List.filterMap_map,
        Function.comp_def]
  | _ => cases installs

/-- What an event hands to the client that the hub has: nothing, or one request. -/
inductive Hands (hub : Hub) : List HubEffect → Prop where
  | nothing {effects : List HubEffect} (unhanded : ∀ effect ∈ effects, effect.handed? = none) :
      Hands hub effects
  | request (client : ClientId) (relay : Relay) (operation : Operation)
      (loggedIn : hub.client = some client) : Hands hub [.submit client relay operation]

variable (hub) in
theorem openPage_hands (page : Page) (tab : Option Tab) :
    Hands hub (openPage windowOpens page tab hub).effects := by
  refine .nothing fun effect member => ?_
  cases held : hub.registry.find? page.key with
  | some context =>
      rw [openPage_of_context tab windowOpens held] at member
      rcases List.mem_append.1 member with told | focused
      · obtain ⟨link, _, rfl | ⟨shown, _, rfl⟩⟩ := mem_refocus told <;> rfl
      · cases List.mem_singleton.1 focused
        rfl
  | none =>
      cases windowOpens with
      | true =>
          rw [openPage_of_absent tab held] at member
          cases List.mem_singleton.1 member
          rfl
      | false =>
          rw [openPage_of_refused tab held] at member
          cases member

theorem connectPage_hands (key : String) (link : Link) :
    (connectPage key link hub).hub.client = hub.client ∧
      Hands hub (connectPage key link hub).effects := by
  unfold connectPage
  split
  · exact ⟨rfl, .nothing (by simp)⟩
  · refine ⟨rfl, .nothing fun effect member => ?_⟩
    obtain ⟨tab, _, rfl⟩ := List.mem_map.1 member
    rfl

theorem closePage_hands (key : String) :
    (closePage key hub).hub.client = hub.client ∧ Hands hub (closePage key hub).effects := by
  unfold closePage
  dsimp only
  split
  · exact ⟨rfl, .nothing (by simp)⟩
  · refine ⟨rfl, .nothing fun effect member => ?_⟩
    obtain ⟨link, _, rfl⟩ := List.mem_map.1 member
    rfl

theorem message_hands (filed : Filed hub) (number : Nat) (command : SurfaceCommand) :
    (message windowOpens number command hub).hub.client = hub.client ∧
      Hands hub (message windowOpens number command hub).effects := by
  obtain ⟨registry, pagesOnly⟩ : ∃ registry,
      (message windowOpens number command hub).hub = { hub with registry } :=
    message_registry windowOpens filed command
  refine ⟨by rw [pagesOnly], ?_⟩
  have received := message_receives windowOpens number filed command
  generalize message windowOpens number command hub = handled at received ⊢
  cases received with
  | drop | ignore | clear => exact .nothing (by simp)
  | opens _ page tab => exact openPage_hands windowOpens hub page tab
  | relay id func args =>
      rcases relayCall_cases hub ⟨Link.numbered number, id⟩ func args with
        ⟨_, refused⟩ | ⟨_, _, _, _, refused⟩ | ⟨client, operation, loggedIn, _, submitted⟩
      · rw [refused]
        exact .nothing (by simp [HubEffect.handed?])
      · rw [refused]
        exact .nothing (by simp [HubEffect.handed?])
      · rw [submitted]
        exact .request client _ operation loggedIn

theorem event_hands (filed : Filed hub) (kept : event.installs? = none) :
    (event.handled windowOpens hub).hub.client = hub.client ∧
      Hands hub (event.handled windowOpens hub).effects := by
  cases event with
  | connectPage key link => exact connectPage_hands key link
  | message number command => exact message_hands windowOpens filed number command
  | disconnect number =>
      have forgotten := disconnect_forgets number filed
      rw [HubEvent.handled]
      generalize disconnect number hub = handled at forgotten ⊢
      cases forgotten <;> exact ⟨rfl, .nothing (by simp)⟩
  | openPage page tab =>
      obtain ⟨registry, opened⟩ := openPage_registry windowOpens hub page tab
      exact ⟨by rw [HubEvent.handled, opened], openPage_hands windowOpens hub page tab⟩
  | closePage caller key => exact closePage_hands key
  | setClient | shutdown => cases kept
  | connectBridge | openForActiveTab | listPages =>
      exact ⟨rfl, .nothing (by simp [HubEvent.handled, connectBridge])⟩

end Hub

/-! ## What a move does to the clients -/

namespace Switchboard

abbrev Clients := ClientId → History

def handOver (clients : Clients) (handed : ClientId × Happening) : Clients :=
  Function.update clients handed.1
    ((clients handed.1).extend ⟨.timely 0 0 fun _ => true, handed.2⟩)

theorem handOver_reaches (clients : Clients) (handed : ClientId × Happening)
    (client : ClientId) : (clients client).Reaches (handOver clients handed client) := by
  by_cases same : client = handed.1
  · subst same
    rw [handOver, Function.update_self]
    exact .extend .refl _
  · rw [handOver, Function.update_of_ne same]
    exact .refl

theorem handAll_reaches (handed : List (ClientId × Happening)) (clients : Clients)
    (client : ClientId) : (clients client).Reaches (handed.foldl handOver clients client) := by
  induction handed generalizing clients with
  | nil => exact .refl
  | cons first rest ih => exact (handOver_reaches clients first client).trans (ih _)

def deeds (board : Switchboard) : HubMove → List HubEffect
  | .take windowOpens =>
      (board.loop.next?.map fun event =>
        (event.handled windowOpens board.loop.hub).effects).getD []
  | _ => []

section Moves
variable (board : Switchboard)

theorem apply_clients (cause : Option Nat) (effect : HubLoopEffect) :
    (board.apply cause effect).clients =
      (effect.act?.bind HubEffect.handed?).toList.foldl handOver board.clients := by
  rcases effect with effect | page | answer
  · cases effect <;> rfl
  · rfl
  · rfl

theorem apply_tasks (cause : Option Nat) (effect : HubLoopEffect) :
    ∀ task ∈ (board.apply cause effect).tasks, task ∈ board.tasks ∨
      ∃ operation, effect.act? = some (.submit task.client task.relay operation) := by
  intro task member
  rcases effect with effect | page | answer
  · cases effect with
    | submit client relay operation =>
        rcases List.mem_append.1 member with earlier | now
        · exact .inl earlier
        · cases List.mem_singleton.1 now
          exact .inr ⟨operation, rfl⟩
    | _ => exact .inl member
  · exact .inl member
  · exact .inl member

variable (cause : Option Nat) (handled : HubLoop.Handled)

theorem perform_clients : (board.perform cause handled).clients =
    ((handled.2.filterMap HubLoopEffect.act?).filterMap HubEffect.handed?).foldl handOver
      board.clients := by
  obtain ⟨loop, effects⟩ := handled
  have folded (former : Switchboard) : (effects.foldl (apply cause) former).clients =
      ((effects.filterMap HubLoopEffect.act?).filterMap HubEffect.handed?).foldl handOver
        former.clients := by
    induction effects generalizing former with
    | nil => rfl
    | cons effect rest ih =>
        rw [List.foldl_cons, ih, apply_clients]
        cases acted : effect.act? with
        | none => simp [acted]
        | some act => cases handed : act.handed? <;> simp [acted, handed]
  exact folded { board with loop }

theorem perform_tasks : ∀ task ∈ (board.perform cause handled).tasks, task ∈ board.tasks ∨
    ∃ operation, .submit task.client task.relay operation ∈
      handled.2.filterMap HubLoopEffect.act? := by
  obtain ⟨loop, effects⟩ := handled
  have folded (former : Switchboard) : ∀ task ∈ (effects.foldl (apply cause) former).tasks,
      task ∈ former.tasks ∨ ∃ operation, .submit task.client task.relay operation ∈
        effects.filterMap HubLoopEffect.act? := by
    induction effects generalizing former with
    | nil => exact fun task member => .inl member
    | cons effect rest ih =>
        intro task member
        rcases ih (former.apply cause effect) task member with earlier | ⟨operation, later⟩
        · refine (former.apply_tasks cause effect task earlier).imp_right ?_
          rintro ⟨operation, acted⟩
          exact ⟨operation, List.mem_filterMap.2 ⟨effect, List.mem_cons_self .., acted⟩⟩
        · refine .inr ⟨operation, ?_⟩
          obtain ⟨other, among, acted⟩ := List.mem_filterMap.1 later
          exact List.mem_filterMap.2 ⟨other, List.mem_cons_of_mem _ among, acted⟩
  exact folded { board with loop }

variable {board} in
theorem deeds_of_next {windowOpens : Bool} {event : HubEvent}
    (next : board.loop.next? = some event) :
    board.deeds (.take windowOpens) = (event.handled windowOpens board.loop.hub).effects := by
  simp [deeds, next]

theorem take_deeds (windowOpens : Bool) :
    (board.loop.take windowOpens).2.filterMap HubLoopEffect.act? =
      board.deeds (.take windowOpens) := by
  cases next : board.loop.next? with
  | none => simp [deeds, next, HubLoop.take_of_none windowOpens next]
  | some event => rw [(HubLoop.take_does windowOpens next).acts, deeds_of_next next]

theorem step_clients (move : HubMove) : (∃ client moment, move = .client client moment) ∨
    (board.step move).clients =
      ((board.deeds move).filterMap HubEffect.handed?).foldl handOver board.clients := by
  cases move with
  | client client moment => exact .inl ⟨client, moment, rfl⟩
  | take windowOpens =>
      right
      rw [step, perform_clients, take_deeds]
  | ask request =>
      right
      rw [step, perform_clients, post_acts]
      rfl
  | connectPage key =>
      right
      rw [step, perform_clients, HubLoop.connectPage, post_acts]
      rfl
  | wake task =>
      right
      rcases board.wake_cases task with same | ⟨_, _, _, _, _, _, _, woken⟩
      · rw [step, same]
        rfl
      · rw [step, woken]
        rfl
  | _ => exact .inr rfl

theorem step_reaches (move : HubMove) (client : ClientId) :
    (board.clients client).Reaches ((board.step move).clients client) := by
  rcases board.step_clients move with ⟨told, moment, rfl⟩ | handed
  · exact board.tellClient_reaches told moment client
  · rw [handed]
    exact handAll_reaches _ _ client

theorem run_reaches (options : ClientId → ConnectionOptions) (moves more : List HubMove)
    (client : ClientId) :
    ((run options moves).clients client).Reaches
      ((run options (moves ++ more)).clients client) := by
  induction more using List.reverseRecOn with
  | nil =>
      rw [List.append_nil]
      exact .refl
  | append_singleton earlier move ih =>
      rw [← List.append_assoc, run_snoc]
      exact ih.trans (step_reaches _ move client)

theorem step_tasks (move : HubMove) : ∀ task ∈ (board.step move).tasks,
    (∃ earlier ∈ board.tasks, earlier.client = task.client) ∨
      ∃ operation, .submit task.client task.relay operation ∈ board.deeds move := by
  intro task member
  cases move with
  | take windowOpens =>
      rw [step] at member
      rcases perform_tasks _ _ _ task member with earlier | submitted
      · exact .inl ⟨task, earlier, rfl⟩
      · rw [take_deeds] at submitted
        exact .inr submitted
  | ask request =>
      rw [step] at member
      rcases perform_tasks _ _ _ task member with earlier | ⟨operation, submitted⟩
      · exact .inl ⟨task, earlier, rfl⟩
      · rw [post_acts] at submitted
        cases submitted
  | connectPage key =>
      rw [step] at member
      rcases perform_tasks _ _ _ task member with earlier | ⟨operation, submitted⟩
      · exact .inl ⟨task, earlier, rfl⟩
      · rw [HubLoop.connectPage, post_acts] at submitted
        cases submitted
  | wake number =>
      rcases board.wake_cases number with same | ⟨done, _, before, later, split, _, _, woken⟩
      · rw [step, same] at member
        exact .inl ⟨task, member, rfl⟩
      · rw [step, woken] at member
        left
        rcases List.mem_append.1 member with earlier | now
        · exact ⟨task, by simp [split, earlier], rfl⟩
        · rcases List.mem_cons.1 now with rfl | after
          · exact ⟨done, by simp [split], rfl⟩
          · exact ⟨task, by simp [split, after], rfl⟩
  | _ => exact .inl ⟨task, member, rfl⟩

end Moves

/-! ## The client of the hub -/

section Client
variable {options : ClientId → ConnectionOptions} {board : Switchboard}

theorem Sound.kept (sound : Sound options board) (client : ClientId) :
    Kept (board.clients client) := by
  obtain ⟨moments, ran⟩ := sound.clients client
  rw [ran]
  exact run_kept _ moments

/-- The client that a move gives to the hub. -/
def installs? (board : Switchboard) : HubMove → Option (Option ClientId)
  | .take _ => board.loop.next?.bind HubEvent.installs?
  | _ => none

theorem step_installs {move : HubMove} {client : Option ClientId}
    (installs : board.installs? move = some client) :
    (board.step move).loop.hub.client = client ∧
      (board.deeds move).filterMap HubEffect.handed? =
        board.loop.hub.client.toList.map fun old => (old, .close) := by
  cases move with
  | take windowOpens =>
      obtain ⟨event, next, takes⟩ := Option.bind_eq_some_iff.1 installs
      rw [take_loop, (HubLoop.take_does windowOpens next).hub, deeds_of_next next]
      exact Hub.event_installs windowOpens takes
  | _ => cases installs

theorem step_replaces {move : HubMove} {client : Option ClientId}
    (installs : board.installs? move = some client) (other : ClientId) :
    (board.loop.hub.client = some other → ((board.step move).clients other).IsClosing) ∧
      (board.loop.hub.client ≠ some other →
        (board.step move).clients other = board.clients other) := by
  rcases board.step_clients move with ⟨_, _, rfl⟩ | clients
  · cases installs
  · rw [clients, (step_installs installs).2]
    constructor
    · intro current
      simp only [current, Option.toList_some, List.map_cons, List.map_nil, List.foldl_cons,
        List.foldl_nil, handOver, Function.update_self]
      exact History.closing_of_close _ _
    · intro another
      cases current : board.loop.hub.client with
      | none => rfl
      | some old =>
          refine Function.update_of_ne ?_ _ _
          rintro rfl
          exact another current

/-- Otherwise the hub keeps its client, and hands something only to that. -/
theorem step_hands (sound : Sound options board) {move : HubMove}
    (kept : board.installs? move = none) :
    (board.step move).loop.hub.client = board.loop.hub.client ∧
      Hub.Hands board.loop.hub (board.deeds move) := by
  rcases board.step_hub move with ⟨windowOpens, event, rfl, next, taken⟩ | ⟨idle, same⟩
  · have keeps : event.installs? = none := by simpa [installs?, next] using kept
    rw [taken, deeds_of_next next]
    exact Hub.event_hands windowOpens sound.filed.hub keeps
  · rw [same]
    refine ⟨rfl, .nothing ?_⟩
    cases move with
    | take windowOpens => simp [deeds, idle windowOpens rfl]
    | _ => simp [deeds]

end Client

end Switchboard

end BookmarkHub
