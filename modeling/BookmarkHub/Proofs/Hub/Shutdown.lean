import BookmarkHub.Hub.Bridge
import BookmarkHub.Proofs.Hub.Custody
import BookmarkHub.Proofs.Hub.Rejections
import Mathlib.Algebra.GroupWithZero.Nat

/-!
# The end of a hub

A hub that shuts down says goodbye to the surfaces of its pages, lets go of
everything it has, and tells its client to close.  Whoever waits for it is told
that it is shut down, at once or when the client has closed, and so is whoever
comes later.
-/

set_option autoImplicit false

namespace BookmarkHub

/-! ## What a shutdown does -/

namespace Hub
variable {hub : Hub}

def pageLinks (hub : Hub) : List Link := hub.registry.pages.values.filterMap PageContext.link

theorem shutdown_effects : hub.shutdown.effects =
    hub.pageLinks.map (.post · .close) ++ hub.client.toList.map .closeClient := rfl

theorem mem_pageLinks {link : Link} : link ∈ hub.pageLinks ↔
    ∃ key context, hub.registry.find? key = some context ∧ context.link = some link := by
  constructor
  · intro member
    obtain ⟨context, among, linked⟩ := List.mem_filterMap.1 member
    obtain ⟨key, held⟩ := Table.find?_of_mem_values among
    exact ⟨key, context, held, linked⟩
  · rintro ⟨key, context, held, linked⟩
    exact List.mem_filterMap.2 ⟨context, Table.mem_values_of_find? held, linked⟩

theorem pageLinks_nodup (exclusive : Exclusive hub) : hub.pageLinks.Nodup := by
  rw [pageLinks, Table.values, List.filterMap_map, List.Nodup, List.pairwise_filterMap]
  have increasing := hub.registry.pages.increasing
  refine increasing.imp_of_mem fun {first second} here there below => ?_
  rintro link linked other alsoLinked rfl
  have held := Table.findEntry_of_mem first.1 first.2 _ increasing here
  have alsoHeld := Table.findEntry_of_mem second.1 second.2 _ increasing there
  have same := exclusive.once link.id first.1 second.1 ⟨first.2, link, held, linked, rfl⟩
    ⟨second.2, link, alsoHeld, alsoLinked, rfl⟩
  have equal : compare second.1 second.1 = .eq := Std.ReflCmp.compare_self
  rw [same, equal] at below
  cases below

end Hub

/-! ## Clients that are left -/

def HubMove.turns (client : ClientId) : HubMove → Nat
  | .client other moment => if other = client then moment.happening.turns else 0
  | _ => 0

namespace Switchboard
variable {options : ClientId → ConnectionOptions} {board : Switchboard}

/-- Every client that a task waits for is the client of the hub, or closes. -/
def Tended (board : Switchboard) : Prop := ∀ task ∈ board.tasks,
  board.loop.hub.client = some task.client ∨ (board.clients task.client).IsClosing

theorem step_tended (sound : Sound options board) (tended : Tended board) (move : HubMove) :
    Tended (board.step move) := by
  intro task member
  have reaches := board.step_reaches move task.client
  have before := board.step_tasks move task member
  cases installs : board.installs? move with
  | none =>
      obtain ⟨same, hands⟩ := step_hands sound installs
      rw [same]
      rcases before with ⟨earlier, among, client⟩ | ⟨operation, submitted⟩
      · have tends := tended earlier among
        rw [client] at tends
        exact tends.imp_right reaches.closing
      · left
        generalize board.deeds move = deeds at hands submitted
        cases hands with
        | nothing unhanded => cases unhanded _ submitted
        | request owner relay requested loggedIn =>
            cases List.mem_singleton.1 submitted
            exact loggedIn
  | some client =>
      right
      obtain ⟨_, handed⟩ := step_installs installs
      rcases before with ⟨earlier, among, owner⟩ | ⟨operation, submitted⟩
      · have tends := tended earlier among
        rw [owner] at tends
        exact tends.elim (step_replaces installs task.client).1 reaches.closing
      · -- nothing is submitted in such a move
        have among : (task.client, Happening.send operation.toRequest) ∈
            (board.deeds move).filterMap HubEffect.handed? :=
          List.mem_filterMap.2 ⟨_, submitted, rfl⟩
        rw [handed] at among
        obtain ⟨old, _, closed⟩ := List.mem_map.1 among
        cases closed

theorem run_tended (options : ClientId → ConnectionOptions) (moves : List HubMove) :
    Tended (run options moves) := by
  induction moves using List.reverseRecOn with
  | nil => exact fun task member => by cases member
  | append_singleton earlier move ih =>
      rw [run_snoc]
      exact step_tended (run_sound options earlier) ih move

theorem step_closesWithin {client : ClientId} {turns : Nat} (move : HubMove)
    (closes : (board.clients client).ClosesWithin (turns + move.turns client)) :
    ((board.step move).clients client).ClosesWithin turns := by
  have reaches := board.step_reaches move client
  cases move with
  | client other moment =>
      simp only [HubMove.turns] at closes
      split at closes
      · rename_i same
        subst same
        simp only [step, tellClient, Function.update_self]
        exact closes.extend moment
      · exact reaches.closesWithin closes
  | _ => exact reaches.closesWithin closes

theorem run_closesWithin (moves more : List HubMove) {client : ClientId} {turns : Nat}
    (closes : ((run options moves).clients client).ClosesWithin
      (turns + (more.map (HubMove.turns client)).sum)) :
    ((run options (moves ++ more)).clients client).ClosesWithin turns := by
  induction more using List.reverseRecOn generalizing turns with
  | nil => simpa using closes
  | append_singleton earlier move ih =>
      rw [← List.append_assoc, run_snoc]
      refine step_closesWithin move (ih ?_)
      simp only [List.map_append, List.sum_append, List.map_cons, List.map_nil,
        List.sum_singleton] at closes
      rwa [Nat.add_assoc, Nat.add_comm (move.turns client)]

/-- A client that takes enough commands stops. -/
theorem stopped_of_turns (moves more : List HubMove) {client : ClientId}
    (closes : ((run options moves).clients client).ClosesWithin
      (more.map (HubMove.turns client)).sum) :
    ((run options (moves ++ more)).clients client).connection.stopped = true :=
  History.stopped_of_closesWithin_zero (run_closesWithin moves more (by rwa [Nat.zero_add]))

theorem step_response (sound : Sound options board) (move : HubMove) {client : ClientId}
    {ticket : Ticket} {response : Response}
    (told : ((board.step move).clients client).outcome? ticket = some (.ok response)) :
    (board.clients client).outcome? ticket = some (.ok response) ∨
      (board.clients client).connection.stopped = false := by
  cases stopped : (board.clients client).connection.stopped with
  | false => exact .inr rfl
  | true =>
      have past := (sound.kept client).stopped stopped
      exact .inl (past.response_reaches (board.step_reaches move client) told)

theorem run_response (moves : List HubMove) {client : ClientId} {ticket : Ticket}
    {response : Response}
    (told : ((run options moves).clients client).outcome? ticket = some (.ok response)) :
    ∃ earlier move, earlier ++ [move] <+: moves ∧
      ((run options earlier).clients client).connection.stopped = false ∧
      ((run options (earlier ++ [move])).clients client).outcome? ticket = some (.ok response) := by
  induction moves using List.reverseRecOn with
  | nil => cases told
  | append_singleton earlier move ih =>
      have now := told
      rw [run_snoc] at now
      rcases step_response (run_sound options earlier) move now with before | isOpen
      · obtain ⟨first, last, sooner, rest⟩ := ih before
        exact ⟨first, last, sooner.trans (List.prefix_append _ _), rest⟩
      · exact ⟨earlier, move, List.prefix_refl _, isOpen, told⟩

/-! ## The moment of the shutdown -/

/-- What a hub does when it stops.  The surfaces of pages are told to close, each once, and no
bridge is; the client is, and no other.  Whoever waits for an event that is left in the mailbox is
told, in their order. -/
structure Stops (board : Switchboard) (windowOpens : Bool) : Prop where
  isRunning : (board.step (.take windowOpens)).loop.isRunning = false
  hub : (board.step (.take windowOpens)).loop.hub = { window := board.loop.hub.window }
  farewells : ∃ links : List Link, links.Nodup ∧
    (∀ link, link ∈ links ↔ ∃ key context,
      board.loop.hub.registry.find? key = some context ∧ context.link = some link) ∧
    (∀ number link, board.loop.hub.bridges.find? number = some link → link ∉ links) ∧
    (board.step (.take windowOpens)).posted =
      board.posted ++ links.map fun link => ⟨none, link, .close⟩
  clients : (board.step (.take windowOpens)).clients =
    (board.loop.hub.client.toList.map fun old => (old, Happening.close)).foldl handOver
      board.clients
  answers : (board.loop.take windowOpens).2.filterMap HubLoopEffect.answer? =
    board.loop.mailbox.tail.filterMap (·.rejection? board.loop.connecting)

section Stops
variable (windowOpens : Bool)

theorem call?_of_shutdown {loop : HubLoop} (next : loop.next? = some .shutdown) :
    loop.call? = none := by
  unfold HubLoop.next? at next
  unfold HubLoop.call?
  split
  · rename_i running mailbox
    rw [running, mailbox] at next
    cases next
  · rfl

theorem stops_of_next (sound : Sound options board) (owned : board.loop.Owned)
    (next : board.loop.next? = some .shutdown) : Stops board windowOpens := by
  have taken := HubLoop.take_stops windowOpens owned next
  refine ⟨?_, ?_, ?_, ?_, ?_⟩
  · rw [take_loop, taken]
  · rw [take_loop, taken]
    rfl
  · refine ⟨board.loop.hub.pageLinks, Hub.pageLinks_nodup owned.exclusive,
      fun link => Hub.mem_pageLinks, ?_, ?_⟩
    · intro number link found member
      obtain ⟨key, context, held, linked⟩ := Hub.mem_pageLinks.1 member
      have apart := owned.exclusive.apart link.id key ⟨context, link, held, linked, rfl⟩
      have bridged := sound.filed.hub.bridges number link found
      rw [bridged, Table.contains] at apart
      simp [Link.numbered, found] at apart
    · rw [board.take_posted windowOpens next, call?_of_shutdown next, HubEvent.handled,
        Hub.shutdown_effects]
      simp [List.filterMap_append, List.filterMap_map, Function.comp_def, postOf?]
  · have installs : board.installs? (.take windowOpens) = some none := by
      simp [installs?, next, HubEvent.installs?]
    rcases board.step_clients (.take windowOpens) with ⟨_, _, other⟩ | clients
    · cases other
    · rw [clients, (step_installs installs).2]
  · rw [taken]
    simp [List.filterMap_append, List.filterMap_map, Function.comp_def, HubLoopEffect.answer?]

end Stops

/-! ## After the shutdown -/

/-- What is so of a hub that has stopped.  It has let go of everything, and whoever comes now is
told at once that it is shut down.  No message is delivered, and every call is answered as soon as
its client has taken what waits in its mailbox. -/
structure Ended (options : ClientId → ConnectionOptions) (moves : List HubMove) : Prop where
  hub : ∃ window, (run options moves).loop.hub = { window }
  mailbox : (run options moves).loop.mailbox = []
  connecting : (run options moves).loop.connecting = []
  ever : ∀ more, (run options (moves ++ more)).loop.isRunning = false
  connects : ∀ key, ((run options moves).loop.connectPage key).2.2 =
    [.answer (.connected ((run options moves).loop.links + 1) (.error .shutdown))]
  closes : ∀ caller key, ((run options moves).loop.post (.closePage caller key)).2 =
    [.answer (.closed caller (.error .shutdown))]
  lists : ∀ caller, ((run options moves).loop.post (.listPages caller)).2 =
    [.answer (.pages caller (.error .shutdown))]
  bridges : ((run options moves).loop.connectBridge).2.1 = .error .shutdown
  sends : ∀ event, ((run options moves).loop.send event).1 = .error .shutdown
  messages : ∀ link command, ((run options moves).loop.sendMessage link command).1 = false
  relays : ∀ (bridge : Bridge) link command ticket func args,
    (bridge.handle ((run options moves).loop.sendMessage link command).1
      (.call ticket func args)).2 = [.resolve ticket (.error .shutdown)]
  settles : ∀ number call, (run options moves).calls[number]? = some call →
    ∀ more : List HubMove, (∀ task ∈ (run options moves).tasksFor number,
      ((run options moves).clients task.client).endpoint.mailbox.length ≤
        (more.map (HubMove.turns task.client)).sum) →
    ((run options (moves ++ more)).answersTo number).length = 1 ∨
      ∃ task, (((run options (moves ++ more)).step (.wake task)).answersTo number).length = 1

section Ended
variable {moves : List HubMove}

theorem run_hub (stopped : (run options moves).loop.isRunning = false) :
    ∃ window, (run options moves).loop.hub = { window } := by
  induction moves using List.reverseRecOn with
  | nil => cases stopped
  | append_singleton earlier move ih =>
      rw [run_snoc] at stopped ⊢
      cases running : (run options earlier).loop.isRunning with
      | false =>
          -- a hub that has stopped takes nothing
          have nothing : (run options earlier).loop.next? = none := by
            unfold HubLoop.next?
            simp [running]
          rcases (run options earlier).step_hub move with ⟨_, event, _, next, _⟩ | ⟨_, same⟩
          · rw [nothing] at next
            cases next
          · rw [same]
            exact ih running
      | true =>
          rcases (stopped_step_iff move).1 stopped with before | ⟨windowOpens, rfl, next⟩
          · rw [running] at before
            cases before
          · exact ⟨_, (stops_of_next windowOpens (run_sound options earlier)
              (run_owned options earlier) next).hub⟩

theorem run_stopped (stopped : (run options moves).loop.isRunning = false)
    (more : List HubMove) : (run options (moves ++ more)).loop.isRunning = false := by
  induction more using List.reverseRecOn with
  | nil => rwa [List.append_nil]
  | append_singleton earlier move ih =>
      rw [← List.append_assoc, run_snoc]
      exact (stopped_step_iff move).2 (.inl ih)

theorem step_calls (board : Switchboard) (move : HubMove) :
    board.calls <+: (board.step move).calls := by
  have performs (former : Switchboard) (cause : Option Nat) (handled : HubLoop.Handled) :
      (former.perform cause handled).calls = former.calls :=
    (applyAll_keeps cause handled.2 { former with loop := handled.1 }).2
  cases move with
  | take windowOpens =>
      rw [step, performs]
      exact List.prefix_append _ _
  | ask | connectPage => simp only [step, performs, List.prefix_refl]
  | wake task =>
      rcases board.wake_cases task with same | ⟨_, _, _, _, _, _, _, woken⟩
      · simp only [step, same, List.prefix_refl]
      · rw [step, woken]
        exact List.prefix_refl _
  | _ => exact List.prefix_refl _

theorem run_calls (moves more : List HubMove) :
    (run options moves).calls <+: (run options (moves ++ more)).calls := by
  induction more using List.reverseRecOn with
  | nil => simp only [List.append_nil, List.prefix_refl]
  | append_singleton earlier move ih =>
      rw [← List.append_assoc, run_snoc]
      exact ih.trans (step_calls _ move)

theorem Fate.client_of_waiting {before after : Switchboard} {number : Nat} {call : Call}
    {client : ClientId} {ticket : Ticket} {isDone : Bool} (fate : Fate before number call)
    (asked : Asked after number call client ticket isDone) :
    ∃ task ∈ before.tasksFor number, task.client = client := by
  have owner {other : ClientId} {given : Ticket} {done : Bool}
      (handed : Asked before number call other given done) :
      ∃ task ∈ before.tasksFor number, task.client = client := by
    refine ⟨_, by rw [handed.only]; exact List.mem_singleton_self _, ?_⟩
    exact Option.some.inj (handed.loggedIn.symm.trans asked.loggedIn)
  cases fate with
  | unauthenticated nobody =>
      rw [asked.loggedIn] at nobody
      cases nobody
  | malformed _ error _ rejected =>
      obtain ⟨operation, accepted, _⟩ := asked.request
      rw [rejected] at accepted
      cases accepted
  | waiting _ _ handed => exact owner handed
  | served _ _ _ handed => exact owner handed
  | failed _ _ _ handed => exact owner handed

theorem run_settles (stopped : (run options moves).loop.isRunning = false) {number : Nat}
    {call : Call} (taken : (run options moves).calls[number]? = some call)
    (more : List HubMove) (turns : ∀ task ∈ (run options moves).tasksFor number,
      ((run options moves).clients task.client).endpoint.mailbox.length ≤
        (more.map (HubMove.turns task.client)).sum) :
    ((run options (moves ++ more)).answersTo number).length = 1 ∨
      ∃ task, (((run options (moves ++ more)).step (.wake task)).answersTo number).length = 1 := by
  have later := run_sound options (moves ++ more)
  have known : (run options (moves ++ more)).calls[number]? = some call := by
    obtain ⟨rest, longer⟩ := run_calls moves more
    rw [← longer, List.getElem?_append_left (List.getElem?_eq_some_iff.1 taken).1]
    exact taken
  have fate := later.fates number call known
  cases fate with
  | unauthenticated _ _ answered | malformed _ _ _ _ _ answered | served _ _ _ _ _ answered
  | failed _ _ _ _ _ answered => simp [answered]
  | waiting client ticket asked unanswered =>
      obtain ⟨task, among, rfl⟩ :=
        ((run_sound options moves).fates number call taken).client_of_waiting asked
      -- the hub has no client any more, so this one was told to close
      have closing : ((run options moves).clients task.client).IsClosing := by
        obtain ⟨window, hub⟩ := run_hub stopped
        rcases run_tended options moves task (List.mem_filter.1 among).1 with current | closes
        · rw [hub] at current
          cases current
        · exact closes
      have closed := stopped_of_turns moves more (closing.within.mono (turns task among))
      obtain ⟨operation, _, handedIn⟩ := asked.request
      have ended := (later.kept task.client).stopped closed
      obtain ⟨outcome, told⟩ := ended.told (List.getElem?_eq_some_iff.1 handedIn).1
      refine (later.fates number call known).decided (.inr (.inr
        ⟨⟨some number, ⟨Link.numbered call.link, call.id⟩, task.client, ticket, false⟩, ?_,
          outcome, told⟩))
      rw [asked.only]
      exact List.mem_singleton_self _

theorem run_ended (stopped : (run options moves).loop.isRunning = false) : Ended options moves := by
  have attends := run_attends options moves
  have nobody := attends.idle stopped
  have refused (event : HubEvent) : (run options moves).loop.post event =
      (run options moves).loop.reject event := by
    simp [HubLoop.post, stopped]
  have unsent (event : HubEvent) : ((run options moves).loop.send event).1 = .error .shutdown := by
    simp [HubLoop.send, stopped]
  have unheard (link : Nat) (command : SurfaceCommand) :
      ((run options moves).loop.sendMessage link command).1 = false := by
    simp [HubLoop.sendMessage, unsent, Except.isOk, Except.toBool]
  refine ⟨run_hub stopped, attends.stopped stopped, nobody, run_stopped stopped, ?_, ?_, ?_, ?_,
    unsent, unheard, ?_, fun number call taken more => run_settles stopped taken more⟩
  · intro key
    simp [HubLoop.connectPage, HubLoop.newLink, HubLoop.post, stopped, HubLoop.reject_eq,
      HubEvent.rejection?, nobody]
  · intro caller key
    rw [refused]
    rfl
  · intro caller
    rw [refused]
    rfl
  · simp [HubLoop.connectBridge, HubLoop.newLink, HubLoop.send, stopped]
  · intro bridge link command ticket func args
    rw [unheard]
    rfl

end Ended

/-! ## Over a run -/

/-- How a hub ends: there is one way to stop.  A call that was handed to a client is answered with
a response that the client was told while it was open, or with the failure of its request. -/
structure Concluded (options : ClientId → ConnectionOptions) (moves : List HubMove) : Prop where
  stops : ∀ windowOpens, (run options moves).loop.next? = some .shutdown →
    Stops (run options moves) windowOpens
  only : ∀ move, (run options moves).loop.isRunning = true →
    ((run options moves).step move).loop.isRunning = false →
      ∃ windowOpens, move = .take windowOpens ∧ (run options moves).loop.next? = some .shutdown
  ended : (run options moves).loop.isRunning = false → Ended options moves
  once : ∀ number, ((run options moves).answersTo number).length ≤ 1
  answers : ∀ number call, (run options moves).calls[number]? = some call →
    ∀ task ∈ (run options moves).tasksFor number,
    ∀ link command, (link, command) ∈ (run options moves).answersTo number →
      link = Link.numbered call.link ∧
      ((∃ failure : Failure,
        command = .answer call.id 503 (Relay.errorBody failure.message)) ∨
      ∃ response earlier move, command = .answer call.id response.status response.body ∧
        earlier ++ [move] <+: moves ∧
        ((run options earlier).clients task.client).connection.stopped = false ∧
        ((run options (earlier ++ [move])).clients task.client).outcome? task.ticket =
          some (.ok response))

theorem run_answers (moves : List HubMove) {number : Nat} {call : Call}
    (taken : (run options moves).calls[number]? = some call) {task : RelayTask}
    (among : task ∈ (run options moves).tasksFor number) {link : Link} {command : HubCommand}
    (answered : (link, command) ∈ (run options moves).answersTo number) :
    link = Link.numbered call.link ∧
      ((∃ failure : Failure,
        command = .answer call.id 503 (Relay.errorBody failure.message)) ∨
      ∃ response earlier move, command = .answer call.id response.status response.body ∧
        earlier ++ [move] <+: moves ∧
        ((run options earlier).clients task.client).connection.stopped = false ∧
        ((run options (earlier ++ [move])).clients task.client).outcome? task.ticket =
          some (.ok response)) := by
  cases (run_sound options moves).fates number call taken with
  | unauthenticated _ unasked | malformed _ _ _ _ unasked =>
      rw [unasked] at among
      cases among
  | waiting _ _ _ unanswered =>
      rw [unanswered] at answered
      cases answered
  | served client ticket response asked outcome posted =>
      rw [posted] at answered
      rw [asked.only] at among
      cases List.mem_singleton.1 answered
      cases List.mem_singleton.1 among
      obtain ⟨earlier, move, before, isOpen, told⟩ := run_response moves outcome
      exact ⟨rfl, .inr ⟨response, earlier, move, rfl, before, isOpen, told⟩⟩
  | failed client ticket failure asked outcome posted =>
      rw [posted] at answered
      cases List.mem_singleton.1 answered
      exact ⟨rfl, .inl ⟨failure, rfl⟩⟩

theorem run_concluded (options : ClientId → ConnectionOptions) (moves : List HubMove) :
    Concluded options moves where
  stops := fun windowOpens =>
    stops_of_next windowOpens (run_sound options moves) (run_owned options moves)
  only := by
    intro move running stopped
    rcases (stopped_step_iff move).1 stopped with before | stops
    · rw [running] at before
      cases before
    · exact stops
  ended := run_ended
  once := (run_sound options moves).faithful.once
  answers := fun _ _ taken _ among _ _ => run_answers moves taken among

end Switchboard

end BookmarkHub
