import BookmarkHub.Proofs.Hub.Switchboard
import Mathlib.Data.List.Nodup

/-!
# What becomes of a call

A call is refused at once when there is no client or no such operation.
Otherwise one request is handed to the client, and its outcome is the answer.
Whatever relays nothing leaves the fate of every call alone.
-/

set_option autoImplicit false

namespace BookmarkHub

def HubCommand.isAnswer : HubCommand → Bool
  | .answer _ _ _ => true
  | _ => false

/-- The answer that a post is, if the call with a number caused it. -/
def Posted.answerTo? (number : Nat) (posted : Posted) : Option (Link × HubCommand) :=
  if posted.cause = some number ∧ posted.command.isAnswer = true then
    some (posted.link, posted.command)
  else none

namespace Switchboard

def answersTo (number : Nat) (board : Switchboard) : List (Link × HubCommand) :=
  board.posted.filterMap (·.answerTo? number)

def tasksFor (number : Nat) (board : Switchboard) : List RelayTask :=
  board.tasks.filter (·.cause = some number)

/-- One request was handed in for a call, to the client that there was, and it is the
request of the operation that was called. -/
structure Asked (board : Switchboard) (number : Nat) (call : Call) (client : ClientId)
    (ticket : Ticket) (isDone : Bool) : Prop where
  loggedIn : call.client = some client
  request : ∃ operation, Operation.ofCall call.func call.args = .ok operation ∧
    (board.clients client).requests[ticket]? = some operation.toRequest
  only : board.tasksFor number =
    [⟨some number, ⟨Link.numbered call.link, call.id⟩, client, ticket, isDone⟩]

inductive Fate (board : Switchboard) (number : Nat) (call : Call) : Prop where
  | unauthenticated (nobody : call.client = none) (unasked : board.tasksFor number = [])
      (answered : board.answersTo number = [(Link.numbered call.link,
        .answer call.id 401 (Relay.errorBody "not authenticated"))])
  | malformed (client : ClientId) (error : CallError) (loggedIn : call.client = some client)
      (rejected : Operation.ofCall call.func call.args = .error error)
      (unasked : board.tasksFor number = [])
      (answered : board.answersTo number = [(Link.numbered call.link,
        .answer call.id 400 (Relay.errorBody error.message))])
  | waiting (client : ClientId) (ticket : Ticket)
      (asked : Asked board number call client ticket false)
      (unanswered : board.answersTo number = [])
  | served (client : ClientId) (ticket : Ticket) (response : Response)
      (asked : Asked board number call client ticket true)
      (outcome : (board.clients client).outcome? ticket = some (.ok response))
      (answered : board.answersTo number = [(Link.numbered call.link,
        .answer call.id response.status response.body)])
  | failed (client : ClientId) (ticket : Ticket) (failure : Failure)
      (asked : Asked board number call client ticket true)
      (outcome : (board.clients client).outcome? ticket = some (.error failure))
      (answered : board.answersTo number = [(Link.numbered call.link,
        .answer call.id 503 (Relay.errorBody failure.message))])

/-! ## What changes no fate -/

section Fate
variable {board after : Switchboard} {number : Nat} {call : Call}

theorem Asked.carry {client : ClientId} {ticket : Ticket} {isDone : Bool}
    (asked : Asked board number call client ticket isDone)
    (tasks : after.tasksFor number = board.tasksFor number)
    (clients : ∀ client, (board.clients client).Reaches (after.clients client)) :
    Asked after number call client ticket isDone := by
  obtain ⟨operation, accepted, handedIn⟩ := asked.request
  exact ⟨asked.loggedIn, ⟨operation, accepted, (clients client).request handedIn⟩,
    tasks.trans asked.only⟩

theorem Fate.carry (fate : Fate board number call)
    (answers : after.answersTo number = board.answersTo number)
    (tasks : after.tasksFor number = board.tasksFor number)
    (clients : ∀ client, (board.clients client).Reaches (after.clients client)) :
    Fate after number call := by
  cases fate with
  | unauthenticated nobody unasked answered =>
      exact .unauthenticated nobody (tasks.trans unasked) (answers.trans answered)
  | malformed client error loggedIn rejected unasked answered =>
      exact .malformed client error loggedIn rejected (tasks.trans unasked)
        (answers.trans answered)
  | waiting client ticket asked unanswered =>
      exact .waiting client ticket (asked.carry tasks clients) (answers.trans unanswered)
  | served client ticket response asked outcome answered =>
      exact .served client ticket response (asked.carry tasks clients)
        ((clients client).outcome outcome) (answers.trans answered)
  | failed client ticket failure asked outcome answered =>
      exact .failed client ticket failure (asked.carry tasks clients)
        ((clients client).outcome outcome) (answers.trans answered)

end Fate

/-- What is so of a hub with its clients. -/
structure Sound (options : ClientId → ConnectionOptions) (board : Switchboard) : Prop where
  filed : board.loop.Filed
  clients : ∀ client, ∃ moments, board.clients client = History.run (options client) moments
  posted : ∀ posted ∈ board.posted, posted.command.isAnswer = true →
    ∃ number < board.calls.length, posted.cause = some number
  tasks : ∀ task ∈ board.tasks, (∃ number < board.calls.length, task.cause = some number) ∧
    task.ticket < (board.clients task.client).requests.length
  distinct : (board.tasks.map fun task => (task.client, task.ticket)).Nodup
  fates : ∀ number call, board.calls[number]? = some call → Fate board number call

/-- Nothing was relayed, and no call was taken. -/
structure Onward (before after : Switchboard) : Prop where
  calls : after.calls = before.calls
  tasks : after.tasks = before.tasks
  posted : ∃ more, after.posted = before.posted ++ more ∧
    ∀ posted ∈ more, posted.command.isAnswer = false
  clients : ∀ client, (before.clients client).Reaches (after.clients client)

section Onward
variable {before middle after : Switchboard}

theorem onward_same (calls : after.calls = before.calls) (tasks : after.tasks = before.tasks)
    (posted : after.posted = before.posted) (clients : after.clients = before.clients) :
    Onward before after :=
  ⟨calls, tasks, ⟨[], by rw [posted, List.append_nil], by simp⟩, fun client => by
    rw [clients]
    exact .refl⟩

theorem Onward.trans (first : Onward before middle) (second : Onward middle after) :
    Onward before after := by
  obtain ⟨more, posted, silent⟩ := first.posted
  obtain ⟨later, postedLater, silentLater⟩ := second.posted
  refine ⟨second.calls.trans first.calls, second.tasks.trans first.tasks,
    ⟨more ++ later, ?_, ?_⟩, fun client => (first.clients client).trans (second.clients client)⟩
  · rw [postedLater, posted, List.append_assoc]
  · intro posted member
    exact (List.mem_append.1 member).elim (silent posted) (silentLater posted)

theorem tellClient_reaches (board : Switchboard) (told : ClientId) (moment : Moment)
    (client : ClientId) :
    (board.clients client).Reaches ((board.tellClient told moment).clients client) := by
  by_cases same : client = told
  · subst same
    simp only [tellClient, Function.update_self]
    exact .extend .refl moment
  · simp only [tellClient, Function.update_of_ne same]
    exact .refl

theorem tellClient_onward (board : Switchboard) (client : ClientId) (moment : Moment) :
    Onward board (board.tellClient client moment) :=
  ⟨rfl, rfl, ⟨[], (List.append_nil _).symm, by simp⟩, board.tellClient_reaches client moment⟩

theorem answersTo_silent {number : Nat} {more : List Posted}
    (silent : ∀ posted ∈ more, posted.command.isAnswer = false) :
    more.filterMap (·.answerTo? number) = [] := by
  refine List.filterMap_eq_nil_iff.2 fun posted member => ?_
  simp [Posted.answerTo?, silent posted member]

theorem Onward.answersTo (onward : Onward before after) (number : Nat) :
    after.answersTo number = before.answersTo number := by
  obtain ⟨more, posted, silent⟩ := onward.posted
  rw [Switchboard.answersTo, posted, List.filterMap_append, answersTo_silent silent,
    List.append_nil]
  rfl

theorem Onward.sound {options : ClientId → ConnectionOptions} (onward : Onward before after)
    (sound : Sound options before) (filed : after.loop.Filed) : Sound options after := by
  obtain ⟨more, posted, silent⟩ := onward.posted
  refine ⟨filed, fun client => (onward.clients client).run (sound.clients client), ?_, ?_, ?_, ?_⟩
  · intro entry member answer
    rw [posted] at member
    rw [onward.calls]
    rcases List.mem_append.1 member with earlier | later
    · exact sound.posted entry earlier answer
    · rw [silent entry later] at answer
      cases answer
  · intro task member
    rw [onward.tasks] at member
    rw [onward.calls]
    obtain ⟨caused, handedIn⟩ := sound.tasks task member
    exact ⟨caused, Nat.lt_of_lt_of_le handedIn (onward.clients task.client).length_le⟩
  · rw [onward.tasks]
    exact sound.distinct
  · intro number call taken
    rw [onward.calls] at taken
    refine (sound.fates number call taken).carry (onward.answersTo number) ?_ onward.clients
    simp only [tasksFor, onward.tasks]

theorem apply_onward (board : Switchboard) (cause : Option Nat) {effect : HubLoopEffect}
    (unrelayed : effect.IsUnrelayed) : Onward board (board.apply cause effect) := by
  rcases effect with effect | page | answer
  · cases effect with
    | post link command =>
        refine ⟨rfl, rfl, ⟨[⟨cause, link, command⟩], rfl, ?_⟩, fun client => .refl⟩
        intro posted member
        cases List.mem_singleton.1 member
        cases command with
        | answer id status body => exact unrelayed.elim
        | _ => rfl
    | submit client relay operation => exact unrelayed.elim
    | closeClient client => exact board.tellClient_onward client _
    | window request => exact onward_same rfl rfl rfl rfl
  · exact onward_same rfl rfl rfl rfl
  · exact onward_same rfl rfl rfl rfl

theorem apply_keeps (board : Switchboard) (cause : Option Nat) (effect : HubLoopEffect) :
    (board.apply cause effect).loop = board.loop ∧
      (board.apply cause effect).calls = board.calls := by
  rcases effect with effect | page | answer
  · cases effect <;> exact ⟨rfl, rfl⟩
  · exact ⟨rfl, rfl⟩
  · exact ⟨rfl, rfl⟩

theorem applyAll_keeps (cause : Option Nat) (effects : List HubLoopEffect)
    (board : Switchboard) :
    (effects.foldl (apply cause) board).loop = board.loop ∧
      (effects.foldl (apply cause) board).calls = board.calls := by
  induction effects generalizing board with
  | nil => exact ⟨rfl, rfl⟩
  | cons effect rest ih =>
      obtain ⟨loop, calls⟩ := board.apply_keeps cause effect
      obtain ⟨loopLater, callsLater⟩ := ih (board.apply cause effect)
      exact ⟨loopLater.trans loop, callsLater.trans calls⟩

theorem applyAll_onward (cause : Option Nat) {effects : List HubLoopEffect}
    (unrelayed : ∀ effect ∈ effects, effect.IsUnrelayed) (board : Switchboard) :
    Onward board (effects.foldl (apply cause) board) := by
  induction effects generalizing board with
  | nil => exact onward_same rfl rfl rfl rfl
  | cons effect rest ih =>
      have first := board.apply_onward cause (unrelayed effect (List.mem_cons_self ..))
      have later := ih (fun other member => unrelayed other (List.mem_cons_of_mem _ member))
        (board.apply cause effect)
      exact first.trans later

/-- Whatever the hub does without relaying keeps everything sound. -/
theorem perform_sound {options : ClientId → ConnectionOptions} {board : Switchboard}
    (sound : Sound options board) (cause : Option Nat) {handled : HubLoop.Handled}
    (quiet : HubLoop.Quiet handled) : Sound options (board.perform cause handled) := by
  have begun : Onward board { board with loop := handled.1 } := onward_same rfl rfl rfl rfl
  have onward := applyAll_onward cause quiet.unrelayed { board with loop := handled.1 }
  have sameLoop := (applyAll_keeps cause handled.2 { board with loop := handled.1 }).1
  refine (begun.trans onward).sound sound ?_
  rw [sameLoop]
  exact quiet.filed

theorem loop_sound {options : ClientId → ConnectionOptions} {board : Switchboard}
    (sound : Sound options board) {loop : HubLoop} (filed : loop.Filed) :
    Sound options { board with loop } :=
  (onward_same rfl rfl rfl rfl : Onward board { board with loop }).sound sound filed

end Onward

end Switchboard

end BookmarkHub
