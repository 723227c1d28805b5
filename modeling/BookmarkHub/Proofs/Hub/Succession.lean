import BookmarkHub.Proofs.Hub.Custody
import Mathlib.Data.List.ReduceOption

/-!
# One client after another

A hub has the client that was given to it last, and closes every client that it
had before.  Whoever hands a client a request after it was closed is refused,
and no client refuses before it was closed.  A hub does not look whether the
client that it is given is the one that it has: a client that takes its own
place is closed and stays.
-/

set_option autoImplicit false

namespace BookmarkHub

def closing? : ClientId × Happening → Option ClientId
  | (client, .close) => some client
  | _ => none

theorem closing?_of_handed {effect : HubEffect} {client : ClientId} {happening : Happening}
    (handed : effect.handed? = some (client, happening)) (closes : happening.closes = true) :
    closing? (client, happening) = some client := by
  cases effect <;> cases handed
  · cases closes
  · rfl

namespace Switchboard

/-! ## What a run shows -/

/-- What the moves of a run show, one after another. -/
def gather {Seen : Type} (see : Switchboard → HubMove → List Seen) :
    Switchboard → List HubMove → List Seen
  | _, [] => []
  | board, move :: moves => see board move ++ gather see (board.step move) moves

theorem gather_snoc {Seen : Type} (see : Switchboard → HubMove → List Seen)
    (board : Switchboard) (moves : List HubMove) (move : HubMove) :
    gather see board (moves ++ [move]) =
      gather see board moves ++ see (moves.foldl step board) move := by
  induction moves generalizing board with
  | nil => exact List.append_nil _
  | cons first rest ih =>
      rw [List.cons_append, gather, ih, gather, List.append_assoc]
      rfl

def closes (board : Switchboard) (move : HubMove) : List ClientId :=
  ((board.deeds move).filterMap HubEffect.handed?).filterMap closing?

section Run
variable (options : ClientId → ConnectionOptions)

/-- The clients that were given to the hub, and none where it was told to have none. -/
def givenClients (moves : List HubMove) : List (Option ClientId) :=
  gather (fun board move => (board.installs? move).toList) (start options) moves

def closedClients (moves : List HubMove) : List ClientId :=
  gather closes (start options) moves

variable (moves : List HubMove) (move : HubMove)

theorem givenClients_snoc : givenClients options (moves ++ [move]) =
    givenClients options moves ++ ((run options moves).installs? move).toList :=
  gather_snoc _ _ _ _

theorem closedClients_snoc : closedClients options (moves ++ [move]) =
    closedClients options moves ++ (run options moves).closes move :=
  gather_snoc _ _ _ _

end Run

/-! ## What one move closes -/

section Step
variable {options : ClientId → ConnectionOptions} {board : Switchboard} {move : HubMove}

theorem closes_of_installs {client : Option ClientId}
    (installs : board.installs? move = some client) :
    board.closes move = board.loop.hub.client.toList := by
  rw [closes, (step_installs installs).2]
  cases board.loop.hub.client <;> rfl

theorem closes_of_kept (sound : Sound options board) (kept : board.installs? move = none) :
    board.closes move = [] := by
  have hands := (step_hands sound kept).2
  rw [closes]
  generalize board.deeds move = deeds at hands
  cases hands with
  | nothing unhanded => rw [List.filterMap_eq_nil_iff.2 unhanded, List.filterMap_nil]
  | request client relay operation loggedIn => rfl

theorem handAll_spared {handed : List (ClientId × Happening)} {clients : Clients}
    {client : ClientId} (kept : Kept (clients client)) (spared : Spared (clients client))
    (goesOn : ∀ happening, (client, happening) ∈ handed → happening.closes = false) :
    Spared (handed.foldl handOver clients client) := by
  induction handed generalizing clients with
  | nil => exact spared
  | cons first rest ih =>
      refine ih (kept.reaches (handOver_reaches clients first client)) ?_
        fun happening member => goesOn happening (List.mem_cons_of_mem _ member)
      by_cases same : client = first.1
      · subst same
        rw [handOver, Function.update_self]
        exact spared.extend kept _ (goesOn _ (List.mem_cons_self ..))
      · rwa [handOver, Function.update_of_ne same]

theorem step_spared (sound : Sound options board) {client : ClientId}
    (spared : Spared (board.clients client)) (unclosed : client ∉ board.closes move)
    (goesOn : ∀ moment, move = .client client moment → moment.happening.closes = false) :
    Spared ((board.step move).clients client) := by
  have kept := sound.kept client
  rcases board.step_clients move with ⟨told, moment, rfl⟩ | clients
  · by_cases same : client = told
    · subst same
      simp only [step, tellClient, Function.update_self]
      exact spared.extend kept moment (goesOn moment rfl)
    · simpa only [step, tellClient, Function.update_of_ne same] using spared
  · rw [clients]
    refine handAll_spared kept spared fun happening member => ?_
    rw [← Bool.not_eq_true]
    intro closes
    obtain ⟨effect, among, handed⟩ := List.mem_filterMap.1 member
    exact unclosed (List.mem_filterMap.2 ⟨_, member, closing?_of_handed handed closes⟩)

end Step

/-! ## Over a run -/

/-- A client was closed, by the hub or by somebody else who has it. -/
def WasClosed (options : ClientId → ConnectionOptions) (moves : List HubMove)
    (client : ClientId) : Prop :=
  client ∈ closedClients options moves ∨
    ∃ moment, .client client moment ∈ moves ∧ moment.happening.closes = true

/-- Which client a hub has, and what became of those that it had.  All that were given before the
last were closed in their order, and refuse whatever is handed to them from then on.  A move that
gives the hub another client leaves that one alone. -/
structure Succeeded (options : ClientId → ConnectionOptions) (moves : List HubMove) : Prop where
  current : (run options moves).loop.hub.client = (givenClients options moves).getLast?.join
  closed : closedClients options moves = (givenClients options moves).dropLast.reduceOption
  replaced : ∀ client, some client ∈ givenClients options moves →
    (run options moves).loop.hub.client ≠ some client → client ∈ closedClients options moves
  closing : ∀ client ∈ closedClients options moves, ((run options moves).clients client).IsClosing
  welcome : ∀ move client, (run options moves).installs? move = some (some client) →
    (run options moves).loop.hub.client ≠ some client →
      ((run options moves).step move).clients client = (run options moves).clients client
  refuses : ∀ client ∈ closedClients options moves, ∀ (more : List HubMove) (ticket : Ticket)
    (outcome : Outcome), ((run options moves).clients client).requests.length ≤ ticket →
      ((run options (moves ++ more)).clients client).outcome? ticket = some outcome →
        outcome = .error .closed
  spared : ∀ client, ¬ WasClosed options moves client → Spared ((run options moves).clients client)
  relays : ∀ number call task, (run options moves).calls[number]? = some call →
    task ∈ (run options moves).tasksFor number →
    (Link.numbered call.link, .answer call.id Relay.unavailable
      (Relay.errorBody Failure.closed.message)) ∈ (run options moves).answersTo number →
    WasClosed options moves task.client ∨ ∃ response : Response,
      response.status = Relay.unavailable ∧
        ((run options moves).clients task.client).outcome? task.ticket = some (.ok response)

section Succeeded
variable (options : ClientId → ConnectionOptions) (moves : List HubMove)

theorem run_installed :
    (run options moves).loop.hub.client = (givenClients options moves).getLast?.join := by
  induction moves using List.reverseRecOn with
  | nil => rfl
  | append_singleton earlier move ih =>
      rw [run_snoc, givenClients_snoc]
      cases installs : (run options earlier).installs? move with
      | none =>
          rw [(step_hands (run_sound options earlier) installs).1, ih, Option.toList_none,
            List.append_nil]
      | some client =>
          rw [(step_installs installs).1, Option.toList_some, List.getLast?_append_cons]
          rfl

theorem reduceOption_dropLast (clients : List (Option ClientId)) :
    clients.dropLast.reduceOption ++ clients.getLast?.join.toList = clients.reduceOption := by
  induction clients using List.reverseRecOn with
  | nil => rfl
  | append_singleton earlier last _ =>
      rw [List.dropLast_concat, List.getLast?_concat, List.reduceOption_append,
        List.reduceOption_singleton]
      rfl

theorem run_closed :
    closedClients options moves = (givenClients options moves).dropLast.reduceOption := by
  induction moves using List.reverseRecOn with
  | nil => rfl
  | append_singleton earlier move ih =>
      rw [closedClients_snoc, givenClients_snoc, ih]
      cases installs : (run options earlier).installs? move with
      | none =>
          rw [closes_of_kept (run_sound options earlier) installs, Option.toList_none,
            List.append_nil, List.append_nil]
      | some client =>
          rw [closes_of_installs installs, run_installed, reduceOption_dropLast,
            Option.toList_some, List.dropLast_concat]

theorem run_replaced (client : ClientId) (given : some client ∈ givenClients options moves)
    (another : (run options moves).loop.hub.client ≠ some client) :
    client ∈ closedClients options moves := by
  have among := List.reduceOption_mem_iff.2 given
  rw [← reduceOption_dropLast, List.mem_append, ← run_closed, ← run_installed] at among
  exact among.resolve_right fun current => another (Option.mem_toList.1 current)

theorem run_closing (client : ClientId) (closed : client ∈ closedClients options moves) :
    ((run options moves).clients client).IsClosing := by
  induction moves using List.reverseRecOn with
  | nil => cases closed
  | append_singleton earlier move ih =>
      rw [closedClients_snoc] at closed
      rw [run_snoc]
      rcases List.mem_append.1 closed with before | now
      · exact ((run options earlier).step_reaches move client).closing (ih before)
      · cases installs : (run options earlier).installs? move with
        | none =>
            rw [closes_of_kept (run_sound options earlier) installs] at now
            cases now
        | some other =>
            rw [closes_of_installs installs] at now
            exact (step_replaces installs client).1 (Option.mem_toList.1 now)

theorem run_refuses (client : ClientId) (closed : client ∈ closedClients options moves)
    (more : List HubMove) (ticket : Ticket) (outcome : Outcome)
    (later : ((run options moves).clients client).requests.length ≤ ticket)
    (told : ((run options (moves ++ more)).clients client).outcome? ticket = some outcome) :
    outcome = .error .closed := by
  have kept := (run_sound options moves).kept client
  exact kept.refused (run_closing options moves client closed) later
    (run_reaches options moves more client) told

theorem run_spared (client : ClientId) (unclosed : ¬ WasClosed options moves client) :
    Spared ((run options moves).clients client) := by
  induction moves using List.reverseRecOn with
  | nil => exact start_spared (options client)
  | append_singleton earlier move ih =>
      rw [WasClosed, closedClients_snoc, List.mem_append] at unclosed
      rw [run_snoc]
      have before : ¬ WasClosed options earlier client := by
        rintro (closed | ⟨moment, member, closes⟩)
        · exact unclosed (.inl (.inl closed))
        · exact unclosed (.inr ⟨moment, List.mem_append_left _ member, closes⟩)
      refine step_spared (run_sound options earlier) (ih before)
        (fun closed => unclosed (.inl (.inr closed))) fun moment moved => ?_
      rw [← Bool.not_eq_true]
      intro closes
      exact unclosed (.inr ⟨moment, by simp [moved], closes⟩)

/-- A call is answered that its client is closed when that was told, or when the server says
just that. -/
theorem run_relays (number : Nat) (call : Call) (task : RelayTask)
    (taken : (run options moves).calls[number]? = some call)
    (among : task ∈ (run options moves).tasksFor number)
    (answered : (Link.numbered call.link, .answer call.id Relay.unavailable
      (Relay.errorBody Failure.closed.message)) ∈ (run options moves).answersTo number) :
    WasClosed options moves task.client ∨ ∃ response : Response,
      response.status = Relay.unavailable ∧
        ((run options moves).clients task.client).outcome? task.ticket = some (.ok response) := by
  have sound := run_sound options moves
  cases sound.fates number call taken with
  | unauthenticated _ unasked | malformed _ _ _ _ unasked =>
      rw [unasked] at among
      cases among
  | waiting _ _ _ unanswered =>
      rw [unanswered] at answered
      cases answered
  | served client ticket response asked outcome posted =>
      rw [posted] at answered
      rw [asked.only] at among
      cases List.mem_singleton.1 among
      have same := List.mem_singleton.1 answered
      refine .inr ⟨response, ?_, outcome⟩
      injection same with _ same
      injection same with _ status _
      exact status.symm
  | failed client ticket failure asked outcome posted =>
      rw [posted] at answered
      rw [asked.only] at among
      cases List.mem_singleton.1 among
      left
      have same := (Prod.ext_iff.1 (List.mem_singleton.1 answered)).2
      obtain ⟨_, _, body⟩ := HubCommand.answer.inj same
      simp only [Relay.errorBody, Json.record.injEq, List.cons.injEq, Prod.mk.injEq,
        Json.text.injEq, true_and, and_true] at body
      rcases (sound.kept client).failure outcome with rfl | rfl
      · -- the message tells a connection that was lost from a closed one
        exact absurd body (by decide)
      · by_contra unclosed
        exact (run_spared options moves client unclosed).outcome ticket outcome

end Succeeded

theorem run_succeeded (options : ClientId → ConnectionOptions) (moves : List HubMove) :
    Succeeded options moves where
  current := run_installed options moves
  closed := run_closed options moves
  replaced := run_replaced options moves
  closing := run_closing options moves
  welcome := fun _ client installs => (step_replaces installs client).2
  refuses := run_refuses options moves
  spared := run_spared options moves
  relays := run_relays options moves

/-- The client of the hub is given to it once more, and then a call is relayed. -/
def reattached : List HubMove :=
  [.ask (.setClient (some 0)), .take true, .connectBridge, .take true,
    .ask (.setClient (some 0)), .take true, .sendMessage 1 (.relay 7 "getTagsTree" []), .take true,
    .client 0 ⟨.timely 0 0 fun _ => true, .take⟩, .wake 0]

theorem reattached_posted : (run (fun _ => {}) reattached).posted =
    [⟨some 0, Link.numbered 1, .answer 7 503 (Relay.errorBody "connection closed")⟩] := by
  rfl

/-- Nobody else has closed it, and the call is refused. -/
theorem reattached_refused : ¬ ((∀ client,
      (run (fun _ => {}) reattached).loop.hub.client = some client →
        client ∉ closedClients (fun _ => {}) reattached) ∨
    (Link.numbered 1, .answer 7 503 (Relay.errorBody "connection closed")) ∉
      (run (fun _ => {}) reattached).answersTo 0) := by
  rintro (unclosed | unrefused)
  · exact unclosed 0 rfl (List.mem_singleton_self 0)
  · refine unrefused ?_
    rw [answersTo, reattached_posted]
    exact List.mem_singleton_self _

end Switchboard

end BookmarkHub
