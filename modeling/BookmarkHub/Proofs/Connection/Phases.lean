import BookmarkHub.Proofs.Connection.Coherence

/-!
# The way of the phase

Whatever an open connection is told takes its phase along four edges only.
-/

set_option autoImplicit false

namespace BookmarkHub

namespace Connection

inductive Edge : Phase → Phase → Prop where
  | dial : Edge .disconnected .connecting
  | succeed : Edge .connecting .connected
  | fail : Edge .connecting .disconnected
  | lose : Edge .connected .disconnected

/-- From one phase to another through the phases that are entered, along edges only. -/
def Path : Phase → List Phase → Phase → Prop
  | first, [], last => first = last
  | first, next :: rest, last => Edge first next ∧ Path next rest last

theorem path_append {first middle last : Phase} {left right : List Phase}
    (before : Path first left middle) (after : Path middle right last) :
    Path first (left ++ right) last := by
  induction left generalizing first with
  | nil =>
      cases before
      exact after
  | cons next rest ih => exact ⟨before.1, ih before.2⟩

/-- What is done to a connection takes its phase along edges. -/
def Walks (connection : Connection) (handled : Handled) : Prop :=
  Path connection.phase (Trace.entered handled.2) handled.1.phase

section Walks
variable (around : Surroundings) {connection : Connection}

theorem walks_none : Walks connection (connection, []) := rfl

theorem walks_andThen {first : Handled} {next : Connection → Handled}
    (before : Walks connection first) (after : Walks first.1 (next first.1)) :
    Walks connection (andThen first next) := by
  simp only [Walks, andThen, Trace.entered_append]
  exact path_append before after

theorem walks_tell {effects : Trace} {next : Connection → Handled} (told : effects.entered = [])
    (after : Walks connection (next connection)) :
    Walks connection (andThen (connection, effects) next) := by
  simpa only [Walks, andThen, Trace.entered_append, told, List.nil_append] using after

variable (connection) in
theorem startConnect_walks : Walks connection (startConnect connection) := by
  by_cases idle : connection.phase = .disconnected
  · rw [Walks, startConnect_of_disconnected connection idle, idle]
    exact ⟨.dial, rfl⟩
  · rw [Walks, startConnect_of_busy connection idle]
    rfl

variable (connection) in
theorem failConnect_walks (connecting : connection.phase = .connecting) :
    Walks connection (failConnect around connection) := by
  obtain ⟨timer, backoff, failed⟩ := failConnect_eq around connection
  rw [Walks, failed, connecting]
  exact ⟨.fail, rfl⟩

variable (connection) in
theorem loseSocket_walks (isOpen : connection.phase = .connected) :
    Walks connection (loseSocket around connection) := by
  obtain ⟨timer, backoff, lost⟩ := loseSocket_eq around connection
  have entered : Trace.entered (loseSocket around connection).2 = [.disconnected] := by
    rw [lost]
    simp
  rw [Walks, entered, loseSocket_phase, isOpen]
  exact ⟨.lose, rfl⟩

theorem transmit_walks (standing : Standing connection) (queued : Queued)
    (isOpen : connection.phase = .connected) :
    Walks connection (transmit around queued connection) := by
  obtain ⟨socket, held, _⟩ := standing.socket isOpen
  rcases transmit_cases around connection queued held with
    ⟨delay, pacing, waits⟩ | ⟨_, written⟩ | ⟨_, lost⟩
  · rw [Walks, waits]
    rfl
  · rw [Walks, written]
    rfl
  · rw [Walks, lost]
    exact loseSocket_walks around (numbered queued connection) isOpen

theorem flush_walks (queue : List Queued) (standing : Standing connection)
    (isOpen : connection.phase = .connected) :
    Walks connection (flush around queue connection) := by
  induction queue generalizing connection with
  | nil =>
      have nobody : Trace.entered (flush around [] connection).2 = [] := by
        simp only [flush]
        induction connection.listeners with
        | nil => rfl
        | cons listener rest ih => simpa using ih
      rw [Walks, nobody]
      rfl
  | cons first rest ih =>
      have stands := standing.withQueue rest
      refine walks_andThen (transmit_walks around stands first isOpen) ?_
      rcases transmit_standing around stands first isOpen with
        ⟨stillStands, stillOpen, _⟩ | ⟨_, lost⟩
      · simp only [stillOpen]
        exact ih stillStands stillOpen
      · simp only [lost]
        exact walks_none

theorem takeSocket_walks (coherent : Coherent connection)
    (dialing : connection.dialing = true) :
    Walks connection (takeSocket around { connection with dialing := false }) := by
  have connecting := coherent.dialing.1 dialing
  rw [takeSocket_eq]
  refine walks_andThen ?_ (flush_walks around _ (adopted_standing coherent connecting) rfl)
  rw [Walks, connecting]
  exact ⟨.succeed, rfl⟩

theorem releasePaced_walks (coherent : Coherent connection) :
    Walks connection (releasePaced around { connection with paceTimer := none }) := by
  by_cases nobody : connection.paced = []
  · rw [releasePaced_of_none around { connection with paceTimer := none } nobody]
    rfl
  · obtain ⟨first, rest, oldest⟩ := List.exists_cons_of_ne_nil nobody
    have isOpen := coherent.isOpen_of_paced nobody
    obtain ⟨socket, held, _⟩ := coherent.socket isOpen
    rcases releasePaced_cases around { connection with paceTimer := none } oldest held rfl with
      ⟨_, written⟩ | ⟨_, lost⟩ | ⟨_, skipped⟩
    · rw [written]
      rfl
    · rw [lost]
      exact loseSocket_walks around { connection with paceTimer := none } isOpen
    · rw [skipped]
      rfl

theorem dispatch_walks (text : String) : Walks connection (dispatch text connection) := by
  rcases dispatch_cases connection text with dropped | ⟨response, ticket, _, _, answered⟩
  · rw [dropped]
    exact walks_none
  · rw [answered]
    rfl

/-- Whatever a connection is told, its phase goes along edges; only closing it may
also end in the phase where it began. -/
theorem handle_walks (coherent : Coherent connection) (event : ConnectionEvent)
    (goesOn : event ≠ .close) : Walks connection (handle around event connection) := by
  cases event with
  | connect => exact startConnect_walks connection
  | submit ticket request =>
      refine walks_tell rfl ?_
      by_cases isOpen : connection.phase = .connected
      · simp only [isOpen]
        exact transmit_walks around coherent.toStanding _ isOpen
      · simp only
        exact startConnect_walks
          { connection with queue := connection.queue ++ [⟨ticket, request⟩] }
  | listen listener => rfl
  | count caller => rfl
  | close => exact absurd rfl goesOn
  | opened =>
      simp only [handle]
      split
      · rename_i dialing
        exact takeSocket_walks around coherent dialing
      · exact walks_none
  | refused =>
      simp only [handle]
      split
      · rename_i dialing
        exact failConnect_walks around { connection with dialing := false }
          (coherent.dialing.1 dialing)
      · exact walks_none
  | frame text =>
      simp only [handle]
      split
      · rename_i socket held
        exact walks_tell rfl (dispatch_walks text)
      · exact walks_none
  | ended =>
      simp only [handle]
      split
      · rename_i held
        obtain ⟨socket, held⟩ := Option.isSome_iff_exists.1 held
        exact loseSocket_walks around connection (coherent.isOpen_of_reader held)
      · exact walks_none
  | retryDue =>
      simp only [handle]
      split
      · exact startConnect_walks { connection with retryTimer := none }
      · exact walks_none
  | paceDue =>
      simp only [handle]
      split
      · exact releasePaced_walks around coherent
      · exact walks_none

end Walks

end Connection

end BookmarkHub
