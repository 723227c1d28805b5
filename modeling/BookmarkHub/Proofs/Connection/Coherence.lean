import BookmarkHub.Proofs.Connection.Handlers

/-!
# The parts of a connection agree

The phase, the attempt in flight, the socket, the two timers and the places
where requests wait are kept apart, and every handler changes them one by one.
`Standing` says how they agree in the middle of a handler, and `Coherent` what
is added between two handlers.
-/

set_option autoImplicit false

namespace BookmarkHub

namespace Connection

/-- How the parts of a connection agree, also while a handler is at work. -/
structure Standing (connection : Connection) : Prop where
  running : connection.stopped = false
  dialing : connection.dialing = true ↔ connection.phase = .connecting
  held : connection.phase = .connected ↔
    connection.writer.isSome = true ∧ connection.reader.isSome = true
  same : connection.reader = connection.writer
  retry : connection.retryTimer.isSome = true → connection.phase = .disconnected
  pending : connection.phase ≠ .connected → connection.pending = Table.empty
  paced : connection.phase ≠ .connected → connection.paced = []
  timer : connection.paceTimer = connection.paced.head?.map Paced.deadline
  unpaced : connection.options.pacing = none → connection.paced = []

/-- How the parts of a connection agree between two handlers. -/
structure Coherent (connection : Connection) : Prop extends Standing connection where
  queue : connection.phase = .connected → connection.queue = []

theorem coherent_create (options : ConnectionOptions) : Coherent (create options) := by
  constructor
  · constructor <;> simp [create]
  · simp [create]

section Standing
variable {connection : Connection}

theorem Standing.socket (standing : Standing connection) (isOpen : connection.phase = .connected) :
    ∃ socket, connection.writer = some socket ∧ connection.reader = some socket := by
  obtain ⟨socket, held⟩ := Option.isSome_iff_exists.1 (standing.held.1 isOpen).1
  exact ⟨socket, held, standing.same.trans held⟩

theorem Standing.isOpen_of_reader (standing : Standing connection) {socket : Nat}
    (held : connection.reader = some socket) : connection.phase = .connected := by
  refine standing.held.2 ⟨?_, ?_⟩
  · rw [← standing.same, held]
    rfl
  · rw [held]
    rfl

theorem Standing.isOpen_of_paced (standing : Standing connection)
    (somebody : connection.paced ≠ []) : connection.phase = .connected := by
  by_contra shut
  exact somebody (standing.paced shut)

theorem Standing.unheld (standing : Standing connection) (shut : connection.phase ≠ .connected) :
    connection.writer = none ∧ connection.reader = none := by
  have neither : ¬ (connection.writer.isSome = true ∧ connection.reader.isSome = true) :=
    fun both => shut (standing.held.2 both)
  rw [standing.same] at neither ⊢
  cases held : connection.writer with
  | none => exact ⟨rfl, rfl⟩
  | some socket => simp [held] at neither

theorem Standing.withQueue (standing : Standing connection) (queue : List Queued) :
    Standing { connection with queue } :=
  { standing with }

theorem Standing.withListeners (standing : Standing connection) (listeners : List Listener) :
    Standing { connection with listeners } :=
  { standing with }

end Standing

/-! ## One handler after the other -/

section Handlers
variable (around : Surroundings) {connection : Connection}

theorem loseSocket_coherent (standing : Standing connection)
    (isOpen : connection.phase = .connected) : Coherent (loseSocket around connection).1 := by
  have idle : connection.dialing = false := by
    simpa [isOpen] using standing.dialing
  obtain ⟨timer, backoff, lost⟩ := loseSocket_eq around connection
  rw [lost]
  constructor
  · constructor <;> simp [standing.running, idle]
  · simp

theorem loseSocket_phase : (loseSocket around connection).1.phase = .disconnected := by
  obtain ⟨timer, backoff, lost⟩ := loseSocket_eq around connection
  rw [lost]

theorem startConnect_coherent (coherent : Coherent connection) :
    Coherent (startConnect connection).1 := by
  by_cases idle : connection.phase = .disconnected
  · rw [startConnect_of_disconnected connection idle]
    have shut : connection.phase ≠ .connected := by simp [idle]
    obtain ⟨noWriter, noReader⟩ := coherent.unheld shut
    constructor
    · constructor <;>
        simp [coherent.running, noWriter, noReader, coherent.pending shut, coherent.paced shut,
          coherent.timer]
    · simp
  · rw [startConnect_of_busy connection idle]
    exact coherent

theorem Coherent.unarmed (coherent : Coherent connection) :
    Coherent { connection with retryTimer := none } :=
  { coherent with retry := fun armed => by simp at armed }

theorem enqueue_coherent (coherent : Coherent connection) (queued : Queued)
    (shut : connection.phase ≠ .connected) :
    Coherent { connection with queue := connection.queue ++ [queued] } :=
  ⟨coherent.withQueue _, fun isOpen => absurd isOpen shut⟩

theorem failConnect_coherent (coherent : Coherent connection)
    (dialing : connection.dialing = true) :
    Coherent (failConnect around { connection with dialing := false }).1 := by
  have shut : connection.phase ≠ .connected := by
    rw [coherent.dialing.1 dialing]
    simp
  obtain ⟨noWriter, noReader⟩ := coherent.unheld shut
  obtain ⟨timer, backoff, failed⟩ := failConnect_eq around { connection with dialing := false }
  rw [failed]
  constructor
  · constructor <;>
      simp [coherent.running, noWriter, noReader, coherent.pending shut, coherent.paced shut,
        coherent.timer]
  · simp

theorem numbered_standing (standing : Standing connection) (queued : Queued)
    (isOpen : connection.phase = .connected) : Standing (numbered queued connection) :=
  { standing with pending := fun shut => absurd isOpen shut }

theorem pace_standing (standing : Standing connection) (delay id : Nat) (request : Request)
    (isOpen : connection.phase = .connected) (pacing : connection.options.pacing = some delay) :
    Standing (pace around delay id request connection) := by
  refine { standing with paced := fun shut => absurd isOpen shut, timer := ?_, unpaced := ?_ }
  · simp only [pace, standing.timer]
    cases connection.paced <;> rfl
  · intro unpaced
    simp [pace, pacing] at unpaced

theorem transmit_standing (standing : Standing connection) (queued : Queued)
    (isOpen : connection.phase = .connected) :
    (Standing (transmit around queued connection).1 ∧
      (transmit around queued connection).1.phase = .connected ∧
      (transmit around queued connection).1.queue = connection.queue) ∨
    (Coherent (transmit around queued connection).1 ∧
      (transmit around queued connection).1.phase = .disconnected) := by
  obtain ⟨socket, held, _⟩ := standing.socket isOpen
  have numbering := numbered_standing standing queued isOpen
  rcases transmit_cases around connection queued held with
    ⟨delay, pacing, waits⟩ | ⟨_, written⟩ | ⟨_, lost⟩
  · left
    rw [waits]
    exact ⟨pace_standing around numbering delay _ _ isOpen pacing, isOpen, rfl⟩
  · left
    rw [written]
    exact ⟨numbering, isOpen, rfl⟩
  · right
    rw [lost]
    exact ⟨loseSocket_coherent around numbering isOpen, loseSocket_phase around⟩

theorem flush_coherent (queue : List Queued) (standing : Standing connection)
    (isOpen : connection.phase = .connected) : Coherent (flush around queue connection).1 := by
  induction queue generalizing connection with
  | nil =>
      refine ⟨?_, fun _ => rfl⟩
      exact (standing.withQueue []).withListeners _
  | cons first rest ih =>
      -- either the socket is still open and the rest is flushed, or the flush ends here
      have cases := transmit_standing around (standing.withQueue rest) first isOpen
      simp only [flush, andThen]
      rcases cases with ⟨stands, stillOpen, _⟩ | ⟨coherent, lost⟩
      · simp only [stillOpen]
        exact ih stands stillOpen
      · simp only [lost]
        exact coherent

theorem adopted_standing (coherent : Coherent connection)
    (connecting : connection.phase = .connecting) : Standing (adopted connection) := by
  have shut : connection.phase ≠ .connected := by simp [connecting]
  have unarmed : connection.retryTimer.isSome ≠ true := by
    intro armed
    have idle := coherent.retry armed
    simp [connecting] at idle
  have empty : connection.paced = [] := coherent.paced shut
  constructor <;> simp [adopted, coherent.running, coherent.timer, empty]
  simpa using unarmed

theorem takeSocket_coherent (coherent : Coherent connection)
    (dialing : connection.dialing = true) :
    Coherent (takeSocket around { connection with dialing := false }).1 := by
  have opened := adopted_standing coherent (coherent.dialing.1 dialing)
  rw [takeSocket_eq]
  exact flush_coherent around connection.queue opened rfl

theorem releasePaced_coherent (coherent : Coherent connection) :
    Coherent (releasePaced around { connection with paceTimer := none }).1 := by
  by_cases nobody : connection.paced = []
  · rw [releasePaced_of_none around { connection with paceTimer := none } nobody]
    exact { coherent with timer := by simp [nobody] }
  · obtain ⟨first, rest, oldest⟩ := List.exists_cons_of_ne_nil nobody
    have isOpen := coherent.isOpen_of_paced nobody
    have paced : connection.options.pacing ≠ none := by
      intro none
      simp [coherent.unpaced none] at oldest
    obtain ⟨socket, held, _⟩ := coherent.socket isOpen
    have shorter : Coherent { connection with
        paced := rest
        paceTimer := rest.head?.map Paced.deadline } :=
      { coherent with
        paced := fun shut => absurd isOpen shut
        timer := rfl
        unpaced := fun none => absurd none paced }
    have unchanged : loseSocket around { connection with paceTimer := none } =
        loseSocket around connection := rfl
    rcases releasePaced_cases around { connection with paceTimer := none } oldest held rfl with
      ⟨_, written⟩ | ⟨_, lost⟩ | ⟨_, skipped⟩
    · rw [written]
      exact shorter
    · rw [lost, unchanged]
      exact loseSocket_coherent around coherent.toStanding isOpen
    · rw [skipped]
      exact shorter

theorem dispatch_coherent (coherent : Coherent connection) (text : String)
    (isOpen : connection.phase = .connected) : Coherent (dispatch text connection).1 := by
  rcases dispatch_cases connection text with dropped | ⟨response, ticket, _, _, answered⟩
  · rw [dropped]
    exact coherent
  · rw [answered]
    exact { coherent with pending := fun shut => absurd isOpen shut }

/-- Between two handlers the parts agree, as long as the connection is not closed. -/
theorem handle_coherent (coherent : Coherent connection) (event : ConnectionEvent)
    (goesOn : event ≠ .close) : Coherent (handle around event connection).1 := by
  cases event with
  | connect => exact startConnect_coherent coherent
  | submit ticket request =>
      by_cases isOpen : connection.phase = .connected
      · have cases := transmit_standing around coherent.toStanding ⟨ticket, request⟩ isOpen
        simp only [handle, andThen, isOpen]
        rcases cases with ⟨stands, _, sameQueue⟩ | ⟨lost, _⟩
        · exact ⟨stands, fun _ => sameQueue.trans (coherent.queue isOpen)⟩
        · exact lost
      · have queued := startConnect_coherent
          (enqueue_coherent coherent ⟨ticket, request⟩ isOpen)
        simp only [handle, andThen]
        exact queued
  | listen listener => exact ⟨coherent.withListeners _, coherent.queue⟩
  | count caller => exact coherent
  | close => exact absurd rfl goesOn
  | opened =>
      simp only [handle]
      split
      · rename_i dialing
        exact takeSocket_coherent around coherent dialing
      · exact coherent
  | refused =>
      simp only [handle]
      split
      · rename_i dialing
        exact failConnect_coherent around coherent dialing
      · exact coherent
  | frame text =>
      simp only [handle]
      split
      · rename_i socket held
        exact dispatch_coherent coherent text (coherent.isOpen_of_reader held)
      · exact coherent
  | ended =>
      simp only [handle]
      split
      · rename_i held
        obtain ⟨socket, held⟩ := Option.isSome_iff_exists.1 held
        exact loseSocket_coherent around coherent.toStanding (coherent.isOpen_of_reader held)
      · exact coherent
  | retryDue =>
      simp only [handle]
      split
      · exact startConnect_coherent coherent.unarmed
      · exact coherent
  | paceDue =>
      simp only [handle]
      split
      · exact releasePaced_coherent around coherent
      · exact coherent

end Handlers

end Connection

end BookmarkHub
