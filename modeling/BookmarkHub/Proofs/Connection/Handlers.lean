import BookmarkHub.Proofs.Connection.Trace

/-!
# What the handlers of a connection do

One equation, or one list of cases, for each handler.  Nothing after this
module opens a handler again.
-/

set_option autoImplicit false

namespace BookmarkHub.Connection

open Trace (rejections)

variable (around : Surroundings) (connection : Connection)

theorem scheduleRetry_eq : ∃ timer backoff,
    scheduleRetry around connection = { connection with retryTimer := timer, backoff } := by
  unfold scheduleRetry
  split
  · exact ⟨_, _, rfl⟩
  · exact ⟨connection.retryTimer, connection.backoff, rfl⟩

theorem loseSocket_eq : ∃ timer backoff,
    loseSocket around connection =
      ({ connection with
          phase := .disconnected
          writer := none
          reader := none
          queue := []
          pending := Table.empty
          paced := []
          lastDeadline := none
          paceTimer := none
          retryTimer := timer
          backoff },
        connection.writer.toList.map .hangUp ++
          .enter .disconnected :: rejections .disconnected (waiting connection)) := by
  obtain ⟨timer, backoff, scheduled⟩ := scheduleRetry_eq around
    { connection with
      phase := .disconnected
      writer := none
      reader := none
      queue := []
      pending := Table.empty
      paced := []
      lastDeadline := none
      paceTimer := none }
  refine ⟨timer, backoff, ?_⟩
  rw [← scheduled]
  simp [loseSocket, andThen, hangUp, enter, rejectAll, clearPaced, rejections, waiting]

theorem shutDown_eq :
    shutDown connection =
      ({ connection with
          phase := .disconnected
          dialing := false
          writer := none
          reader := none
          queue := []
          pending := Table.empty
          paced := []
          lastDeadline := none
          paceTimer := none
          retryTimer := none
          stopped := true },
        connection.writer.toList.map .hangUp ++
          (rejections .closed (waiting connection) ++ [.enter .disconnected])) := rfl

theorem startConnect_of_disconnected (idle : connection.phase = .disconnected) :
    startConnect connection =
      ({ connection with phase := .connecting, dialing := true, retryTimer := none },
        [.enter .connecting, .dial]) := by
  simp [startConnect, idle, andThen, enter]

theorem startConnect_of_busy (busy : connection.phase ≠ .disconnected) :
    startConnect connection = (connection, []) := by
  unfold startConnect
  split
  · rename_i idle
    exact absurd idle busy
  · rfl

theorem failConnect_eq : ∃ timer backoff,
    failConnect around connection =
      ({ connection with phase := .disconnected, retryTimer := timer, backoff },
        [.enter .disconnected]) := by
  obtain ⟨timer, backoff, scheduled⟩ := scheduleRetry_eq around
    { connection with phase := .disconnected }
  refine ⟨timer, backoff, ?_⟩
  simp [failConnect, andThen, enter, scheduled]

theorem scheduleRetry_armed (automatic : connection.options.reconnect.automatic = true) :
    (scheduleRetry around connection).retryTimer.isSome = true := by
  rw [scheduleRetry, if_pos automatic]
  rfl

theorem loseSocket_armed (automatic : connection.options.reconnect.automatic = true) :
    (loseSocket around connection).1.retryTimer.isSome = true :=
  scheduleRetry_armed around _ automatic

theorem failConnect_armed (automatic : connection.options.reconnect.automatic = true) :
    (failConnect around connection).1.retryTimer.isSome = true :=
  scheduleRetry_armed around _ automatic

def adopted (connection : Connection) : Connection :=
  { connection with
    phase := .connected
    dialing := false
    writer := some connection.sockets
    reader := some connection.sockets
    sockets := connection.sockets + 1
    backoff := connection.options.reconnect.initialBackoff.toNat }

theorem takeSocket_eq :
    takeSocket around { connection with dialing := false } =
      andThen (adopted connection, [.enter .connected]) (flush around connection.queue) := rfl

/-! ## Numbering and writing -/

def numbered (queued : Queued) (connection : Connection) : Connection :=
  (number (nextNumbering queued connection) connection).1

theorem write_of_open (id : Nat) (request : Request) {socket : Nat}
    (isOpen : connection.writer = some socket) :
    write around id request connection =
      if around.accepts id then (connection, [.write socket id request])
      else loseSocket around connection := by
  simp [write, isOpen]

theorem transmit_cases (queued : Queued) {socket : Nat}
    (isOpen : connection.writer = some socket) :
    (∃ delay, connection.options.pacing = some delay ∧
      transmit around queued connection =
        (pace around delay (nextNumbering queued connection).id
          (nextNumbering queued connection).request (numbered queued connection),
          [.number (nextNumbering queued connection)])) ∨
    (connection.options.pacing = none ∧
      transmit around queued connection =
        (numbered queued connection,
          [.number (nextNumbering queued connection),
            .write socket (nextNumbering queued connection).id
              (nextNumbering queued connection).request])) ∨
    (connection.options.pacing = none ∧
      transmit around queued connection =
        ((loseSocket around (numbered queued connection)).1,
          .number (nextNumbering queued connection) ::
            (loseSocket around (numbered queued connection)).2)) := by
  cases paced : connection.options.pacing with
  | some delay =>
      left
      refine ⟨delay, rfl, ?_⟩
      simp [transmit, numbered, number, andThen, paced]
  | none =>
      right
      by_cases taken : around.accepts (nextNumbering queued connection).id = true
      · left
        refine ⟨rfl, ?_⟩
        simp [transmit, numbered, number, andThen, paced, write, isOpen, taken]
      · right
        refine ⟨rfl, ?_⟩
        simp [transmit, numbered, number, andThen, paced, write, isOpen, taken]

section Numbered
variable (queued : Queued)

@[simp] theorem nextNumbering_queued : (nextNumbering queued connection).queued = queued := rfl

@[simp] theorem nextNumbering_id :
    (nextNumbering queued connection).id = connection.lastId + 1 := rfl

@[simp] theorem nextNumbering_socket :
    (nextNumbering queued connection).socket = connection.writer := rfl

@[simp] theorem numbered_lastId :
    (numbered queued connection).lastId = connection.lastId + 1 := rfl

@[simp] theorem numbered_pending : (numbered queued connection).pending =
    connection.pending.insert (connection.lastId + 1) queued.ticket := rfl

@[simp] theorem numbered_queue : (numbered queued connection).queue = connection.queue := rfl

@[simp] theorem numbered_paced : (numbered queued connection).paced = connection.paced := rfl

@[simp] theorem numbered_writer : (numbered queued connection).writer = connection.writer := rfl

end Numbered

theorem armPaceTimer_paced (rest : List Paced) (unarmed : connection.paceTimer = none) :
    armPaceTimer { connection with paced := rest } =
      { connection with paced := rest, paceTimer := rest.head?.map Paced.deadline } := by
  cases connection
  cases unarmed
  cases rest <;> rfl

/-- The oldest paced request leaves its place: if its caller still waits it is written, or the
socket is lost over it, and otherwise it is passed over. -/
theorem releasePaced_eq {first : Paced} {rest : List Paced} {socket : Nat}
    (oldest : connection.paced = first :: rest) (isOpen : connection.writer = some socket)
    (unarmed : connection.paceTimer = none) :
    releasePaced around connection =
      if connection.pending.contains first.id then
        if around.accepts first.id then
          ({ connection with paced := rest, paceTimer := rest.head?.map Paced.deadline },
            [.write socket first.id first.request])
        else loseSocket around connection
      else ({ connection with paced := rest, paceTimer := rest.head?.map Paced.deadline }, []) := by
  have armed := armPaceTimer_paced connection rest unarmed
  have attempted := write_of_open around { connection with paced := rest } first.id
    first.request isOpen
  simp only [releasePaced, oldest, attempted]
  split
  · split
    · simp only [andThen, armed, List.append_nil]
    · have lost : loseSocket around { connection with paced := rest } =
          loseSocket around connection := rfl
      obtain ⟨timer, backoff, closed⟩ := loseSocket_eq around connection
      simp only [lost, closed, andThen, armPaceTimer, List.append_nil]
  · simp only [andThen, armed, List.append_nil]

theorem releasePaced_cases {first : Paced} {rest : List Paced} {socket : Nat}
    (oldest : connection.paced = first :: rest) (isOpen : connection.writer = some socket)
    (unarmed : connection.paceTimer = none) :
    (connection.pending.contains first.id = true ∧
      releasePaced around connection =
        ({ connection with paced := rest, paceTimer := rest.head?.map Paced.deadline },
          [.write socket first.id first.request])) ∨
    (connection.pending.contains first.id = true ∧
      releasePaced around connection = loseSocket around connection) ∨
    (connection.pending.contains first.id = false ∧
      releasePaced around connection =
        ({ connection with paced := rest, paceTimer := rest.head?.map Paced.deadline }, [])) := by
  rw [releasePaced_eq around connection oldest isOpen unarmed]
  split
  · rename_i tabled
    split
    · exact Or.inl ⟨tabled, rfl⟩
    · exact Or.inr (Or.inl ⟨tabled, rfl⟩)
  · rename_i untabled
    exact Or.inr (Or.inr ⟨Bool.eq_false_iff.2 untabled, rfl⟩)

theorem releasePaced_of_none (none : connection.paced = []) :
    releasePaced around connection = (connection, []) := by
  simp [releasePaced, none]

/-! ## Reading -/

theorem dispatch_cases (text : String) :
    dispatch text connection = (connection, []) ∨
    ∃ response ticket, Json.ofText Response.read text = .ok response ∧
      connection.pending.find? response.id.toNat = some ticket ∧
      dispatch text connection =
        ({ connection with pending := connection.pending.erase response.id.toNat },
          [.resolve ticket (.ok response)]) := by
  unfold dispatch
  cases decoded : Json.ofText Response.read text with
  | error cause => exact Or.inl rfl
  | ok response =>
      simp only
      cases waits : connection.pending.find? response.id.toNat with
      | none => exact Or.inl rfl
      | some ticket => exact Or.inr ⟨response, ticket, rfl, waits, rfl⟩

/-! ## Steps -/

theorem step_of_running (event : ConnectionEvent) (running : connection.stopped = false) :
    step around event connection = handle around event connection := by
  simp [step, running]

theorem step_of_stopped (event : ConnectionEvent) (stopped : connection.stopped = true) :
    (step around event connection).1 = connection ∧
      ∀ effect ∈ (step around event connection).2, effect.IsAside := by
  cases event <;> simp [step, stopped, ConnectionEffect.IsAside]

variable {around connection} in
theorem running_of_step {event : ConnectionEvent}
    (running : (step around event connection).1.stopped = false) : connection.stopped = false := by
  cases stopped : connection.stopped with
  | false => rfl
  | true =>
      rw [(step_of_stopped around connection event stopped).1, stopped] at running
      cases running

end BookmarkHub.Connection
