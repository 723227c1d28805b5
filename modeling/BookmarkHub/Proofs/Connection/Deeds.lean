import BookmarkHub.Proofs.Connection.Coherence

/-!
# What one step can do

A connection that is told something does one of few things.  Each is listed
once, with the state in which it is done and with what becomes of the
connection, so that a proof about a step need not open a handler.
-/

set_option autoImplicit false

namespace BookmarkHub.Connection

def released (rest : List Paced) (connection : Connection) : Connection :=
  { connection with paced := rest, paceTimer := rest.head?.map Paced.deadline }

/-- What the timer of the paced requests does: the first of them leaves its place once its deadline
is over.  It is written if its caller still waits, unless the socket is lost over it. -/
inductive Fires (around : Surroundings) (connection : Connection) : Handled → Prop where
  | nobody (none : connection.paced = []) : Fires around connection (connection, [])
  | early (first : Paced) (rest : List Paced) (oldest : connection.paced = first :: rest)
      (undue : around.now < first.deadline) : Fires around connection (connection, [])
  | write (first : Paced) (rest : List Paced) (socket : Nat)
      (oldest : connection.paced = first :: rest) (due : first.deadline ≤ around.now)
      (held : connection.writer = some socket)
      (tabled : connection.pending.contains first.id = true)
      (taken : around.accepts first.id = true) :
      Fires around connection (released rest connection, [.write socket first.id first.request])
  | lose (first : Paced) (rest : List Paced) (oldest : connection.paced = first :: rest)
      (due : first.deadline ≤ around.now)
      (tabled : connection.pending.contains first.id = true)
      (refused : around.accepts first.id = false) :
      Fires around connection (loseSocket around connection)
  | skip (first : Paced) (rest : List Paced) (oldest : connection.paced = first :: rest)
      (due : first.deadline ≤ around.now)
      (untabled : connection.pending.contains first.id = false) :
      Fires around connection (released rest connection, [])

theorem paceDue_fires (around : Surroundings) {connection : Connection}
    (coherent : Coherent connection) :
    Fires around connection (handle around .paceDue connection) := by
  cases oldest : connection.paced with
  | nil =>
      have unarmed : connection.paceTimer = none := by rw [coherent.timer, oldest]; rfl
      have idle : handle around .paceDue connection = (connection, []) := by
        simp [handle, unarmed, isDue]
      rw [idle]
      exact .nobody oldest
  | cons first rest =>
      have somebody : connection.paced ≠ [] := by simp [oldest]
      obtain ⟨socket, held, _⟩ := coherent.socket (coherent.isOpen_of_paced somebody)
      have timer : connection.paceTimer = some first.deadline := by
        rw [coherent.timer, oldest]
        rfl
      have left := releasePaced_eq around { connection with paceTimer := none } oldest held rfl
      simp only [handle, timer, isDue, decide_eq_true_eq, left]
      split
      · rename_i due
        split
        · rename_i tabled
          split
          · rename_i taken
            exact .write first rest socket oldest due held tabled taken
          · rename_i refused
            exact .lose first rest oldest due tabled (Bool.eq_false_iff.2 refused)
        · rename_i untabled
          exact .skip first rest oldest due (Bool.eq_false_iff.2 untabled)
      · rename_i undue
        exact .early first rest oldest (Nat.lt_of_not_le undue)

/-- What an open connection can do when it is told something, unless it is closed. -/
inductive Deed (around : Surroundings) (connection : Connection) :
    ConnectionEvent → Handled → Prop where
  | nothing (event : ConnectionEvent) (unasked : ∀ ticket request, event ≠ .submit ticket request) :
      Deed around connection event (connection, [])
  | listen (listener : Listener) :
      Deed around connection (.listen listener)
        ({ connection with listeners := connection.listeners ++ [listener] }, [])
  | count (caller : Nat) :
      Deed around connection (.count caller)
        (connection, [.tellCounts caller (.ok connection.counts)])
  | dial (event : ConnectionEvent) (unasked : ∀ ticket request, event ≠ .submit ticket request)
      (idle : connection.phase = .disconnected) :
      Deed around connection event
        ({ connection with phase := .connecting, dialing := true, retryTimer := none },
          [.enter .connecting, .dial])
  | enqueue (ticket : Ticket) (request : Request) (connecting : connection.phase = .connecting) :
      Deed around connection (.submit ticket request)
        ({ connection with queue := connection.queue ++ [⟨ticket, request⟩] },
          [.accept ⟨ticket, request⟩])
  | enqueueAndDial (ticket : Ticket) (request : Request)
      (idle : connection.phase = .disconnected) :
      Deed around connection (.submit ticket request)
        ({ connection with
            queue := connection.queue ++ [⟨ticket, request⟩]
            phase := .connecting
            dialing := true
            retryTimer := none },
          [.accept ⟨ticket, request⟩, .enter .connecting, .dial])
  | transmit (ticket : Ticket) (request : Request) (isOpen : connection.phase = .connected) :
      Deed around connection (.submit ticket request)
        ((transmit around ⟨ticket, request⟩ connection).1,
          .accept ⟨ticket, request⟩ :: (transmit around ⟨ticket, request⟩ connection).2)
  | takeSocket (connecting : connection.phase = .connecting) :
      Deed around connection .opened
        (andThen (adopted connection, [.enter .connected]) (flush around connection.queue))
  | fail (connecting : connection.phase = .connecting) :
      Deed around connection .refused (failConnect around { connection with dialing := false })
  | ignore (text : String) (socket : Nat) (held : connection.reader = some socket) :
      Deed around connection (.frame text) (connection, [.receive socket text])
  | answer (text : String) (socket : Nat) (response : Response) (ticket : Ticket)
      (held : connection.reader = some socket)
      (decoded : Json.ofText Response.read text = .ok response)
      (found : connection.pending.find? response.id.toNat = some ticket) :
      Deed around connection (.frame text)
        ({ connection with pending := connection.pending.erase response.id.toNat },
          [.receive socket text, .resolve ticket (.ok response)])
  | lose (event : ConnectionEvent) (isOpen : connection.phase = .connected)
      (unasked : ∀ ticket request, event ≠ .submit ticket request) :
      Deed around connection event (loseSocket around connection)
  | release (first : Paced) (rest : List Paced) (socket : Nat)
      (oldest : connection.paced = first :: rest) (held : connection.writer = some socket)
      (tabled : connection.pending.contains first.id = true) :
      Deed around connection .paceDue
        (released rest connection, [.write socket first.id first.request])
  | skip (first : Paced) (rest : List Paced) (oldest : connection.paced = first :: rest)
      (untabled : connection.pending.contains first.id = false) :
      Deed around connection .paceDue (released rest connection, [])

section Deed
variable (around : Surroundings) {connection : Connection}

variable (connection) in
theorem submit_deed (ticket : Ticket) (request : Request) :
    Deed around connection (.submit ticket request)
      (handle around (.submit ticket request) connection) := by
  simp only [handle, andThen]
  split
  · rename_i isOpen
    exact .transmit ticket request isOpen
  · rename_i shut
    by_cases idle : connection.phase = .disconnected
    · rw [startConnect_of_disconnected
        { connection with queue := connection.queue ++ [⟨ticket, request⟩] } idle]
      exact .enqueueAndDial ticket request idle
    · rw [startConnect_of_busy
        { connection with queue := connection.queue ++ [⟨ticket, request⟩] } idle]
      have connecting : connection.phase = .connecting := by
        cases phase : connection.phase with
        | disconnected => exact absurd phase idle
        | connecting => rfl
        | connected => exact (shut phase).elim
      exact .enqueue ticket request connecting

variable (connection) in
theorem frame_deed (text : String) :
    Deed around connection (.frame text) (handle around (.frame text) connection) := by
  simp only [handle]
  split
  · rename_i socket held
    rcases dispatch_cases connection text with
      dropped | ⟨response, ticket, decoded, found, answered⟩
    · simp only [andThen, dropped]
      exact .ignore text socket held
    · simp only [andThen, answered]
      exact .answer text socket response ticket held decoded found
  · exact .nothing _ (by simp)

theorem pace_deed (coherent : Coherent connection) :
    Deed around connection .paceDue (handle around .paceDue connection) := by
  have fires := paceDue_fires around coherent
  generalize handle around .paceDue connection = handled at fires ⊢
  cases fires with
  | nobody | early => exact .nothing _ (by simp)
  | write first rest socket oldest _ held tabled =>
      exact .release first rest socket oldest held tabled
  | lose first rest oldest =>
      have somebody : connection.paced ≠ [] := by simp [oldest]
      exact .lose _ (coherent.isOpen_of_paced somebody) (by simp)
  | skip first rest oldest _ untabled => exact .skip first rest oldest untabled

variable (connection) in
theorem startConnect_deed (event : ConnectionEvent)
    (unasked : ∀ ticket request, event ≠ .submit ticket request) :
    Deed around connection event (startConnect connection) := by
  by_cases idle : connection.phase = .disconnected
  · rw [startConnect_of_disconnected connection idle]
    exact .dial event unasked idle
  · rw [startConnect_of_busy connection idle]
    exact .nothing event unasked

/-- Whatever a connection is told, it does one of the things that it can do. -/
theorem handle_deed (coherent : Coherent connection) (event : ConnectionEvent)
    (goesOn : event ≠ .close) : Deed around connection event (handle around event connection) := by
  cases event with
  | connect => exact startConnect_deed around connection .connect (by simp)
  | submit ticket request => exact submit_deed around connection ticket request
  | listen listener => exact .listen listener
  | count caller => exact .count caller
  | close => exact absurd rfl goesOn
  | opened =>
      simp only [handle]
      split
      · rename_i dialing
        rw [takeSocket_eq]
        exact .takeSocket (coherent.dialing.1 dialing)
      · exact .nothing _ (by simp)
  | refused =>
      simp only [handle]
      split
      · rename_i dialing
        exact .fail (coherent.dialing.1 dialing)
      · exact .nothing _ (by simp)
  | frame text => exact frame_deed around connection text
  | ended =>
      simp only [handle]
      split
      · rename_i held
        obtain ⟨socket, held⟩ := Option.isSome_iff_exists.1 held
        exact .lose _ (coherent.isOpen_of_reader held) (by simp)
      · exact .nothing _ (by simp)
  | retryDue =>
      simp only [handle]
      split
      · rename_i due
        -- a timer that is due was armed, so there is neither an attempt nor a socket
        have armed : connection.retryTimer.isSome = true := by
          cases timer : connection.retryTimer with
          | none => simp [timer] at due
          | some _ => rfl
        have idle := coherent.retry armed
        rw [startConnect_of_disconnected { connection with retryTimer := none } idle]
        exact .dial _ (by simp) idle
      · exact .nothing _ (by simp)
  | paceDue => exact pace_deed around coherent

end Deed

/-! ## What no step changes -/

section Options
variable (around : Surroundings) (connection : Connection)

theorem loseSocket_options : (loseSocket around connection).1.options = connection.options := by
  obtain ⟨timer, backoff, lost⟩ := loseSocket_eq around connection
  rw [lost]

variable {connection} in
theorem transmit_options (queued : Queued) {socket : Nat}
    (held : connection.writer = some socket) :
    (transmit around queued connection).1.options = connection.options := by
  rcases transmit_cases around connection queued held with
    ⟨delay, _, waits⟩ | ⟨_, written⟩ | ⟨_, lost⟩
  · rw [waits]
    rfl
  · rw [written]
    rfl
  · rw [lost]
    exact loseSocket_options around (numbered queued connection)

variable {connection} in
theorem flush_options (queue : List Queued) (standing : Standing connection)
    (isOpen : connection.phase = .connected) :
    (flush around queue connection).1.options = connection.options := by
  induction queue generalizing connection with
  | nil => rfl
  | cons first rest ih =>
      have stands := standing.withQueue rest
      obtain ⟨socket, held, _⟩ := stands.socket isOpen
      have sent := transmit_options around first held
      simp only [flush, andThen]
      rcases transmit_standing around stands first isOpen with
        ⟨stillStands, stillOpen, _⟩ | ⟨_, lost⟩
      · simp only [stillOpen]
        exact (ih stillStands stillOpen).trans sent
      · simp only [lost]
        exact sent

variable {around connection} in
theorem Deed.options {event : ConnectionEvent} {handled : Handled} (coherent : Coherent connection)
    (deed : Deed around connection event handled) :
    handled.1.options = connection.options := by
  cases deed with
  | transmit ticket request isOpen =>
      obtain ⟨socket, held, _⟩ := coherent.socket isOpen
      exact transmit_options around ⟨ticket, request⟩ held
  | takeSocket connecting =>
      exact flush_options around connection.queue (adopted_standing coherent connecting) rfl
  | fail =>
      obtain ⟨timer, backoff, failed⟩ :=
        failConnect_eq around { connection with dialing := false }
      rw [failed]
  | lose => exact loseSocket_options around connection
  | _ => rfl

end Options

end BookmarkHub.Connection
