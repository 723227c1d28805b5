import BookmarkHub.Proofs.Connection.Attempts
import BookmarkHub.Proofs.Connection.Carriage

/-!
# No request is forgotten

With reconnecting on, something always moves an unresolved request on: the
attempt in flight or the retry timer, the pace timer, or the socket to which it
was written.
-/

set_option autoImplicit false

namespace BookmarkHub

namespace Connection

/-! ## The retry timer -/

/-- With reconnecting on, a connection that is disconnected waits for its next attempt. -/
def Watchful (connection : Connection) : Prop :=
  connection.options.reconnect.automatic = true → connection.phase = .disconnected →
    connection.retryTimer.isSome = true

/-- Nothing is done that matters to the retry timer. -/
structure Idles (before : Connection) (handled : Handled) : Prop where
  options : handled.1.options = before.options
  phase : handled.1.phase = before.phase
  retryTimer : handled.1.retryTimer = before.retryTimer
  queue : handled.1.queue = before.queue
  undialed : Trace.dials handled.2 = 0

/-- As long as nothing was ever dialed, no retry timer is needed, as nothing is queued. -/
def Alert (connection : Connection) (trace : Trace) : Prop :=
  Watchful connection ∨ connection.queue = [] ∧ trace.dials = 0

section Alert
variable (around : Surroundings) {connection : Connection}

theorem watchful_of_phase (busy : connection.phase ≠ .disconnected) : Watchful connection :=
  fun _ idle => absurd idle busy

variable (connection) in
theorem loseSocket_watchful : Watchful (loseSocket around connection).1 := by
  intro automatic _
  rw [loseSocket_options around connection] at automatic
  exact loseSocket_armed around connection automatic

variable (connection) in
theorem failConnect_watchful : Watchful (failConnect around connection).1 := by
  intro automatic _
  obtain ⟨timer, backoff, failed⟩ := failConnect_eq around connection
  have same : (failConnect around connection).1.options = connection.options := by rw [failed]
  rw [same] at automatic
  exact failConnect_armed around connection automatic

theorem transmit_watchful (queued : Queued) {socket : Nat}
    (held : connection.writer = some socket) (isOpen : connection.phase = .connected) :
    Watchful (transmit around queued connection).1 := by
  have busy : connection.phase ≠ .disconnected := by simp [isOpen]
  rcases transmit_cases around connection queued held with
    ⟨delay, _, waits⟩ | ⟨_, written⟩ | ⟨_, lost⟩
  · rw [waits]
    exact watchful_of_phase busy
  · rw [written]
    exact watchful_of_phase busy
  · rw [lost]
    exact loseSocket_watchful around (numbered queued connection)

theorem flush_watchful (queue : List Queued) (standing : Standing connection)
    (isOpen : connection.phase = .connected) :
    Watchful (flush around queue connection).1 := by
  induction queue generalizing connection with
  | nil =>
      refine watchful_of_phase ?_
      simp [flush, isOpen]
  | cons first rest ih =>
      have stands := standing.withQueue rest
      obtain ⟨socket, held, _⟩ := stands.socket isOpen
      have sent := transmit_watchful around first held isOpen
      simp only [flush, andThen]
      rcases transmit_standing around stands first isOpen with
        ⟨stillStands, stillOpen, _⟩ | ⟨_, lost⟩
      · simp only [stillOpen]
        exact ih stillStands stillOpen
      · simp only [lost]
        exact sent

variable {around} in
/-- Whatever is done, the retry timer is armed after it, or it did not matter. -/
theorem Deed.watchful {event : ConnectionEvent} {handled : Handled} (coherent : Coherent connection)
    (deed : Deed around connection event handled) :
    Watchful handled.1 ∨ Idles connection handled := by
  cases deed with
  | nothing | listen | count | ignore | answer | release | skip =>
      exact Or.inr ⟨rfl, rfl, rfl, rfl, rfl⟩
  | dial | enqueueAndDial => exact Or.inl (watchful_of_phase (by simp))
  | enqueue ticket request connecting => exact Or.inl (watchful_of_phase (by simp [connecting]))
  | transmit ticket request isOpen =>
      obtain ⟨socket, held, _⟩ := coherent.socket isOpen
      exact Or.inl (transmit_watchful _ ⟨ticket, request⟩ held isOpen)
  | takeSocket connecting =>
      have standing := adopted_standing coherent connecting
      exact Or.inl (flush_watchful _ connection.queue standing rfl)
  | fail => exact Or.inl (failConnect_watchful _ { connection with dialing := false })
  | lose => exact Or.inl (loseSocket_watchful _ connection)

theorem Idles.alert {handled : Handled} {trace : Trace} (idles : Idles connection handled)
    (alert : Alert connection trace) : Alert handled.1 (trace ++ handled.2) := by
  rcases alert with watchful | ⟨nobody, undialed⟩
  · left
    rw [Watchful, idles.options, idles.phase, idles.retryTimer]
    exact watchful
  · right
    refine ⟨idles.queue.trans nobody, ?_⟩
    rw [Trace.dials, List.countP_append]
    exact congrArg₂ (· + ·) undialed idles.undialed

theorem alert_run (options : ConnectionOptions) (moments : List Moment)
    (running : (History.run options moments).connection.stopped = false) :
    Alert (History.run options moments).connection (History.run options moments).trace := by
  refine History.running_induction options Alert (Or.inr ⟨rfl, rfl⟩) ?_ ?_ moments running
  · intro connection trace effects outside alert
    have idles : Idles connection (connection, effects) :=
      ⟨rfl, rfl, rfl, rfl, dials_of_plain (Trace.plain_of_aside outside)⟩
    exact idles.alert alert
  · intro around connection event trace coherent goesOn alert
    rcases (handle_deed around coherent event goesOn).watchful coherent with watchful | idles
    · exact Or.inl watchful
    · exact idles.alert alert

end Alert

structure Holds (connection : Connection) (socket : Nat) : Prop where
  phase : connection.phase = .connected
  writer : connection.writer = some socket
  reader : connection.reader = some socket

end Connection

open Connection

/-! ## Where a request is, and what moves it on -/

/-- Where the request of a caller is, and what moves it on.  In the queue it waits for an attempt,
which is on its way or timed; a paced one waits for the timer of the oldest. -/
inductive Whereabouts (history : History) (ticket : Ticket) : Prop where
  | queued (queued : Queued) (caller : queued.ticket = ticket)
      (waits : queued ∈ history.connection.queue)
      (woken : history.connection.dialing = true ∨ history.connection.retryTimer.isSome = true)
  | paced (numbering : Numbering) (caller : numbering.queued.ticket = ticket)
      (given : numbering ∈ history.trace.numberings) (socket : Nat)
      (isOpen : history.connection.Holds socket)
      (entry first : Paced) (rest : List Paced) (same : entry.line (some socket) = numbering.line)
      (among : entry ∈ first :: rest) (oldest : history.connection.paced = first :: rest)
      (woken : history.connection.paceTimer = some first.deadline)
  | written (numbering : Numbering) (caller : numbering.queued.ticket = ticket)
      (given : numbering ∈ history.trace.numberings) (socket : Nat)
      (isOpen : history.connection.Holds socket) (opened : numbering.socket = some socket)
      (sent : numbering.line ∈ history.trace.written)

/-- Every request that was taken and not resolved is where something moves it on.  After the first
attempt, the next one is always timed. -/
structure Attended (history : History) : Prop where
  waits : ∀ ticket ∈ history.trace.unresolved, Whereabouts history ticket
  armed : .dial ∈ history.trace → history.connection.phase = .disconnected →
    history.connection.retryTimer.isSome = true

section Attended
variable {history : History} (running : Running history)
include running

theorem Running.holds (isOpen : history.connection.phase = .connected) :
    ∃ socket, history.connection.Holds socket := by
  obtain ⟨socket, writer, reader⟩ := running.coherent.socket isOpen
  exact ⟨socket, isOpen, writer, reader⟩

theorem Running.queued_attended {queued : Queued}
    (waits : queued ∈ history.connection.queue)
    (automatic : history.connection.options.reconnect.automatic = true)
    (alert : Alert history.connection history.trace) : Whereabouts history queued.ticket := by
  refine .queued queued rfl waits ?_
  have somebody : history.connection.queue ≠ [] := List.ne_nil_of_mem waits
  cases phase : history.connection.phase with
  | connected => exact absurd (running.coherent.queue phase) somebody
  | connecting => exact Or.inl (running.coherent.dialing.2 phase)
  | disconnected =>
      right
      rcases alert with watchful | ⟨nobody, _⟩
      · exact watchful automatic phase
      · exact absurd nobody somebody

theorem Running.tabled_attended {id : Nat} {ticket : Ticket}
    (found : history.connection.pending.find? id = some ticket)
    (carried : Carried history.connection history.trace) : Whereabouts history ticket := by
  have isOpen : history.connection.phase = .connected := by
    by_contra shut
    rw [running.coherent.pending shut] at found
    cases found
  obtain ⟨socket, holds⟩ := running.holds isOpen
  obtain ⟨numbering, given, rfl, caller, opened⟩ := running.ledger.tabled id ticket found
  -- what is in the table waits out the delay, behind the oldest, or was written
  rcases carried numbering.id ticket found with ⟨entry, member, same⟩ | ⟨other, request, _, wrote⟩
  · obtain ⟨first, rest, oldest⟩ := List.exists_cons_of_ne_nil (List.ne_nil_of_mem member)
    have timer : history.connection.paceTimer = some first.deadline := by
      rw [running.coherent.timer, oldest]
      rfl
    have line := running.ledger.line_of_paced given member same
    rw [holds.writer] at line
    rw [oldest] at member
    exact .paced numbering caller given socket holds entry first rest line member oldest timer
  · have sent := running.ledger.line_written given wrote
    exact .written numbering caller given socket holds (opened.trans holds.writer) sent

theorem Running.attended (automatic : history.connection.options.reconnect.automatic = true)
    (alert : Alert history.connection history.trace)
    (carried : Carried history.connection history.trace) : Attended history where
  waits := by
    intro ticket unresolved
    rcases List.mem_append.1 (running.ledger.waiting_perm.symm.subset unresolved) with
      tabled | queued
    · obtain ⟨id, found⟩ := Table.find?_of_mem_values tabled
      exact running.tabled_attended found carried
    · obtain ⟨queued, waits, rfl⟩ := List.mem_map.1 queued
      exact running.queued_attended waits automatic alert
  armed := by
    intro dialed idle
    rcases alert with watchful | ⟨_, undialed⟩
    · exact watchful automatic idle
    · exact absurd rfl (List.countP_eq_zero.1 undialed _ dialed)

end Attended

/-- With reconnecting on, no request that was taken is ever stranded. -/
theorem run_attended (options : ConnectionOptions) (moments : List Moment)
    (automatic : options.reconnect.automatic = true)
    (unclosed : (History.run options moments).connection.stopped = false) :
    Attended (History.run options moments) := by
  have running := (run_kept options moments).running unclosed
  have same := History.options_run options moments unclosed
  rw [← same] at automatic
  exact running.attended automatic (alert_run options moments unclosed)
    (carried_run options moments unclosed)

/-- The first attempt, for a request, fails. -/
def failedAttempt : List Moment :=
  [.send (.get "/tags"), .take, .meet .refused].map
    fun happening => ⟨.timely 0 0 fun _ => true, happening⟩

theorem failedAttempt_attended :
    ({} : ConnectionOptions).reconnect.automatic = true ∧
      (History.run {} failedAttempt).connection.stopped = false ∧
      (History.run {} failedAttempt).trace.unresolved = [0] ∧
      Attended (History.run {} failedAttempt) :=
  ⟨rfl, rfl, rfl, run_attended {} failedAttempt rfl rfl⟩

end BookmarkHub
