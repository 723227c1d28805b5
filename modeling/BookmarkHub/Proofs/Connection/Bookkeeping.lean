import BookmarkHub.Proofs.Connection.Ledger

/-!
# Handlers keep the books

Each handler is put together from the things that keep the books of a
connection.  Only handing in a request takes something from a caller.
-/

set_option autoImplicit false

namespace BookmarkHub

def ConnectionEvent.queued? : ConnectionEvent → Option Queued
  | .submit ticket request => some ⟨ticket, request⟩
  | _ => none

namespace Connection

open Trace (rejections)

/-- What is done to a connection keeps its books, and takes nothing from a caller. -/
structure Keeps (before : Connection) (handled : Handled) : Prop where
  books : ∀ trace, Ledger before trace [] → Ledger handled.1 (trace ++ handled.2) []
  nothing : Trace.accepted handled.2 = []

section Keeps
variable (around : Surroundings) {connection : Connection}

theorem keeps_andThen {first : Handled} {next : Connection → Handled}
    (before : Keeps connection first) (after : Keeps first.1 (next first.1)) :
    Keeps connection (andThen first next) := by
  refine ⟨fun trace ledger => ?_, ?_⟩
  · have kept := after.books _ (before.books trace ledger)
    rw [List.append_assoc] at kept
    exact kept
  · simp [andThen, before.nothing, after.nothing]

theorem keeps_quiet {after : Connection} {effects : Trace} (same : SameBooks connection after)
    (silent : effects.Silent) : Keeps connection (after, effects) :=
  ⟨fun _ ledger => ledger.quiet same silent, Trace.accepted_silent silent⟩

theorem keeps_none {after : Connection} (same : SameBooks connection after) :
    Keeps connection (after, []) :=
  keeps_quiet same Trace.silent_nil

variable (connection) in
theorem startConnect_keeps : Keeps connection (startConnect connection) := by
  by_cases idle : connection.phase = .disconnected
  · rw [startConnect_of_disconnected connection idle]
    exact keeps_quiet ⟨rfl, rfl, rfl, rfl, Or.inl rfl⟩
      (Trace.silent_append (Trace.silent_singleton (.enter .connecting) trivial)
        (Trace.silent_singleton .dial trivial))
  · rw [startConnect_of_busy connection idle]
    exact keeps_none ⟨rfl, rfl, rfl, rfl, Or.inl rfl⟩

variable (connection) in
theorem failConnect_keeps : Keeps connection (failConnect around connection) := by
  obtain ⟨timer, backoff, failed⟩ := failConnect_eq around connection
  rw [failed]
  exact keeps_quiet ⟨rfl, rfl, rfl, rfl, Or.inl rfl⟩ (Trace.silent_singleton _ trivial)

variable (connection) in
theorem loseSocket_keeps : Keeps connection (loseSocket around connection) := by
  obtain ⟨timer, backoff, lost⟩ := loseSocket_eq around connection
  have silent : Trace.Silent (connection.writer.toList.map .hangUp ++ [.enter .disconnected]) :=
    Trace.silent_append (Trace.silent_hangUps _) (Trace.silent_singleton _ trivial)
  have effects : connection.writer.toList.map .hangUp ++
      .enter .disconnected :: rejections .disconnected (waiting connection) =
      (connection.writer.toList.map .hangUp ++ [.enter .disconnected]) ++
        (rejections .disconnected (waiting connection) ++ []) := by simp
  rw [lost, effects]
  refine ⟨fun trace ledger => ?_, ?_⟩
  · exact ledger.drop (Or.inl rfl) silent Trace.silent_nil rfl rfl rfl rfl
  · simp [Trace.accepted_silent (Trace.silent_hangUps _)]

variable (connection) in
theorem shutDown_keeps : Keeps connection (shutDown connection) := by
  rw [shutDown_eq]
  refine ⟨fun trace ledger => ?_, ?_⟩
  · exact ledger.drop (Or.inr rfl) (Trace.silent_hangUps _) (Trace.silent_singleton _ trivial)
      rfl rfl rfl rfl
  · simp [Trace.accepted_silent (Trace.silent_hangUps _)]

theorem transmit_keeps (standing : Standing connection) (first : Queued)
    (isOpen : connection.phase = .connected) :
    Keeps { connection with queue := first :: connection.queue }
      (transmit around first connection) := by
  obtain ⟨socket, held, _⟩ := standing.socket isOpen
  rcases transmit_cases around connection first held with
    ⟨delay, _, waits⟩ | ⟨unpaced, written⟩ | ⟨_, lost⟩
  · rw [waits]
    exact ⟨fun trace ledger => ledger.number.pace around delay _ _, rfl⟩
  · rw [written]
    refine ⟨fun trace ledger => ?_, rfl⟩
    have given := ledger.number
    have lawful := given.lawful_number held
    simp only [Numbering.line, nextNumbering_socket, held] at given
    simpa using given.write (standing.unpaced unpaced) lawful
  · rw [lost]
    have losing := loseSocket_keeps around (numbered first connection)
    refine ⟨fun trace ledger => ?_, by simp [losing.nothing]⟩
    simpa using losing.books _ ledger.number.forget

theorem withQueue_self {queue : List Queued} (same : connection.queue = queue) :
    { connection with queue } = connection := by
  subst same
  rfl

theorem flush_keeps (queue : List Queued) (standing : Standing connection)
    (isOpen : connection.phase = .connected) :
    Keeps { connection with queue } (flush around queue connection) := by
  induction queue generalizing connection with
  | nil =>
      refine keeps_quiet ⟨rfl, rfl, rfl, rfl, Or.inl rfl⟩ ?_
      intro effect member
      obtain ⟨listener, _, rfl⟩ := List.mem_map.1 member
      trivial
  | cons first rest ih =>
      have stands := standing.withQueue rest
      refine keeps_andThen (transmit_keeps around stands first isOpen) ?_
      rcases transmit_standing around stands first isOpen with
        ⟨stillStands, stillOpen, same⟩ | ⟨_, lost⟩
      · simp only [stillOpen]
        have flushed := ih stillStands stillOpen
        rw [withQueue_self same] at flushed
        exact flushed
      · simp only [lost]
        exact keeps_none ⟨rfl, rfl, rfl, rfl, Or.inl rfl⟩

theorem takeSocket_keeps (coherent : Coherent connection)
    (dialing : connection.dialing = true) :
    Keeps connection (takeSocket around { connection with dialing := false }) := by
  have connecting := coherent.dialing.1 dialing
  have shut : connection.phase ≠ .connected := by simp [connecting]
  have opened := flush_keeps around connection.queue (adopted_standing coherent connecting) rfl
  rw [takeSocket_eq]
  -- another socket does no harm: nobody is in the table, and nothing is paced
  refine keeps_andThen ?_ opened
  exact keeps_quiet ⟨rfl, rfl, rfl, rfl, Or.inr ⟨coherent.pending shut, coherent.paced shut⟩⟩
    (Trace.silent_singleton _ trivial)

theorem releasePaced_keeps (coherent : Coherent connection) :
    Keeps connection (releasePaced around { connection with paceTimer := none }) := by
  by_cases nobody : connection.paced = []
  · rw [releasePaced_of_none around { connection with paceTimer := none } nobody]
    exact keeps_none ⟨rfl, rfl, rfl, rfl, Or.inl rfl⟩
  · obtain ⟨first, rest, oldest⟩ := List.exists_cons_of_ne_nil nobody
    obtain ⟨socket, held, _⟩ := coherent.socket (coherent.isOpen_of_paced nobody)
    rcases releasePaced_cases around { connection with paceTimer := none } oldest held rfl with
      ⟨tabled, written⟩ | ⟨_, lost⟩ | ⟨_, skipped⟩
    · rw [written]
      exact ⟨fun trace ledger => ledger.release oldest _ held tabled, rfl⟩
    · rw [lost]
      exact loseSocket_keeps around connection
    · rw [skipped]
      refine ⟨fun trace ledger => ?_, rfl⟩
      simpa using ledger.skip oldest _

theorem receive_keeps (coherent : Coherent connection) {socket : Nat} (text : String)
    (held : connection.reader = some socket) :
    Keeps connection (andThen (connection, [.receive socket text]) (dispatch text)) := by
  have isOpen : connection.writer = some socket := coherent.same.symm.trans held
  rcases dispatch_cases connection text with dropped | ⟨response, ticket, decoded, found, answered⟩
  · simp only [andThen, dropped]
    exact keeps_quiet ⟨rfl, rfl, rfl, rfl, Or.inl rfl⟩ (Trace.silent_singleton _ trivial)
  · simp only [andThen, answered]
    exact ⟨fun trace ledger => ledger.answer isOpen decoded found, rfl⟩

theorem submit_keeps (coherent : Coherent connection) (ticket : Ticket) (request : Request) :
    ∃ after, Keeps { connection with queue := connection.queue ++ [⟨ticket, request⟩] } after ∧
      handle around (.submit ticket request) connection =
        (after.1, .accept ⟨ticket, request⟩ :: after.2) := by
  by_cases isOpen : connection.phase = .connected
  · have sent := transmit_keeps around coherent.toStanding ⟨ticket, request⟩ isOpen
    have empty := coherent.queue isOpen
    refine ⟨transmit around ⟨ticket, request⟩ connection, ?_, ?_⟩
    · rw [empty] at sent ⊢
      exact sent
    · simp [handle, andThen, isOpen]
  · refine ⟨_, startConnect_keeps _, ?_⟩
    simp [handle, andThen]

theorem handle_keeps (coherent : Coherent connection) (event : ConnectionEvent)
    (nobody : event.queued? = none) : Keeps connection (handle around event connection) := by
  have idle : Keeps connection (connection, []) := keeps_none ⟨rfl, rfl, rfl, rfl, Or.inl rfl⟩
  cases event with
  | connect => exact startConnect_keeps _
  | submit ticket request => cases nobody
  | listen listener => exact keeps_none ⟨rfl, rfl, rfl, rfl, Or.inl rfl⟩
  | count caller => exact ⟨fun trace ledger => ledger.count caller, rfl⟩
  | close => exact shutDown_keeps connection
  | opened =>
      simp only [handle]
      split
      · rename_i dialing
        exact takeSocket_keeps around coherent dialing
      · exact idle
  | refused =>
      simp only [handle]
      split
      · obtain ⟨books, nothing⟩ :=
          failConnect_keeps around { connection with dialing := false }
        exact ⟨fun trace ledger => books trace (ledger.same ⟨rfl, rfl, rfl, rfl, Or.inl rfl⟩),
          nothing⟩
      · exact idle
  | frame text =>
      simp only [handle]
      split
      · rename_i socket held
        exact receive_keeps coherent text held
      · exact idle
  | ended =>
      simp only [handle]
      split
      · exact loseSocket_keeps around connection
      · exact idle
  | retryDue =>
      simp only [handle]
      split
      · obtain ⟨books, nothing⟩ :=
          startConnect_keeps { connection with retryTimer := none }
        exact ⟨fun trace ledger => books trace (ledger.same ⟨rfl, rfl, rfl, rfl, Or.inl rfl⟩),
          nothing⟩
      · exact idle
  | paceDue =>
      simp only [handle]
      split
      · exact releasePaced_keeps around coherent
      · exact idle

theorem handle_accepted (coherent : Coherent connection) (event : ConnectionEvent) :
    Trace.accepted (handle around event connection).2 = event.queued?.toList := by
  cases taken : event.queued? with
  | none => exact (handle_keeps around coherent event taken).nothing
  | some queued =>
      cases event with
      | submit ticket request =>
          cases taken
          obtain ⟨after, kept, handled⟩ := submit_keeps around coherent ticket request
          rw [handled]
          simp [kept.nothing]
      | _ => cases taken

/-- Whatever a connection is told keeps its books, if a request that it takes has a
ticket that no other had. -/
theorem handle_ledger (coherent : Coherent connection) (event : ConnectionEvent) {trace : Trace}
    (ledger : Ledger connection trace [])
    (fresh : ∀ queued, event.queued? = some queued →
      queued.ticket ∉ trace.accepted.map Queued.ticket) :
    Ledger (handle around event connection).1 (trace ++ (handle around event connection).2) [] := by
  cases taken : event.queued? with
  | none => exact (handle_keeps around coherent event taken).books trace ledger
  | some queued =>
      cases event with
      | submit ticket request =>
          cases taken
          obtain ⟨after, kept, handled⟩ := submit_keeps around coherent ticket request
          have entered := ledger.enqueue ⟨ticket, request⟩ (fresh _ rfl)
          have booked := kept.books _ entered
          rw [List.append_assoc] at booked
          rw [handled]
          exact booked
      | _ => cases taken

end Keeps

end Connection

end BookmarkHub
