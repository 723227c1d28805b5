import BookmarkHub.Proofs.Connection.Agenda

/-!
# Pacing keeps its appointments

The requests that wait out the pacing delay stand in the order of their
appointments on the open socket.  A request leaves its place when its deadline
is over and it is the first; it is written if its caller still waits, and no
deadline of a socket outlives the socket.
-/

set_option autoImplicit false

namespace BookmarkHub

namespace Connection

/-! ## Sockets are not taken up again -/

/-- A request gets its number on a socket that was not hung up. -/
def Served (past : Trace) : ConnectionEffect → Prop
  | .number numbering => ∀ socket, .hangUp socket ∈ past → numbering.socket ≠ some socket
  | _ => True

theorem served_of_unnumbered {effects : Trace} (unnumbered : effects.numberings = [])
    (past : Trace) : Trace.Always Served past effects := by
  refine Trace.always_of_forall past effects fun before effect member => ?_
  cases effect with
  | number numbering =>
      have given : numbering ∈ effects.numberings := List.mem_filterMap.2 ⟨_, member, rfl⟩
      rw [unnumbered] at given
      cases given
  | _ => trivial

/-- No socket that was hung up is held, or will be. -/
structure Renewed (connection : Connection) (trace : Trace) : Prop where
  held : ∀ socket, connection.writer = some socket → socket < connection.sockets
  gone : ∀ socket, .hangUp socket ∈ trace →
    socket < connection.sockets ∧ connection.writer ≠ some socket
  served : Trace.Always Served [] trace

section Renewed
variable {connection : Connection} {trace : Trace} (renewed : Renewed connection trace)
include renewed

theorem Renewed.tell {after : Connection} {effects : Trace}
    (unnumbered : effects.numberings = []) (noHangUp : ∀ socket, .hangUp socket ∉ effects)
    (sockets : after.sockets = connection.sockets) (writer : after.writer = connection.writer) :
    Renewed after (trace ++ effects) where
  held := by rw [sockets, writer]; exact renewed.held
  gone socket hungUp := by
    rw [sockets, writer]
    exact renewed.gone socket ((List.mem_append.1 hungUp).resolve_right (noHangUp socket))
  served := (Trace.always_append [] trace effects).2
    ⟨renewed.served, served_of_unnumbered unnumbered _⟩

theorem Renewed.number {after : Connection} {numbering : Numbering}
    (onSocket : numbering.socket = connection.writer)
    (sockets : after.sockets = connection.sockets) (writer : after.writer = connection.writer) :
    Renewed after (trace ++ [.number numbering]) where
  held := by rw [sockets, writer]; exact renewed.held
  gone socket hungUp := by
    rw [sockets, writer]
    exact renewed.gone socket (by simpa using hungUp)
  served := by
    refine (Trace.always_append [] trace _).2 ⟨renewed.served, fun socket hungUp => ?_, trivial⟩
    rw [onSocket]
    exact (renewed.gone socket hungUp).2

theorem Renewed.lost (around : Surroundings) :
    Renewed (loseSocket around connection).1 (trace ++ (loseSocket around connection).2) := by
  obtain ⟨timer, backoff, lost⟩ := loseSocket_eq around connection
  have unnumbered : Trace.numberings (loseSocket around connection).2 = [] := by
    simp [lost, Trace.numberings_silent (Trace.silent_hangUps _)]
  refine ⟨?_, fun socket hungUp => ?_, (Trace.always_append [] trace _).2
    ⟨renewed.served, served_of_unnumbered unnumbered _⟩⟩
  · rw [lost]
    exact nofun
  · rw [lost] at hungUp ⊢
    refine ⟨?_, nofun⟩
    rcases List.mem_append.1 hungUp with before | now
    · exact (renewed.gone socket before).1
    · -- of what is done now only the open socket is hung up
      have held : connection.writer = some socket := by simpa [Trace.rejections] using now
      exact renewed.held socket held

theorem Renewed.adopted : Renewed (adopted connection) (trace ++ [.enter .connected]) where
  held socket same := by
    cases same
    exact Nat.lt_succ_self _
  gone socket hungUp := by
    have below := (renewed.gone socket (by simpa using hungUp)).1
    refine ⟨Nat.lt_succ_of_lt below, fun same => ?_⟩
    cases same
    exact Nat.lt_irrefl _ below
  served := (Trace.always_append [] trace _).2 ⟨renewed.served, trivial, trivial⟩

end Renewed

/-! ## Appointments on the open socket -/

/-- The paced requests are the last of those with an appointment on the open socket. -/
structure Timed (connection : Connection) (agenda : Agenda) : Prop where
  known : ∀ appointment ∈ agenda,
    ∃ socket < connection.sockets, appointment.socket = some socket
  last : connection.lastDeadline =
    (agenda.on connection.writer).getLast?.map Appointment.deadline
  waiting : connection.paced <:+ (agenda.on connection.writer).map Appointment.paced

theorem on_unopened {connection : Connection} {agenda : Agenda} {socket : Option Nat}
    (known : ∀ appointment ∈ agenda, ∃ socket < connection.sockets,
      appointment.socket = some socket)
    (unopened : ∀ number < connection.sockets, socket ≠ some number) :
    agenda.on socket = [] := by
  refine List.filter_eq_nil_iff.2 fun appointment member same => ?_
  obtain ⟨number, below, opened⟩ := known appointment member
  exact unopened number below ((of_decide_eq_true same).symm.trans opened)

section Timed
variable {connection : Connection} {agenda : Agenda} (timed : Timed connection agenda)
include timed

theorem Timed.same {after : Connection} (sockets : after.sockets = connection.sockets)
    (writer : after.writer = connection.writer)
    (lastDeadline : after.lastDeadline = connection.lastDeadline)
    (paced : after.paced = connection.paced) : Timed after agenda where
  known := sockets ▸ timed.known
  last := by rw [lastDeadline, writer]; exact timed.last
  waiting := by rw [paced, writer]; exact timed.waiting

theorem Timed.released {first : Paced} {rest : List Paced}
    (oldest : connection.paced = first :: rest) : Timed (released rest connection) agenda :=
  have shorter : rest <:+ connection.paced := oldest ▸ List.suffix_cons first rest
  ⟨timed.known, timed.last, shorter.trans timed.waiting⟩

theorem Timed.lost (around : Surroundings) : Timed (loseSocket around connection).1 agenda := by
  have nobody : agenda.on none = [] := on_unopened timed.known fun _ _ => nofun
  obtain ⟨timer, backoff, lost⟩ := loseSocket_eq around connection
  rw [lost]
  exact ⟨timed.known, by simp [nobody], List.nil_suffix⟩

theorem Timed.adopted (coherent : Coherent connection)
    (connecting : connection.phase = .connecting) : Timed (adopted connection) agenda := by
  have shut : connection.phase ≠ .connected := by simp [connecting]
  have fresh : agenda.on (some connection.sockets) = [] := by
    refine on_unopened timed.known fun number below same => ?_
    cases same
    exact Nat.lt_irrefl _ below
  have unheld : agenda.on connection.writer = [] := by
    rw [(coherent.unheld shut).1]
    exact on_unopened timed.known fun _ _ => nofun
  have noDeadline : connection.lastDeadline = none := by simpa [unheld] using timed.last
  exact {
    known := fun appointment member => by
      obtain ⟨number, below, opened⟩ := timed.known appointment member
      exact ⟨number, Nat.lt_succ_of_lt below, opened⟩
    last := by
      show connection.lastDeadline = (agenda.on (some connection.sockets)).getLast?.map _
      rw [fresh, noDeadline]
      rfl
    waiting := by
      show connection.paced <:+ _
      rw [coherent.paced shut]
      exact List.nil_suffix }

theorem Timed.nextDeadline (delay now : Nat) (queued : Queued) :
    nextDeadline now delay connection.lastDeadline =
      (agenda.next delay now (nextNumbering queued connection)).deadline := by
  rw [timed.last]
  show _ = Appointment.deadlineAfter delay now (agenda.on connection.writer).getLast?
  cases (agenda.on connection.writer).getLast? with
  | none => rfl
  | some previous => exact congrArg (· + delay) (Nat.max_comm ..)

theorem Timed.paced (around : Surroundings) (delay : Nat) (queued : Queued) :
    (pace around delay (nextNumbering queued connection).id
        (nextNumbering queued connection).request (numbered queued connection)).paced =
      connection.paced ++
        [(agenda.next delay around.now (nextNumbering queued connection)).paced] := by
  rw [Appointment.paced, ← timed.nextDeadline]
  rfl

theorem Timed.booked (around : Surroundings) (delay : Nat) (queued : Queued) {socket : Nat}
    (isOpen : connection.writer = some socket) (opened : socket < connection.sockets) :
    Timed (pace around delay (nextNumbering queued connection).id
        (nextNumbering queued connection).request (numbered queued connection))
      (agenda ++ [agenda.next delay around.now (nextNumbering queued connection)]) := by
  have onSocket :
      (agenda ++ [agenda.next delay around.now (nextNumbering queued connection)]).on
          connection.writer =
        agenda.on connection.writer ++
          [agenda.next delay around.now (nextNumbering queued connection)] := by
    rw [Agenda.on_append]
    exact congrArg _ (List.filter_eq_self.2 (by simp [Agenda.next, Appointment.socket]))
  refine ⟨?_, ?_, ?_⟩
  · exact List.forall_mem_append.2 ⟨timed.known,
      List.forall_mem_singleton.2 ⟨socket, opened, isOpen⟩⟩
  · show some (Connection.nextDeadline around.now delay connection.lastDeadline) =
      (Agenda.on (_ ++ _) connection.writer).getLast?.map Appointment.deadline
    rw [onSocket, List.getLast?_concat, timed.nextDeadline]
    rfl
  · show _ <:+ (Agenda.on (_ ++ _) connection.writer).map Appointment.paced
    rw [timed.paced, onSocket, List.map_append]
    exact List.suffix_append_self_iff.2 timed.waiting

end Timed

/-! ## Booking -/

/-- What is done at a time gives out appointments, and the requests that get one wait behind the
others.  Nothing is written. -/
structure Books (delay now : Nat) (before : Connection) (handled : Handled) : Prop where
  renewed : ∀ trace, Renewed before trace → Renewed handled.1 (trace ++ handled.2)
  timed : ∀ agenda trace, Renewed before trace → Timed before agenda →
    ∃ booked : Agenda,
      agenda.extend delay (Trace.dated now handled.2) = agenda ++ booked ∧
      handled.1.paced = before.paced ++ booked.map Appointment.paced ∧
      Timed handled.1 (agenda ++ booked)
  unwritten : Trace.written handled.2 = []

section Books
variable {delay : Nat} (around : Surroundings) {connection : Connection}

theorem books_andThen {now : Nat} {first : Handled} {next : Connection → Handled}
    (before : Books delay now connection first) (after : Books delay now first.1 (next first.1)) :
    Books delay now connection (andThen first next) where
  renewed trace renewed := by
    have kept := after.renewed _ (before.renewed trace renewed)
    rw [List.append_assoc] at kept
    exact kept
  timed agenda trace renewed timed := by
    obtain ⟨booked, noted, waits, keeps⟩ := before.timed agenda trace renewed timed
    obtain ⟨more, notedToo, behind, kept⟩ :=
      after.timed (agenda ++ booked) _ (before.renewed trace renewed) keeps
    refine ⟨booked ++ more, ?_, ?_, ?_⟩
    · rw [andThen, Trace.dated_append, Agenda.extend_append, noted, notedToo, List.append_assoc]
    · rw [andThen, behind, waits, List.map_append, List.append_assoc]
    · rw [← List.append_assoc]
      exact kept
  unwritten := by
    rw [andThen, Trace.written_append, before.unwritten, after.unwritten]
    rfl

theorem books_same {now : Nat} {after : Connection} {effects : Trace}
    (unnumbered : effects.numberings = []) (unwritten : effects.written = [])
    (noHangUp : ∀ socket, .hangUp socket ∉ effects)
    (sockets : after.sockets = connection.sockets) (writer : after.writer = connection.writer)
    (lastDeadline : after.lastDeadline = connection.lastDeadline)
    (paced : after.paced = connection.paced) : Books delay now connection (after, effects) where
  renewed trace renewed := renewed.tell unnumbered noHangUp sockets writer
  timed agenda trace _ timed := by
    refine ⟨[], ?_, ?_, ?_⟩
    · rw [Agenda.extend_unnumbered delay now agenda unnumbered, List.append_nil]
    · rw [paced, List.map_nil, List.append_nil]
    · rw [List.append_nil]
      exact timed.same sockets writer lastDeadline paced
  unwritten := unwritten

theorem Books.withQueue {now : Nat} {queue : List Queued} {handled : Handled}
    (books : Books delay now { connection with queue } handled) :
    Books delay now connection handled where
  renewed trace renewed := books.renewed trace ⟨renewed.held, renewed.gone, renewed.served⟩
  timed agenda trace renewed timed := books.timed agenda trace
    ⟨renewed.held, renewed.gone, renewed.served⟩ ⟨timed.known, timed.last, timed.waiting⟩
  unwritten := books.unwritten

theorem transmit_books (queued : Queued) {socket : Nat}
    (pacing : connection.options.pacing = some delay)
    (isOpen : connection.writer = some socket) :
    Books delay around.now connection (transmit around queued connection) := by
  rcases transmit_cases around connection queued isOpen with
    ⟨other, same, waits⟩ | ⟨unpaced, _⟩ | ⟨unpaced, _⟩
  · cases pacing.symm.trans same
    rw [waits]
    exact {
      renewed := fun trace renewed => renewed.number rfl rfl rfl
      timed := fun agenda trace renewed timed =>
        ⟨[agenda.next delay around.now (nextNumbering queued connection)], rfl,
          timed.paced around delay queued,
          timed.booked around delay queued isOpen (renewed.held socket isOpen)⟩
      unwritten := rfl }
  · rw [pacing] at unpaced
    cases unpaced
  · rw [pacing] at unpaced
    cases unpaced

theorem flush_books (queue : List Queued) (standing : Standing connection)
    (isOpen : connection.phase = .connected) (pacing : connection.options.pacing = some delay) :
    Books delay around.now connection (flush around queue connection) := by
  induction queue generalizing connection with
  | nil =>
      have silent := Trace.silent_notifications (connection.listeners.map Listener.label)
      rw [List.map_map] at silent
      exact books_same (Trace.numberings_silent silent) (Trace.written_silent silent)
        (by simp) rfl rfl rfl rfl
  | cons first rest ih =>
      have stands := standing.withQueue rest
      obtain ⟨socket, held, _⟩ := stands.socket isOpen
      have sent : Books delay around.now { connection with queue := rest } _ :=
        transmit_books around first pacing held
      have same := transmit_options around first held
      refine books_andThen sent.withQueue ?_
      rcases transmit_standing around stands first isOpen with
        ⟨stillStands, stillOpen, _⟩ | ⟨_, lost⟩
      · simp only [stillOpen]
        exact ih stillStands stillOpen ((congrArg ConnectionOptions.pacing same).trans pacing)
      · simp only [lost]
        exact books_same rfl rfl (by simp) rfl rfl rfl rfl

theorem takeSocket_books (coherent : Coherent connection)
    (connecting : connection.phase = .connecting)
    (pacing : connection.options.pacing = some delay) :
    Books delay around.now connection
      (andThen (adopted connection, [.enter .connected]) (flush around connection.queue)) := by
  refine books_andThen ⟨fun trace renewed => renewed.adopted, fun agenda trace _ timed => ?_, rfl⟩
    (flush_books around connection.queue (adopted_standing coherent connecting) rfl pacing)
  exact ⟨[], (List.append_nil _).symm, (List.append_nil _).symm,
    (List.append_nil agenda).symm ▸ timed.adopted coherent connecting⟩

variable {around} in
theorem Deed.books {event : ConnectionEvent} {handled : Handled} (coherent : Coherent connection)
    (pacing : connection.options.pacing = some delay) (undue : event ≠ .paceDue)
    (deed : Deed around connection event handled) :
    Books delay around.now connection handled ∨ handled = loseSocket around connection := by
  cases deed with
  | nothing | listen | count | dial | enqueue | enqueueAndDial | ignore | answer =>
      exact Or.inl (books_same rfl rfl (by simp) rfl rfl rfl rfl)
  | transmit ticket request isOpen =>
      obtain ⟨socket, held, _⟩ := coherent.socket isOpen
      have taken : Books delay around.now connection (connection, [.accept ⟨ticket, request⟩]) :=
        books_same rfl rfl (by simp) rfl rfl rfl rfl
      exact Or.inl (books_andThen taken (transmit_books _ ⟨ticket, request⟩ pacing held))
  | takeSocket connecting => exact Or.inl (takeSocket_books _ coherent connecting pacing)
  | fail =>
      obtain ⟨timer, backoff, failed⟩ := failConnect_eq around { connection with dialing := false }
      rw [failed]
      exact Or.inl (books_same rfl rfl (by simp) rfl rfl rfl rfl)
  | lose => exact Or.inr rfl
  | release | skip => exact absurd rfl undue

end Books

/-! ## Deadlines that are over -/

theorem loseSocket_unwritten (around : Surroundings) (connection : Connection) :
    Trace.written (loseSocket around connection).2 = [] ∧
      Trace.numberings (loseSocket around connection).2 = [] := by
  obtain ⟨timer, backoff, lost⟩ := loseSocket_eq around connection
  have silent := Trace.silent_hangUps connection.writer.toList
  rw [lost]
  simp [Trace.written_silent silent, Trace.numberings_silent silent]

theorem shutDown_unwritten (connection : Connection) :
    Trace.written (shutDown connection).2 = [] ∧ Trace.numberings (shutDown connection).2 = [] := by
  have silent := Trace.silent_hangUps connection.writer.toList
  rw [shutDown_eq]
  simp [Trace.written_silent silent, Trace.numberings_silent silent]

/-- The socket is hung up: nothing is written, and nobody waits for a deadline any more. -/
structure Ends (before : Connection) (handled : Handled) : Prop where
  hungUp : ∀ socket, before.writer = some socket → .hangUp socket ∈ handled.2
  unwritten : Trace.written handled.2 = []
  phase : handled.1.phase = .disconnected
  nobody : handled.1.paced = []

theorem loseSocket_ends (around : Surroundings) (connection : Connection) :
    Ends connection (loseSocket around connection) := by
  have unwritten := (loseSocket_unwritten around connection).1
  obtain ⟨timer, backoff, lost⟩ := loseSocket_eq around connection
  rw [lost] at unwritten ⊢
  exact ⟨fun socket held => by simp [held], unwritten, rfl, rfl⟩

theorem shutDown_ends (connection : Connection) : Ends connection (shutDown connection) := by
  have unwritten := (shutDown_unwritten connection).1
  rw [shutDown_eq] at unwritten ⊢
  exact ⟨fun socket held => by simp [held], unwritten, rfl, rfl⟩

theorem Ends.aside {before : Connection} {handled : Handled} (ends : Ends before handled)
    {aside : Trace} (plain : ∀ effect ∈ aside, effect.IsAside) :
    Ends before (handled.1, handled.2 ++ aside) where
  hungUp socket held := List.mem_append_left _ (ends.hungUp socket held)
  unwritten := by rw [Trace.written_append, ends.unwritten, Trace.written_aside plain]; rfl
  phase := ends.phase
  nobody := ends.nobody

section Handled
variable {delay : Nat} (around : Surroundings) {connection : Connection}
  (coherent : Coherent connection) (pacing : connection.options.pacing = some delay)
include coherent pacing

/-- Whatever an open connection is told, its paced requests keep to their appointments. -/
theorem handle_timed (event : ConnectionEvent) (goesOn : event ≠ .close) {agenda : Agenda}
    {trace : Trace} (renewed : Renewed connection trace) (timed : Timed connection agenda) :
    Renewed (handle around event connection).1 (trace ++ (handle around event connection).2) ∧
      Timed (handle around event connection).1
        (agenda.extend delay (Trace.dated around.now (handle around event connection).2)) := by
  have lost : Timed (loseSocket around connection).1
      (agenda.extend delay (Trace.dated around.now (loseSocket around connection).2)) := by
    rw [Agenda.extend_unnumbered delay _ _ (loseSocket_unwritten around connection).2]
    exact timed.lost around
  by_cases due : event = .paceDue
  · subst due
    have fires := paceDue_fires around coherent
    generalize handle around .paceDue connection = handled at fires ⊢
    cases fires with
    | nobody | early => exact ⟨renewed.tell rfl (by simp) rfl rfl, timed⟩
    | write first rest socket oldest =>
        exact ⟨renewed.tell rfl (by simp) rfl rfl, timed.released oldest⟩
    | lose => exact ⟨renewed.lost around, lost⟩
    | skip first rest oldest => exact ⟨renewed.tell rfl (by simp) rfl rfl, timed.released oldest⟩
  · rcases (handle_deed around coherent event goesOn).books coherent pacing due with
      booked | gone
    · obtain ⟨_, noted, _, kept⟩ := booked.timed agenda trace renewed timed
      exact ⟨booked.renewed trace renewed, noted ▸ kept⟩
    · rw [gone]
      exact ⟨renewed.lost around, lost⟩

/-- Only the first of the paced requests is written, and only once its deadline is over. -/
theorem handle_writes (event : ConnectionEvent) {socket id : Nat} {request : Request}
    (written : .write socket id request ∈ (handle around event connection).2) :
    ∃ first rest, connection.paced = first :: rest ∧ first.deadline ≤ around.now ∧
      first.line connection.writer = (some socket, id, request) := by
  have line := Trace.written_of_mem written
  by_cases due : event = .paceDue
  · subst due
    have fires := paceDue_fires around coherent
    generalize handle around .paceDue connection = handled at fires line
    cases fires with
    | nobody | early | skip => cases line
    | write first rest other oldest due held =>
        cases List.mem_singleton.1 line
        exact ⟨first, rest, oldest, due, by rw [held]; rfl⟩
    | lose =>
        rw [(loseSocket_unwritten around connection).1] at line
        cases line
  · by_cases closes : event = .close
    · subst closes
      rw [show handle around .close connection = shutDown connection from rfl,
        (shutDown_unwritten connection).1] at line
      cases line
    · rcases (handle_deed around coherent event closes).books coherent pacing due with
        booked | gone
      · rw [booked.unwritten] at line
        cases line
      · rw [gone, (loseSocket_unwritten around connection).1] at line
        cases line

end Handled

end Connection

end BookmarkHub
