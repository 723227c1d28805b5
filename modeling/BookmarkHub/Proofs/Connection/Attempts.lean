import BookmarkHub.Proofs.Connection.Coherence

/-!
# One attempt and one socket at a time

An attempt to open a socket is begun only by a connection that neither makes
one nor holds a socket, and a socket comes only from the attempt that ends
with it.  Every request that is written finds a socket.
-/

set_option autoImplicit false

namespace BookmarkHub

namespace Connection

/-- What is done to a connection begins no attempt and takes no socket. -/
structure Steady (connection : Connection) (handled : Handled) : Prop where
  plain : ∀ effect ∈ handled.2, effect.IsPlain
  sockets : handled.1.sockets = connection.sockets
  dialing : handled.1.dialing = true → connection.dialing = true

section Steady
variable (around : Surroundings) (connection : Connection)

theorem steady_none : Steady connection (connection, []) :=
  ⟨by simp, rfl, id⟩

variable {connection} in
theorem steady_andThen {first : Handled} {next : Connection → Handled}
    (before : Steady connection first) (after : Steady first.1 (next first.1)) :
    Steady connection (andThen first next) := by
  refine ⟨?_, after.sockets.trans before.sockets, before.dialing ∘ after.dialing⟩
  intro effect member
  rcases List.mem_append.1 member with earlier | later
  · exact before.plain effect earlier
  · exact after.plain effect later

theorem plain_rejections (failure : Failure) (tickets : List Ticket) :
    ∀ effect ∈ Trace.rejections failure tickets, effect.IsPlain := by
  intro effect member
  obtain ⟨ticket, _, rfl⟩ := List.mem_map.1 member
  trivial

theorem loseSocket_steady : Steady connection (loseSocket around connection) := by
  obtain ⟨timer, backoff, lost⟩ := loseSocket_eq around connection
  rw [lost]
  refine ⟨?_, rfl, id⟩
  intro effect member
  simp only [List.mem_append, List.mem_map, List.mem_cons] at member
  rcases member with ⟨socket, _, rfl⟩ | rfl | rejected
  · trivial
  · trivial
  · exact plain_rejections _ _ effect rejected

theorem shutDown_steady : Steady connection (shutDown connection) := by
  rw [shutDown_eq]
  refine ⟨?_, rfl, fun dialing => by simp at dialing⟩
  intro effect member
  simp only [List.mem_append, List.mem_map, List.mem_singleton] at member
  rcases member with ⟨socket, _, rfl⟩ | rejected | rfl
  · trivial
  · exact plain_rejections _ _ effect rejected
  · trivial

theorem failConnect_steady : Steady connection (failConnect around connection) := by
  obtain ⟨timer, backoff, failed⟩ := failConnect_eq around connection
  rw [failed]
  exact ⟨by simp, rfl, id⟩

variable {connection} in
theorem transmit_steady (queued : Queued) {socket : Nat}
    (held : connection.writer = some socket) :
    Steady connection (transmit around queued connection) := by
  rcases transmit_cases around connection queued held with
    ⟨delay, pacing, waits⟩ | ⟨_, written⟩ | ⟨_, lost⟩
  · rw [waits]
    exact ⟨by simp, rfl, id⟩
  · rw [written]
    exact ⟨by simp, rfl, id⟩
  · rw [lost]
    obtain ⟨plain, sockets, dialing⟩ := loseSocket_steady around (numbered queued connection)
    refine ⟨?_, sockets, dialing⟩
    intro effect member
    rcases List.mem_cons.1 member with rfl | later
    · trivial
    · exact plain effect later

variable {connection} in
theorem flush_steady (queue : List Queued) (standing : Standing connection)
    (isOpen : connection.phase = .connected) :
    Steady connection (flush around queue connection) := by
  induction queue generalizing connection with
  | nil =>
      refine ⟨?_, rfl, id⟩
      intro effect member
      obtain ⟨listener, _, rfl⟩ := List.mem_map.1 member
      trivial
  | cons first rest ih =>
      have stands := standing.withQueue rest
      obtain ⟨socket, held, _⟩ := stands.socket isOpen
      have sent : Steady connection (transmit around first { connection with queue := rest }) :=
        let steady := transmit_steady around first held
        ⟨steady.plain, steady.sockets, steady.dialing⟩
      refine steady_andThen sent ?_
      rcases transmit_standing around stands first isOpen with
        ⟨stillStands, stillOpen, _⟩ | ⟨_, lost⟩
      · simp only [stillOpen]
        exact ih stillStands stillOpen
      · simp only [lost]
        exact steady_none _

variable {connection} in
theorem releasePaced_steady (coherent : Coherent connection) :
    Steady connection (releasePaced around { connection with paceTimer := none }) := by
  by_cases nobody : connection.paced = []
  · rw [releasePaced_of_none around { connection with paceTimer := none } nobody]
    exact ⟨by simp, rfl, id⟩
  · obtain ⟨first, rest, oldest⟩ := List.exists_cons_of_ne_nil nobody
    obtain ⟨socket, held, _⟩ := coherent.socket (coherent.isOpen_of_paced nobody)
    rcases releasePaced_cases around { connection with paceTimer := none } oldest held rfl with
      ⟨_, written⟩ | ⟨_, lost⟩ | ⟨_, skipped⟩
    · rw [written]
      exact ⟨by simp, rfl, id⟩
    · rw [lost]
      obtain ⟨plain, sockets, dialing⟩ :=
        loseSocket_steady around { connection with paceTimer := none }
      exact ⟨plain, sockets, dialing⟩
    · rw [skipped]
      exact ⟨by simp, rfl, id⟩

theorem dispatch_steady (text : String) : Steady connection (dispatch text connection) := by
  rcases dispatch_cases connection text with dropped | ⟨response, ticket, _, _, answered⟩
  · rw [dropped]
    exact steady_none _
  · rw [answered]
    exact ⟨by simp, rfl, id⟩

end Steady

/-- An attempt begins when there is neither an attempt nor a socket, and a socket
comes from the attempt that ends with it, when there is no other. -/
structure OneAtATime (before : Connection) (handled : Handled) : Prop where
  begins : .dial ∈ handled.2 →
    before.dialing = false ∧ before.writer = none ∧ before.reader = none
  once : Trace.dials handled.2 ≤ 1
  takes : handled.1.sockets ≠ before.sockets →
    before.dialing = true ∧ before.writer = none ∧ before.reader = none ∧
      handled.1.sockets = before.sockets + 1 ∧ handled.1.dialing = false
  stranded : ∀ id, .strand id ∉ handled.2

section OneAtATime
variable (around : Surroundings) {connection : Connection}

theorem dials_of_plain {effects : Trace} (plain : ∀ effect ∈ effects, effect.IsPlain) :
    effects.dials = 0 := by
  refine List.countP_eq_zero.2 fun effect member => ?_
  have harmless := plain effect member
  cases effect <;> simp_all [ConnectionEffect.isDial]

theorem Steady.oneAtATime {handled : Handled} (steady : Steady connection handled) :
    OneAtATime connection handled where
  begins := fun dials => (steady.plain _ dials).elim
  once := by rw [dials_of_plain steady.plain]; exact Nat.zero_le 1
  takes := fun taken => absurd steady.sockets taken
  stranded := fun id strands => (steady.plain _ strands).elim

theorem OneAtATime.same {other : Connection} {handled : Handled}
    (single : OneAtATime other handled) (dialing : other.dialing = connection.dialing)
    (writer : other.writer = connection.writer) (reader : other.reader = connection.reader)
    (sockets : other.sockets = connection.sockets) : OneAtATime connection handled :=
  ⟨by simpa only [dialing, writer, reader] using single.begins, single.once,
    by simpa only [dialing, writer, reader, sockets] using single.takes, single.stranded⟩

theorem OneAtATime.surround {handled : Handled} (single : OneAtATime connection handled)
    (first last : Trace) (before : ∀ effect ∈ first, effect.IsPlain)
    (after : ∀ effect ∈ last, effect.IsPlain) :
    OneAtATime connection (handled.1, first ++ handled.2 ++ last) := by
  refine ⟨fun dials => single.begins ?_, ?_, single.takes, fun id strands => single.stranded id ?_⟩
  · simp only [List.mem_append] at dials
    rcases dials with (earlier | amid) | later
    · exact (before _ earlier).elim
    · exact amid
    · exact (after _ later).elim
  · have amid := single.once
    have earlier := dials_of_plain before
    have later := dials_of_plain after
    simp only [Trace.dials, List.countP_append] at amid earlier later ⊢
    omega
  · simp only [List.mem_append] at strands
    rcases strands with (earlier | amid) | later
    · exact (before _ earlier).elim
    · exact amid
    · exact (after _ later).elim

theorem startConnect_oneAtATime (coherent : Coherent connection) :
    OneAtATime connection (startConnect connection) := by
  by_cases idle : connection.phase = .disconnected
  · rw [startConnect_of_disconnected connection idle]
    have shut : connection.phase ≠ .connected := by simp [idle]
    have still : connection.dialing = false := by
      simpa [idle] using coherent.dialing
    obtain ⟨noWriter, noReader⟩ := coherent.unheld shut
    exact ⟨fun _ => ⟨still, noWriter, noReader⟩, Nat.le_refl 1, fun taken => absurd rfl taken,
      by simp⟩
  · rw [startConnect_of_busy connection idle]
    exact (steady_none connection).oneAtATime

theorem takeSocket_oneAtATime (coherent : Coherent connection)
    (dialing : connection.dialing = true) :
    OneAtATime connection (takeSocket around { connection with dialing := false }) := by
  have connecting := coherent.dialing.1 dialing
  have shut : connection.phase ≠ .connected := by simp [connecting]
  obtain ⟨noWriter, noReader⟩ := coherent.unheld shut
  obtain ⟨plain, sockets, stays⟩ :=
    flush_steady around connection.queue (adopted_standing coherent connecting) rfl
  have harmless : ∀ effect ∈ (takeSocket around { connection with dialing := false }).2,
      effect.IsPlain := by
    intro effect member
    rw [takeSocket_eq] at member
    rcases List.mem_cons.1 member with rfl | later
    · trivial
    · exact plain effect later
  have finished : (takeSocket around { connection with dialing := false }).1.dialing ≠ true :=
    fun goesOn => Bool.false_ne_true (stays goesOn)
  refine ⟨fun dials => (harmless _ dials).elim, ?_, fun _ => ?_,
    fun id strands => (harmless _ strands).elim⟩
  · rw [dials_of_plain harmless]
    exact Nat.zero_le 1
  · exact ⟨dialing, noWriter, noReader, sockets, by simpa using finished⟩

theorem handle_oneAtATime (coherent : Coherent connection) (event : ConnectionEvent) :
    OneAtATime connection (handle around event connection) := by
  cases event with
  | connect => exact startConnect_oneAtATime coherent
  | submit ticket request =>
      by_cases isOpen : connection.phase = .connected
      · obtain ⟨socket, held, _⟩ := coherent.socket isOpen
        have sent := (transmit_steady around ⟨ticket, request⟩ held).oneAtATime
        have taken := sent.surround [.accept ⟨ticket, request⟩] [] (by simp) (by simp)
        simp only [handle, andThen, isOpen]
        simpa using taken
      · have begun := startConnect_oneAtATime
          (enqueue_coherent coherent ⟨ticket, request⟩ isOpen)
        have same : OneAtATime connection _ := begun.same rfl rfl rfl rfl
        have taken := same.surround [.accept ⟨ticket, request⟩] [] (by simp) (by simp)
        simp only [handle, andThen]
        simpa using taken
  | listen listener => exact Steady.oneAtATime ⟨by simp [handle], rfl, id⟩
  | count caller => exact Steady.oneAtATime ⟨by simp [handle], rfl, id⟩
  | close => exact (shutDown_steady connection).oneAtATime
  | opened =>
      simp only [handle]
      split
      · rename_i dialing
        exact takeSocket_oneAtATime around coherent dialing
      · exact (steady_none connection).oneAtATime
  | refused =>
      simp only [handle]
      split
      · obtain ⟨plain, sockets, _⟩ := failConnect_steady around { connection with dialing := false }
        exact Steady.oneAtATime ⟨plain, sockets, fun goesOn => by simp_all⟩
      · exact (steady_none connection).oneAtATime
  | frame text =>
      simp only [handle]
      split
      · have read := (dispatch_steady connection text).oneAtATime
        rename_i socket held
        simpa [andThen] using read.surround [.receive socket text] [] (by simp) (by simp)
      · exact (steady_none connection).oneAtATime
  | ended =>
      simp only [handle]
      split
      · exact (loseSocket_steady around connection).oneAtATime
      · exact (steady_none connection).oneAtATime
  | retryDue =>
      simp only [handle]
      split
      · have begun := startConnect_oneAtATime coherent.unarmed
        exact begun.same rfl rfl rfl rfl
      · exact (steady_none connection).oneAtATime
  | paceDue =>
      simp only [handle]
      split
      · exact (releasePaced_steady around coherent).oneAtATime
      · exact (steady_none connection).oneAtATime

end OneAtATime

end Connection

end BookmarkHub
