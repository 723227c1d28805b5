import BookmarkHub.Proofs.Connection.Bookkeeping
import BookmarkHub.Proofs.Connection.History

/-!
# Every request is accounted for

While a connection runs, its books and its mailbox together hold every request
that was handed in.  When it is closed, all of them have been resolved, and a
request that comes later is resolved at once.
-/

set_option autoImplicit false

namespace BookmarkHub

open Connection
open Trace (Always)

/-- What is so of everything that was done, also when the connection was closed. -/
structure Archive (history : History) : Prop where
  ids : ∃ last, history.trace.numberings.map Numbering.id = List.range' 1 last
  order : (history.trace.numberings.map Numbering.queued).Sublist history.trace.accepted
  taken : history.trace.accepted <+: withTickets history.requests
  wire : history.trace.written.Sublist (history.trace.numberings.map Numbering.line)
  lawful : Always Lawful [] history.trace

structure Running (history : History) : Prop where
  coherent : Coherent history.connection
  ledger : Ledger history.connection history.trace []
  balanced : history.trace.accepted ++ history.endpoint.unread = withTickets history.requests

structure Stopped (history : History) : Prop extends Archive history where
  stopped : history.connection.stopped = true
  mailbox : history.endpoint.mailbox = []
  queue : history.connection.queue = []
  pending : history.connection.pending = Table.empty
  resolved : history.trace.resolved.Perm (List.range history.requests.length)

theorem Running.archive {history : History} (running : Running history) : Archive history where
  ids := ⟨_, running.ledger.ids⟩
  order := (List.sublist_append_left _ _).trans running.ledger.order
  taken := ⟨_, running.balanced⟩
  wire := (List.sublist_append_left _ _).trans running.ledger.wire
  lawful := running.ledger.lawful

theorem start_running (options : ConnectionOptions) : Running (History.start options) where
  coherent := coherent_create options
  ledger := ledger_create options
  balanced := rfl

/-! ## Rejected commands -/

theorem resolved_reject (command : CallerCommand) :
    Trace.resolved (Endpoint.reject command) = (command.queued?.map Queued.ticket).toList := by
  cases command <;> rfl

theorem resolved_rejected (mailbox : List CallerCommand) :
    Trace.resolved (mailbox.flatMap Endpoint.reject) =
      (mailbox.filterMap CallerCommand.queued?).map Queued.ticket := by
  induction mailbox with
  | nil => rfl
  | cons command rest ih =>
      rw [List.flatMap_cons, Trace.resolved_append, ih, resolved_reject]
      cases handedIn : command.queued? <;> simp [handedIn]

theorem lawful_of_aside {aside : Trace} (outside : ∀ effect ∈ aside, effect.IsAside)
    (past : Trace) : Always Lawful past aside :=
  Trace.always_of_forall past aside fun before effect member => by
    have harmless := outside effect member
    cases effect with
    | notify label => trivial
    | resolve ticket outcome =>
        rcases outcome with failure | response
        · cases failure <;> first | exact Or.inr rfl | exact harmless.elim
        · exact harmless.elim
    | tellCounts caller counts =>
        rcases counts with failure | counts
        · cases failure <;> first | exact rfl | exact harmless.elim
        · exact harmless.elim
    | _ => exact harmless.elim

theorem Archive.aside {history after : History} (archive : Archive history) {aside : Trace}
    (outside : ∀ effect ∈ aside, effect.IsAside) (told : after.trace = history.trace ++ aside)
    (requests : withTickets history.requests <+: withTickets after.requests) : Archive after where
  ids := by simpa [told, Trace.numberings_aside outside] using archive.ids
  order := by
    simpa [told, Trace.numberings_aside outside, Trace.accepted_aside outside] using archive.order
  taken := by
    simpa [told, Trace.accepted_aside outside] using archive.taken.trans requests
  wire := by
    simpa [told, Trace.numberings_aside outside, Trace.written_aside outside] using archive.wire
  lawful := by
    rw [told, Trace.always_append]
    exact ⟨archive.lawful, lawful_of_aside outside _⟩

/-! ## What the connection is told -/

section Told
variable {connection : Connection} {trace : Trace} (around : Surroundings)

theorem queued?_event (command : CallerCommand) : command.event.queued? = command.queued? := by
  cases command <;> rfl

theorem queued?_occurrence (occurrence : Occurrence) : occurrence.event.queued? = none := by
  cases occurrence <;> rfl

theorem fresh_of_balanced {accepted rest : List Queued} {requests : List Request}
    {queued : Queued} (balanced : accepted ++ (queued :: rest) = withTickets requests) :
    queued.ticket ∉ accepted.map Queued.ticket := by
  have distinct : ((accepted ++ (queued :: rest)).map Queued.ticket).Nodup := by
    rw [balanced, tickets_withTickets]
    exact List.nodup_range
  rw [List.map_append] at distinct
  exact fun known =>
    (List.nodup_append.1 distinct).2.2 _ known _ (List.mem_cons_self ..) rfl

theorem tell_running (coherent : Coherent connection) (ledger : Ledger connection trace [])
    (event : ConnectionEvent) (goesOn : event ≠ .close) (mailbox : List CallerCommand)
    (requests : List Request)
    (balanced : trace.accepted ++ (event.queued?.toList ++ Endpoint.unread ⟨connection, mailbox⟩) =
      withTickets requests) :
    Running {
      endpoint := (Endpoint.tell around event ⟨connection, mailbox⟩).1
      requests
      trace := trace ++ (Endpoint.tell around event ⟨connection, mailbox⟩).2 } := by
  have after := handle_coherent around coherent event goesOn
  have fresh : ∀ queued, event.queued? = some queued →
      queued.ticket ∉ trace.accepted.map Queued.ticket := by
    intro queued taken
    rw [taken] at balanced
    exact fresh_of_balanced balanced
  have books := handle_ledger around coherent event ledger fresh
  rw [Endpoint.tell_eq, step_of_running around connection event coherent.running, after.running]
  refine ⟨after, books, ?_⟩
  rw [← balanced]
  simp [handle_accepted around coherent event, Endpoint.unread]

theorem tell_close (coherent : Coherent connection) (ledger : Ledger connection trace [])
    (mailbox : List CallerCommand) (requests : List Request)
    (balanced : trace.accepted ++ Endpoint.unread ⟨connection, mailbox⟩ = withTickets requests) :
    Stopped {
      endpoint := (Endpoint.tell around .close ⟨connection, mailbox⟩).1
      requests
      trace := trace ++ (Endpoint.tell around .close ⟨connection, mailbox⟩).2 } := by
  have kept := shutDown_keeps connection
  have books := kept.books trace ledger
  have taken : (trace ++ (shutDown connection).2).accepted = trace.accepted := by
    simp [kept.nothing]
  have told : Endpoint.tell around .close ⟨connection, mailbox⟩ =
      (⟨(shutDown connection).1, []⟩,
        (shutDown connection).2 ++ mailbox.flatMap Endpoint.reject) := by
    rw [Endpoint.tell_eq, step_of_running around connection .close coherent.running]
    rfl
  have archive : Archive ⟨⟨connection, mailbox⟩, requests, trace ++ (shutDown connection).2⟩ :=
    { ids := ⟨_, books.ids⟩
      order := (List.sublist_append_left _ _).trans books.order
      taken := ⟨_, by rw [taken, balanced]⟩
      wire := (List.sublist_append_left _ _).trans books.wire
      lawful := books.lawful }
  have custody : (trace ++ (shutDown connection).2).resolved.Perm
      (trace.accepted.map Queued.ticket) := by
    rw [← taken]
    exact books.custody
  rw [told]
  -- the mailbox is rejected after the shut-down, so its requests join the resolved ones
  refine ⟨archive.aside (Endpoint.rejected_aside mailbox) ?_ (List.prefix_refl _), rfl, rfl, rfl,
    rfl, ?_⟩
  · exact (List.append_assoc ..).symm
  · have everybody := custody.append_right
      ((mailbox.filterMap CallerCommand.queued?).map Queued.ticket)
    have all : trace.accepted.map Queued.ticket ++
        (mailbox.filterMap CallerCommand.queued?).map Queued.ticket =
        List.range requests.length := by
      rw [← tickets_withTickets, ← balanced, List.map_append, Endpoint.unread]
    rw [all] at everybody
    simpa [resolved_rejected] using everybody

end Told

/-! ## Over a run -/

section Run
variable {history : History} (around : Surroundings)

/-- Either the connection runs, or it was closed. -/
def Kept (history : History) : Prop := Running history ∨ Stopped history

theorem Kept.archive (kept : Kept history) : Archive history :=
  kept.elim Running.archive Stopped.toArchive

theorem tell_kept {connection : Connection} {trace : Trace} (coherent : Coherent connection)
    (ledger : Ledger connection trace []) (event : ConnectionEvent) (mailbox : List CallerCommand)
    (requests : List Request)
    (balanced : trace.accepted ++ (event.queued?.toList ++ Endpoint.unread ⟨connection, mailbox⟩) =
      withTickets requests) :
    Kept {
      endpoint := (Endpoint.tell around event ⟨connection, mailbox⟩).1
      requests
      trace := trace ++ (Endpoint.tell around event ⟨connection, mailbox⟩).2 } := by
  by_cases closes : event = .close
  · subst closes
    exact Or.inr (tell_close around coherent ledger mailbox requests balanced)
  · exact Or.inl (tell_running around coherent ledger event closes mailbox requests balanced)

theorem Running.post (running : Running history) (command : CallerCommand)
    (requests : List Request)
    (balanced : withTickets history.requests ++ command.queued?.toList = withTickets requests) :
    Running {
      endpoint := (history.endpoint.post command).1
      requests
      trace := history.trace ++ (history.endpoint.post command).2 } := by
  rw [Endpoint.post_of_running _ command running.coherent.running]
  refine ⟨running.coherent, by simpa using running.ledger, ?_⟩
  rw [← balanced, ← running.balanced]
  cases handedIn : command.queued? <;> simp [Endpoint.unread, handedIn]

theorem Running.notify (running : Running history) (labels : List String) :
    Running { history with trace := history.trace ++ labels.map .notify } where
  coherent := running.coherent
  ledger := running.ledger.quiet ⟨rfl, rfl, rfl, rfl, Or.inl rfl⟩
    (Trace.silent_notifications labels)
  balanced := by
    simpa [Trace.accepted_silent (Trace.silent_notifications labels)] using running.balanced

theorem Running.extend (running : Running history) (moment : Moment) :
    Kept (history.extend moment) := by
  obtain ⟨around, happening⟩ := moment
  have post (command : CallerCommand) (nobody : command.queued? = none) :
      Kept {
        endpoint := (history.endpoint.post command).1
        requests := history.requests ++ []
        trace := history.trace ++ (history.endpoint.post command).2 } :=
    Or.inl (running.post command _ (by simp [nobody]))
  cases happening with
  | send request =>
      refine Or.inl (running.post (.submit history.requests.length request) _ ?_)
      exact (withTickets_concat ..).symm
  | connect => exact post .connect rfl
  | listen label once immediately =>
      obtain ⟨told, unregistered | registered⟩ :=
        history.endpoint.onConnected_cases label once immediately
      · left
        simpa [History.extend, Happening.act, Happening.request?, unregistered]
          using running.notify told
      · left
        have posted := (running.notify told).post (.listen ⟨label, once⟩) history.requests
          (by simp [CallerCommand.queued?])
        simpa [History.extend, Happening.act, Happening.request?, registered] using posted
  | count caller => exact post (.count caller) rfl
  | close => exact post .close rfl
  | take =>
      cases waiting : history.endpoint.mailbox with
      | nil =>
          left
          simpa [History.extend, Happening.act, Happening.request?, Endpoint.takeCommand, waiting]
            using running
      | cons command rest =>
          have balanced := running.balanced
          simp only [Endpoint.unread, waiting] at balanced
          have told := tell_kept around running.coherent running.ledger command.event rest
            history.requests (by
              rw [← balanced, queued?_event]
              cases handedIn : command.queued? <;> simp [Endpoint.unread, handedIn])
          simpa [History.extend, Happening.act, Happening.request?, Endpoint.takeCommand, waiting]
            using told
  | meet occurrence =>
      have told := tell_kept around running.coherent running.ledger occurrence.event
        history.endpoint.mailbox history.requests
        (by simpa [queued?_occurrence] using running.balanced)
      simpa [History.extend, Happening.act, Happening.request?] using told

theorem Stopped.act (stopped : Stopped history) (ticket : Ticket) (happening : Happening) :
    ∃ aside : Trace, happening.act around ticket history.endpoint = (history.endpoint, aside) ∧
      (∀ effect ∈ aside, effect.IsAside) ∧
      aside.resolved = (happening.request?.map fun _ => ticket).toList := by
  have post (command : CallerCommand) :=
    Endpoint.post_of_stopped history.endpoint command stopped.stopped
  have reject := Endpoint.reject_aside
  cases happening with
  | send request => exact ⟨_, post _, reject (.submit ticket request), rfl⟩
  | connect => exact ⟨_, post _, reject .connect, rfl⟩
  | listen label once immediately =>
      obtain ⟨told, same⟩ : ∃ told, history.endpoint.onConnected label once immediately =
          ((history.endpoint, []), told) := by
        obtain ⟨told, same | same⟩ := history.endpoint.onConnected_cases label once immediately
        · exact ⟨told, same⟩
        · rw [post] at same
          exact ⟨told, same⟩
      refine ⟨told.map .notify, ?_, Trace.aside_notifications told, ?_⟩
      · simp [Happening.act, same]
      · exact Trace.resolved_silent (Trace.silent_notifications told)
  | count caller => exact ⟨_, post _, reject (.count caller), rfl⟩
  | close => exact ⟨_, post _, reject .close, rfl⟩
  | take =>
      refine ⟨[], ?_, by simp, rfl⟩
      simp [Happening.act, Endpoint.takeCommand, stopped.mailbox]
  | meet occurrence =>
      refine ⟨[], ?_, by simp, rfl⟩
      have quiet : history.connection.step around occurrence.event = (history.connection, []) := by
        cases occurrence <;> simp [Connection.step, Occurrence.event, stopped.stopped]
      have same : history.endpoint = ⟨history.connection, []⟩ := by
        rw [← stopped.mailbox]
      simp only [Happening.act]
      rw [Endpoint.tell_eq, quiet, stopped.mailbox, same]
      simp [stopped.stopped]

theorem Stopped.extend (stopped : Stopped history) (moment : Moment) :
    Stopped (history.extend moment) := by
  obtain ⟨around, happening⟩ := moment
  obtain ⟨aside, acted, outside, resolved⟩ :=
    stopped.act around history.requests.length happening
  have extended : history.extend ⟨around, happening⟩ = ⟨history.endpoint,
      history.requests ++ happening.request?.toList, history.trace ++ aside⟩ := by
    simp only [History.extend, acted]
  rw [extended]
  refine ⟨stopped.toArchive.aside outside rfl ?_, stopped.stopped, stopped.mailbox, stopped.queue,
    stopped.pending, ?_⟩
  · cases happening.request? with
    | none => simp
    | some request => simp [withTickets_concat]
  · cases handedIn : happening.request? with
    | none => simpa [resolved, handedIn] using stopped.resolved
    | some request =>
        simpa [resolved, handedIn, List.range_succ] using stopped.resolved.append_right _

theorem run_kept (options : ConnectionOptions) (moments : List Moment) :
    Kept (History.run options moments) := by
  refine History.run_induction options (Or.inl (start_running options)) ?_ moments
  rintro history moment (running | stopped)
  · exact running.extend moment
  · exact Or.inr (stopped.extend moment)

end Run

/-! ## Where every request is, and what becomes of it -/

/-- Every request is accounted for, and so is everything that callers were told.  The mailbox, the
queue, the table and what was resolved hold every ticket, each once.  Taking the command to close,
and the loss of the last caller, stop the connection. -/
structure Accounted (history : History) : Prop where
  places : (history.endpoint.unread.map Queued.ticket ++
    (history.connection.queue.map Queued.ticket ++
      (history.connection.pending.values ++ history.trace.resolved))).Perm
    (List.range history.requests.length)
  numberedOnce : (history.trace.numberings.map fun numbering => numbering.queued.ticket).Nodup
  tabled : ∀ id ticket, history.connection.pending.find? id = some ticket →
    ∃ numbering ∈ history.trace.numberings, numbering.id = id ∧
      numbering.queued.ticket = ticket ∧ numbering.socket = history.connection.writer
  intact : ∀ numbering ∈ history.trace.numberings, numbering.displaced = none
  outcomes : ∀ (before after : Trace) (ticket : Ticket) (outcome : Outcome),
    history.trace = before ++ .resolve ticket outcome :: after → Fair before ticket outcome
  counts : ∀ (before after : Trace) (caller pending queued : Nat),
    history.trace = before ++ .tellCounts caller (.ok (pending, queued)) :: after →
      pending + queued = before.unresolved.length
  closing : ∀ around, history.endpoint.mailbox.head? = some .close →
    (history.extend ⟨around, .take⟩).connection.stopped = true
  abandoning : ∀ around, (history.extend ⟨around, .meet .abandoned⟩).connection.stopped = true
  stopped : history.connection.stopped = true → ∀ moment,
    (history.extend moment).connection.stopped = true
  settled : history.connection.stopped = true →
    history.trace.resolved.Perm (List.range history.requests.length)
  late : history.connection.stopped = true → ∀ around request,
    (history.extend ⟨around, .send request⟩).trace =
      history.trace ++ [.resolve history.requests.length (.error .closed)]

section Accounted
variable {history : History}

theorem Kept.places (kept : Kept history) : (history.endpoint.unread.map Queued.ticket ++
    (history.connection.queue.map Queued.ticket ++
      (history.connection.pending.values ++ history.trace.resolved))).Perm
    (List.range history.requests.length) := by
  rcases kept with running | stopped
  · have custody : (history.connection.queue.map Queued.ticket ++
        (history.connection.pending.values ++ history.trace.resolved)).Perm
        (history.trace.accepted.map Queued.ticket) := by
      refine List.Perm.trans ?_ running.ledger.custody
      rw [← List.append_assoc]
      exact List.perm_append_comm.append_right _
    rw [← tickets_withTickets, ← running.balanced, List.map_append]
    exact List.perm_append_comm.trans (custody.append_right _)
  · simpa [Endpoint.unread, stopped.mailbox, stopped.queue, stopped.pending] using stopped.resolved

theorem Archive.numberedOnce (archive : Archive history) :
    (history.trace.numberings.map fun numbering => numbering.queued.ticket).Nodup := by
  have among := (archive.order.trans archive.taken.sublist).map Queued.ticket
  rw [List.map_map, tickets_withTickets] at among
  exact among.nodup List.nodup_range

theorem Archive.intact (archive : Archive history) {numbering : Numbering}
    (given : numbering ∈ history.trace.numberings) : numbering.displaced = none := by
  obtain ⟨effect, member, seen⟩ := List.mem_filterMap.1 given
  obtain ⟨before, after, split⟩ := List.append_of_mem member
  have lawful := Trace.always_split archive.lawful split
  cases effect <;> cases seen
  exact lawful

theorem Kept.tabled (kept : Kept history) (id : Nat) (ticket : Ticket)
    (found : history.connection.pending.find? id = some ticket) :
    ∃ numbering ∈ history.trace.numberings, numbering.id = id ∧
      numbering.queued.ticket = ticket ∧ numbering.socket = history.connection.writer := by
  rcases kept with running | stopped
  · exact running.ledger.tabled id ticket found
  · rw [stopped.pending] at found
    cases found

theorem Running.unstopped (running : Running history)
    (stopped : history.connection.stopped = true) : False := by
  rw [running.coherent.running] at stopped
  cases stopped

theorem Kept.stopped (kept : Kept history) (closed : history.connection.stopped = true) :
    Stopped history :=
  kept.elim (fun running => (running.unstopped closed).elim) id

theorem Kept.running {history : History} (kept : Kept history)
    (runs : history.connection.stopped = false) : Running history := by
  rcases kept with running | stopped
  · exact running
  · rw [stopped.stopped] at runs
    cases runs

theorem tell_close_stopped (around : Surroundings) (endpoint : Endpoint) :
    (endpoint.tell around .close).1.connection.stopped = true := by
  have stops : (endpoint.connection.step around .close).1.stopped = true := by
    cases stopped : endpoint.connection.stopped <;> simp [step, stopped, handle, shutDown_eq]
  rw [Endpoint.tell_eq, if_pos stops]
  exact stops

theorem Kept.accounted (kept : Kept history) : Accounted history where
  places := kept.places
  numberedOnce := kept.archive.numberedOnce
  tabled := kept.tabled
  intact := fun _ given => kept.archive.intact given
  outcomes := fun _ _ _ _ split => Trace.always_split kept.archive.lawful split
  counts := fun _ _ _ _ _ split => Trace.always_split kept.archive.lawful split
  closing := by
    intro around next
    obtain ⟨rest, mailbox⟩ := List.head?_eq_some_iff.1 next
    simp only [History.connection, History.extend, Happening.act, Endpoint.takeCommand, mailbox]
    exact tell_close_stopped around _
  abandoning := fun around => tell_close_stopped around history.endpoint
  stopped := fun closed moment => ((kept.stopped closed).extend moment).stopped
  settled := fun closed => (kept.stopped closed).resolved
  late := by
    intro closed around request
    simp [History.extend, Happening.act, Endpoint.send, Endpoint.post_of_stopped _ _ closed,
      Endpoint.reject]

end Accounted

/-- In every run of a connection every request is accounted for. -/
theorem run_accounted (options : ConnectionOptions) (moments : List Moment) :
    Accounted (History.run options moments) :=
  (run_kept options moments).accounted

end BookmarkHub
