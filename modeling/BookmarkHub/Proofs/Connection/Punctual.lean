import BookmarkHub.Proofs.Connection.Pacing

/-!
# Pacing over a run

Over every run with a pacing delay the requests on one socket have appointments
the delay apart, whenever they are taken, however late the timer fires and
whichever sockets are lost.  Nothing is written before its appointment.  When
the timer fires for the first of those who wait, it alone leaves its place.
-/

set_option autoImplicit false

namespace BookmarkHub

open Connection

namespace History

/-! ## What a moment does -/

section Moment
variable {history : History} {moment : Moment}

theorem unwritten_of_stopped (coherent : history.connection.stopped = false →
      Coherent history.connection)
    (stopped : (history.extend moment).connection.stopped = true) :
    Trace.written (history.deeds moment) = [] ∧ Trace.numberings (history.deeds moment) = [] := by
  cases told : moment.happening.event? history.endpoint with
  | none =>
      obtain ⟨_, plain⟩ := history.deeds_of_none moment told
      exact ⟨Trace.written_aside plain, Trace.numberings_aside plain⟩
  | some event =>
      obtain ⟨stepped, aside, plain, done⟩ := history.deeds_of_some moment told
      rw [done, Trace.written_append, Trace.numberings_append, Trace.written_aside plain,
        Trace.numberings_aside plain, List.append_nil, List.append_nil]
      cases before : history.connection.stopped with
      | true =>
          obtain ⟨_, outside⟩ := step_of_stopped moment.around history.connection event before
          exact ⟨Trace.written_aside outside, Trace.numberings_aside outside⟩
      | false =>
          rw [step_of_running _ _ _ before] at stepped ⊢
          -- only closing stops it
          have closes : event = .close := by
            by_contra goesOn
            have runs := (handle_coherent moment.around (coherent before) event goesOn).running
            rw [← stepped, stopped] at runs
            cases runs
          subst closes
          exact shutDown_unwritten history.connection

end Moment

/-! ## Appointments of a run -/

/-- The appointments that a run gives out. -/
def agenda (options : ConnectionOptions) (delay : Nat) (moments : List Moment) : Agenda :=
  Agenda.ofDated delay (dated options moments)

theorem agenda_concat (options : ConnectionOptions) (delay : Nat) (earlier : List Moment)
    (moment : Moment) :
    agenda options delay (earlier ++ [moment]) =
      (agenda options delay earlier).extend delay
        (((run options earlier).deeds moment).dated moment.around.now) := by
  rw [agenda, dated_concat, Agenda.ofDated, Agenda.extend_append]
  rfl

theorem numberings_agenda (options : ConnectionOptions) (delay : Nat) (moments : List Moment) :
    (agenda options delay moments).map Appointment.numbering =
      (run options moments).trace.numberings := by
  have same := congrArg (List.map Prod.snd)
    (Agenda.accepted_ofDated delay (dated options moments))
  rw [List.map_map, DatedTrace.undated_numberings, trace_of_dated] at same
  exact same

section Paced
variable {options : ConnectionOptions} {delay : Nat} (pacing : options.pacing = some delay)
include pacing

theorem timed_run (moments : List Moment)
    (running : (run options moments).connection.stopped = false) :
    Renewed (run options moments).connection (run options moments).trace ∧
      Timed (run options moments).connection (agenda options delay moments) := by
  have kept := dated_induction options (fun connection dated =>
      connection.options = options ∧ Renewed connection (dated.map Prod.snd) ∧
        Timed connection (Agenda.ofDated delay dated))
    ⟨rfl, ⟨nofun, nofun, trivial⟩, ⟨nofun, rfl, List.nil_suffix⟩⟩ ?_ ?_ moments running
  · rw [← trace_of_dated]
    exact kept.2
  · intro connection dated now effects plain ⟨same, renewed, timed⟩
    have unnumbered := Trace.numberings_aside plain
    rw [List.map_append, Trace.undated, Agenda.ofDated, Agenda.extend_append,
      Agenda.extend_unnumbered delay now _ unnumbered]
    refine ⟨same, renewed.tell unnumbered (fun socket hungUp => plain _ hungUp) rfl rfl, timed⟩
  · intro around connection event dated coherent goesOn ⟨same, renewed, timed⟩
    rw [List.map_append, Trace.undated, Agenda.ofDated, Agenda.extend_append]
    refine ⟨((handle_deed around coherent event goesOn).options coherent).trans same, ?_⟩
    exact handle_timed around coherent (same ▸ pacing) event goesOn renewed timed

theorem served_run (moments : List Moment) :
    Trace.Always Served [] (run options moments).trace := by
  induction moments using List.reverseRecOn with
  | nil => trivial
  | append_singleton earlier moment ih =>
      cases stopped : (run options (earlier ++ [moment])).connection.stopped with
      | false => exact (timed_run pacing _ stopped).1.served
      | true =>
          rw [run_concat] at stopped ⊢
          obtain ⟨_, unnumbered⟩ := unwritten_of_stopped coherent_run stopped
          exact (Trace.always_append ..).2 ⟨ih, served_of_unnumbered unnumbered _⟩

theorem appointment_of_paced {moments : List Moment} {paced : Paced}
    (running : (run options moments).connection.stopped = false)
    (member : paced ∈ (run options moments).connection.paced) :
    ∃ appointment ∈ agenda options delay moments,
      appointment.paced = paced ∧
        appointment.socket = (run options moments).connection.writer := by
  obtain ⟨appointment, there, same⟩ :=
    List.mem_map.1 ((timed_run pacing moments running).2.waiting.subset member)
  obtain ⟨among, onSocket⟩ := List.mem_filter.1 there
  exact ⟨appointment, among, same, of_decide_eq_true onSocket⟩

theorem appointment_of_write {moments : List Moment} {moment : Moment}
    (running : ((run options moments).extend moment).connection.stopped = false)
    {socket id : Nat} {request : Request}
    (written : .write socket id request ∈ (run options moments).deeds moment) :
    ∃ appointment ∈ agenda options delay moments,
      appointment.numbering.line = (some socket, id, request) ∧
        appointment.deadline ≤ moment.around.now := by
  cases told : moment.happening.event? (run options moments).endpoint with
  | none =>
      obtain ⟨_, plain⟩ := (run options moments).deeds_of_none moment told
      exact (plain _ written).elim
  | some event =>
      obtain ⟨_, before, _, aside, plain, done⟩ := deeds_of_running running told
      rw [done] at written
      have now := (List.mem_append.1 written).resolve_right fun outside => plain _ outside
      have same := options_run options moments before
      obtain ⟨first, rest, oldest, due, line⟩ :=
        handle_writes moment.around (coherent_run before) (same.symm ▸ pacing) event now
      obtain ⟨appointment, member, paced, onSocket⟩ :=
        appointment_of_paced pacing before (oldest ▸ List.mem_cons_self ..)
      subst paced
      refine ⟨appointment, member, ?_, due⟩
      rw [← line, ← onSocket]
      rfl

theorem written_run (moments : List Moment) {now socket id : Nat} {request : Request}
    (written : (now, .write socket id request) ∈ dated options moments) :
    ∃ appointment ∈ agenda options delay moments,
      appointment.numbering.line = (some socket, id, request) ∧ appointment.deadline ≤ now := by
  induction moments using List.reverseRecOn with
  | nil => cases written
  | append_singleton earlier moment ih =>
      rw [dated_concat] at written
      rcases List.mem_append.1 written with before | done
      · obtain ⟨appointment, member, kept⟩ := ih before
        rw [agenda_concat]
        exact ⟨appointment, (Agenda.prefix_extend delay _ _).subset member, kept⟩
      · obtain ⟨effect, effects, same⟩ := List.mem_map.1 done
        cases same
        have line := Trace.written_of_mem effects
        cases stopped : ((run options earlier).extend moment).connection.stopped with
        | true =>
            rw [(unwritten_of_stopped coherent_run stopped).1] at line
            cases line
        | false =>
            obtain ⟨appointment, member, kept⟩ := appointment_of_write pacing stopped effects
            rw [agenda_concat]
            exact ⟨appointment, (Agenda.prefix_extend delay _ _).subset member, kept⟩

end Paced

end History

/-! ## Firings -/

/-- What becomes of the first of those who wait out the delay, once its deadline is over.  It is
passed over if its caller was told what became of it, and else it is written; if the socket does
not take it, the socket is lost with all who wait. -/
structure Leaves (history : History) (around : Surroundings) (first : Appointment)
    (rest : List Paced) : Prop where
  skipped : first.caller ∈ history.trace.resolved →
    (history.extend ⟨around, .meet .paceDue⟩).connection = released rest history.connection ∧
      history.deeds ⟨around, .meet .paceDue⟩ = []
  written : first.caller ∉ history.trace.resolved →
    around.accepts first.numbering.id = true →
      (history.extend ⟨around, .meet .paceDue⟩).connection = released rest history.connection ∧
        ∃ socket, first.socket = some socket ∧
          history.deeds ⟨around, .meet .paceDue⟩ =
            [.write socket first.numbering.id first.numbering.request]
  refused : first.caller ∉ history.trace.resolved →
    around.accepts first.numbering.id = false →
      Ends history.connection
        ((history.extend ⟨around, .meet .paceDue⟩).connection,
          history.deeds ⟨around, .meet .paceDue⟩)

namespace History
variable {history : History}

theorem extend_paceDue (coherent : Coherent history.connection) (around : Surroundings) :
    (history.extend ⟨around, .meet .paceDue⟩).connection =
        (handle around .paceDue history.connection).1 ∧
      history.deeds ⟨around, .meet .paceDue⟩ = (handle around .paceDue history.connection).2 := by
  have runs := (handle_coherent around coherent .paceDue (by simp)).running
  have told : history.endpoint.tell around .paceDue =
      (⟨(handle around .paceDue history.connection).1, history.endpoint.mailbox⟩,
        (handle around .paceDue history.connection).2) := by
    rw [Endpoint.tell_eq, step_of_running _ _ _ coherent.running, if_neg (by simp [runs])]
  exact ⟨congrArg (fun handled => handled.1.connection) told, congrArg Prod.snd told⟩

theorem leaves (running : Running history) (around : Surroundings) {first : Appointment}
    {rest : List Paced} (given : first.numbering ∈ history.trace.numberings)
    (onSocket : first.socket = history.connection.writer)
    (oldest : history.connection.paced = first.paced :: rest)
    (due : first.deadline ≤ around.now) : Leaves history around first rest := by
  obtain ⟨after, done⟩ := extend_paceDue running.coherent around
  have waits := running.ledger.contains_iff given
  have fires := paceDue_fires around running.coherent
  generalize handle around .paceDue history.connection = handled at after done fires
  cases fires with
  | nobody none => rw [none] at oldest; cases oldest
  | early other more same undue =>
      cases oldest.symm.trans same
      exact absurd due (Nat.not_le_of_lt undue)
  | write other more socket same due held tabled taken =>
      cases oldest.symm.trans same
      have unresolved := waits.1 tabled
      exact {
        skipped := fun resolved => absurd resolved unresolved
        written := fun _ _ => ⟨after, socket, onSocket.trans held, done⟩
        refused := fun _ refused => absurd (refused.symm.trans taken) (by simp) }
  | lose other more same due tabled refused =>
      cases oldest.symm.trans same
      have unresolved := waits.1 tabled
      exact {
        skipped := fun resolved => absurd resolved unresolved
        written := fun _ taken => absurd (refused.symm.trans taken) (by simp)
        refused := fun _ _ => by rw [after, done]; exact loseSocket_ends around _ }
  | skip other more same due untabled =>
      cases oldest.symm.trans same
      have resolved : first.caller ∈ history.trace.resolved := by
        by_contra unresolved
        exact absurd ((waits.2 unresolved).symm.trans untabled) (by simp)
      exact {
        skipped := fun _ => ⟨after, done⟩
        written := fun unresolved => absurd resolved unresolved
        refused := fun unresolved => absurd resolved unresolved }

theorem extend_early (coherent : Coherent history.connection) (around : Surroundings)
    (early : ∀ first ∈ history.connection.paced.head?, around.now < first.deadline) :
    (history.extend ⟨around, .meet .paceDue⟩).connection = history.connection ∧
      history.deeds ⟨around, .meet .paceDue⟩ = [] := by
  obtain ⟨after, done⟩ := extend_paceDue coherent around
  have fires := paceDue_fires around coherent
  generalize handle around .paceDue history.connection = handled at after done fires
  cases fires with
  | nobody | early => exact ⟨after, done⟩
  | write first rest socket oldest due | lose first rest oldest due
  | skip first rest oldest due =>
      exact absurd due (Nat.not_le_of_lt (early first (by simp [oldest])))

theorem paceDue_of_event {endpoint : Endpoint} {happening : Happening}
    (told : happening.event? endpoint = some .paceDue) : happening = .meet .paceDue := by
  cases happening with
  | take =>
      obtain ⟨command, _, same⟩ := Option.map_eq_some_iff.1 told
      cases command <;> cases same
  | meet occurrence =>
      cases occurrence <;> cases told
      rfl
  | _ => cases told

section Paced
variable {options : ConnectionOptions} {delay : Nat} (pacing : options.pacing = some delay)
include pacing

/-- Whatever else happens, those who wait out the delay keep their places and new ones stand
behind them, until the socket is hung up. -/
theorem extend_books {moments : List Moment}
    (running : (run options moments).connection.stopped = false) {moment : Moment}
    (undue : moment.happening ≠ .meet .paceDue) :
    (∃ booked, agenda options delay (moments ++ [moment]) =
        agenda options delay moments ++ booked ∧
      ((run options moments).extend moment).connection.paced =
        (run options moments).connection.paced ++ booked.map Appointment.paced) ∨
    Ends (run options moments).connection
      (((run options moments).extend moment).connection, (run options moments).deeds moment) := by
  rw [agenda_concat]
  cases told : moment.happening.event? (run options moments).endpoint with
  | none =>
      obtain ⟨same, plain⟩ := (run options moments).deeds_of_none moment told
      rw [same, Agenda.extend_unnumbered delay _ _ (Trace.numberings_aside plain)]
      exact Or.inl ⟨[], (List.append_nil _).symm, (List.append_nil _).symm⟩
  | some event =>
      obtain ⟨stepped, aside, plain, done⟩ := (run options moments).deeds_of_some moment told
      rw [step_of_running _ _ _ running] at stepped done
      rw [stepped, done]
      by_cases closes : event = .close
      · subst closes
        exact Or.inr ((shutDown_ends _).aside plain)
      · have coherent := coherent_run running
        have same := options_run options moments running
        have deed := handle_deed moment.around coherent event closes
        have later : event ≠ .paceDue := fun due => undue (paceDue_of_event (due ▸ told))
        rcases deed.books coherent (same.symm ▸ pacing) later with booked | gone
        · obtain ⟨renewed, timed⟩ := timed_run pacing moments running
          obtain ⟨more, noted, behind, _⟩ := booked.timed _ _ renewed timed
          rw [Trace.dated_append, Agenda.extend_append, noted,
            Agenda.extend_unnumbered delay _ _ (Trace.numberings_aside plain)]
          exact Or.inl ⟨more, rfl, behind⟩
        · rw [gone]
          exact Or.inr ((loseSocket_ends _ _).aside plain)

end Paced

end History

/-! ## Every run with a pacing delay -/

section Punctual
open History

/-- The appointments of a run with a pacing delay, and how it keeps them.  Every request that gets
a number gets an appointment at that time, for the delay after it or after the deadline before it
on the same socket, and nothing is written earlier.  Those who wait are the last that have an
appointment on the open socket, and keep their places until it is hung up. -/
structure Punctual (options : ConnectionOptions) (delay : Nat) (moments : List Moment) : Prop where
  accepted : (agenda options delay moments).map
      (fun appointment => (appointment.accepted, appointment.numbering)) =
    (dated options moments).numberings
  distinct : ((agenda options delay moments).map fun appointment =>
    appointment.numbering.id).Nodup
  deadlines : ∀ (before : Agenda) appointment after,
    agenda options delay moments = before ++ appointment :: after →
      appointment.deadline = Appointment.deadlineAfter delay appointment.accepted
        (before.on appointment.socket).getLast?
  apart : ∀ socket, ((agenda options delay moments).on socket).Pairwise
    fun first second => first.deadline + delay ≤ second.deadline
  later : ∀ appointment ∈ agenda options delay moments,
    appointment.accepted + delay ≤ appointment.deadline
  renewed : ∀ (before after : Trace) (numbering : Numbering),
    (run options moments).trace = before ++ .number numbering :: after →
      ∀ socket, .hangUp socket ∈ before → numbering.socket ≠ some socket
  written : ∀ now socket id request, (now, .write socket id request) ∈ dated options moments →
    ∃ appointment ∈ agenda options delay moments,
      appointment.numbering.line = (some socket, id, request) ∧ appointment.deadline ≤ now
  waiting : (run options moments).connection.stopped = false →
    (run options moments).connection.paced <:+
      ((agenda options delay moments).on
        (run options moments).connection.writer).map Appointment.paced
  timer : (run options moments).connection.stopped = false →
    (run options moments).connection.paceTimer =
      (run options moments).connection.paced.head?.map Paced.deadline
  early : (run options moments).connection.stopped = false → ∀ around : Surroundings,
    (∀ first ∈ (run options moments).connection.paced.head?,
      around.now < first.deadline) →
      ((run options moments).extend ⟨around, .meet .paceDue⟩).connection =
          (run options moments).connection ∧
        (run options moments).deeds ⟨around, .meet .paceDue⟩ = []
  firing : (run options moments).connection.stopped = false →
    ∀ (around : Surroundings) first rest,
      (run options moments).connection.paced = first :: rest →
      first.deadline ≤ around.now →
        ∃ appointment ∈ agenda options delay moments, appointment.paced = first ∧
          Leaves (run options moments) around appointment rest
  others : (run options moments).connection.stopped = false →
    ∀ moment : Moment, moment.happening ≠ .meet .paceDue →
      (∃ booked, agenda options delay (moments ++ [moment]) =
          agenda options delay moments ++ booked ∧
        ((run options moments).extend moment).connection.paced =
          (run options moments).connection.paced ++ booked.map Appointment.paced) ∨
      Ends (run options moments).connection
        (((run options moments).extend moment).connection,
          (run options moments).deeds moment)

/-- With a pacing delay every run keeps its appointments. -/
theorem run_punctual {options : ConnectionOptions} {delay : Nat}
    (pacing : options.pacing = some delay) (moments : List Moment) :
    Punctual options delay moments where
  accepted := Agenda.accepted_ofDated delay _
  distinct := by
    obtain ⟨last, ids⟩ := (run_kept options moments).archive.ids
    have same := congrArg (List.map Numbering.id) (numberings_agenda options delay moments)
    rw [List.map_map, ids] at same
    exact same ▸ List.nodup_range'
  deadlines := Agenda.ofDated_scheduled delay _
  apart := (Agenda.ofDated_scheduled delay _).apart
  later := fun _ member => (Agenda.ofDated_scheduled delay _).later member
  renewed := fun _ _ _ split => Trace.always_split (served_run pacing moments) split
  written := fun _ _ _ _ sent => written_run pacing moments sent
  waiting := fun running => (timed_run pacing moments running).2.waiting
  timer := fun running => (coherent_run running).timer
  early := fun running => extend_early (coherent_run running)
  firing := by
    intro running around first rest oldest due
    obtain ⟨appointment, member, rfl, onSocket⟩ :=
      appointment_of_paced pacing running (oldest ▸ List.mem_cons_self ..)
    have given : appointment.numbering ∈ (run options moments).trace.numberings := by
      rw [← numberings_agenda options delay]
      exact List.mem_map_of_mem member
    exact ⟨appointment, member, rfl,
      leaves ((run_kept options moments).running running) around given onSocket oldest due⟩
  others := fun running _ undue => extend_books pacing running undue

/-- The timer fires late, the second of three requests is answered while it waits, and the fourth
loses its socket. -/
def lateFiring : List Moment :=
  [(0, .send (.get "/tags")), (0, .take), (0, .send (.get "/tags")), (0, .take),
    (5, .meet .opened), (20, .send (.get "/tags")), (20, .take), (100, .meet .paceDue),
    (260, .meet (.frame "\x7b\"id\":2,\"status\":200,\"body\":null\x7d")),
    (270, .meet .paceDue), (280, .meet .paceDue), (310, .meet .paceDue),
    (400, .send (.get "/tags")), (400, .take), (410, .meet .ended),
    (420, .connect), (420, .take), (425, .meet .opened),
    (430, .send (.get "/tags")), (430, .take), (530, .meet .paceDue)].map
    fun (now, happening) => ⟨.timely now 0 fun _ => true, happening⟩

theorem lateFiring_punctual :
    ({ pacing := some 100 } : ConnectionOptions).pacing = some 100 ∧
      (agenda { pacing := some 100 } 100 lateFiring).map Appointment.deadline =
        [105, 205, 305, 500, 530] ∧
      ((dated { pacing := some 100 } lateFiring).filterMap fun done =>
        done.2.written?.map fun line => (done.1, line.2.1)) = [(270, 1), (310, 3), (530, 5)] ∧
      Punctual { pacing := some 100 } 100 lateFiring :=
  ⟨rfl, by decide +kernel, by decide +kernel, run_punctual rfl lateFiring⟩

end Punctual

end BookmarkHub
