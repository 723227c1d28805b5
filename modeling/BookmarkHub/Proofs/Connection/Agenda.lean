import BookmarkHub.Proofs.Connection.Moments

/-!
# Agendas

With a pacing delay every request that gets a number also gets an appointment:
the delay after it was taken, or after the appointment before it on the same
socket if that is later.  The agenda is read off what was done and when.
-/

set_option autoImplicit false

namespace BookmarkHub

open Connection

namespace DatedTrace

def numberings (dated : DatedTrace) : List (Nat × Numbering) :=
  dated.filterMap fun done => done.2.numbering?.map (done.1, ·)

theorem numberings_append (first second : DatedTrace) :
    numberings (first ++ second) = numberings first ++ numberings second :=
  List.filterMap_append

theorem numberings_singleton (done : Nat × ConnectionEffect) :
    numberings [done] = (done.2.numbering?.map (done.1, ·)).toList := by
  simp only [numberings, List.filterMap_cons, List.filterMap_nil]
  cases done.2.numbering? <;> rfl

theorem undated_numberings (dated : DatedTrace) :
    dated.numberings.map Prod.snd = Trace.numberings (dated.map Prod.snd) := by
  simp [numberings, Trace.numberings, List.map_filterMap, List.filterMap_map, Function.comp_def]

end DatedTrace

/-- When a paced request got its number and its place behind the others, and when it may be
written at the earliest. -/
structure Appointment where
  numbering : Numbering
  accepted : Nat
  deadline : Nat

namespace Appointment

abbrev socket (appointment : Appointment) : Option Nat := appointment.numbering.socket

abbrev caller (appointment : Appointment) : Ticket := appointment.numbering.queued.ticket

def paced (appointment : Appointment) : Paced :=
  ⟨appointment.deadline, appointment.numbering.id, appointment.numbering.request⟩

/-- The deadline of a request after the appointment before it. -/
def deadlineAfter (delay accepted : Nat) : Option Appointment → Nat
  | none => accepted + delay
  | some previous => max previous.deadline accepted + delay

end Appointment

abbrev Agenda := List Appointment

namespace Agenda

def on (agenda : Agenda) (socket : Option Nat) : Agenda := agenda.filter (·.socket = socket)

def next (delay : Nat) (agenda : Agenda) (now : Nat) (numbering : Numbering) : Appointment where
  numbering
  accepted := now
  deadline := Appointment.deadlineAfter delay now (agenda.on numbering.socket).getLast?

/-- The agenda after an effect: a request that gets a number gets an appointment. -/
def note (delay : Nat) (agenda : Agenda) (done : Nat × ConnectionEffect) : Agenda :=
  match done.2.numbering? with
  | none => agenda
  | some numbering => agenda ++ [next delay agenda done.1 numbering]

theorem note_of_none {delay : Nat} {agenda : Agenda} {done : Nat × ConnectionEffect}
    (none : done.2.numbering? = none) : note delay agenda done = agenda := by
  rw [note, none]

theorem note_of_some {delay : Nat} {agenda : Agenda} {done : Nat × ConnectionEffect}
    {numbering : Numbering} (numbered : done.2.numbering? = some numbering) :
    note delay agenda done = agenda ++ [next delay agenda done.1 numbering] := by
  rw [note, numbered]

def extend (delay : Nat) (agenda : Agenda) (dated : DatedTrace) : Agenda :=
  dated.foldl (note delay) agenda

def ofDated (delay : Nat) (dated : DatedTrace) : Agenda := extend delay [] dated

theorem on_append (first second : Agenda) (socket : Option Nat) :
    on (first ++ second) socket = on first socket ++ on second socket := List.filter_append ..

theorem extend_append (delay : Nat) (agenda : Agenda) (first second : DatedTrace) :
    extend delay agenda (first ++ second) = extend delay (extend delay agenda first) second :=
  List.foldl_append ..

theorem prefix_extend (delay : Nat) (agenda : Agenda) (dated : DatedTrace) :
    agenda <+: extend delay agenda dated := by
  induction dated generalizing agenda with
  | nil => exact List.prefix_refl _
  | cons done rest ih =>
      refine List.IsPrefix.trans ?_ (ih (note delay agenda done))
      unfold note
      split
      · exact List.prefix_refl _
      · exact List.prefix_append _ _

theorem extend_unnumbered (delay now : Nat) (agenda : Agenda) {effects : Trace}
    (none : effects.numberings = []) : extend delay agenda (effects.dated now) = agenda := by
  induction effects with
  | nil => rfl
  | cons effect rest ih =>
      rw [Trace.numberings_cons, List.append_eq_nil_iff, Option.toList_eq_nil_iff] at none
      show extend delay (note delay agenda (now, effect)) (Trace.dated now rest) = agenda
      rw [note_of_none none.1]
      exact ih none.2

/-! ## Deadlines -/

/-- Every deadline is the delay after the request was taken, or after the deadline before. -/
def Scheduled (delay : Nat) (agenda : Agenda) : Prop :=
  ∀ (before : Agenda) appointment after, agenda = before ++ appointment :: after →
    appointment.deadline =
      Appointment.deadlineAfter delay appointment.accepted (before.on appointment.socket).getLast?

theorem scheduled_note {delay : Nat} {agenda : Agenda} (scheduled : Scheduled delay agenda)
    (done : Nat × ConnectionEffect) : Scheduled delay (note delay agenda done) := by
  unfold note
  split
  · exact scheduled
  · intro before appointment after split
    rcases List.append_eq_append_iff.1 split with ⟨more, first, one⟩ | ⟨more, first, same⟩
    · -- the appointment is the new one
      obtain ⟨rfl, single⟩ := List.append_eq_singleton_iff.1 one.symm |>.resolve_right (by simp)
      cases single
      rw [first, List.append_nil]
      rfl
    · cases more with
      | nil =>
          cases same
          rw [first, List.append_nil]
          rfl
      | cons other rest =>
          cases same
          exact scheduled before _ _ first

theorem ofDated_scheduled (delay : Nat) (dated : DatedTrace) :
    Scheduled delay (ofDated delay dated) := by
  induction dated using List.reverseRecOn with
  | nil =>
      intro before appointment after split
      cases before <;> cases split
  | append_singleton earlier done ih =>
      rw [ofDated, extend_append]
      exact scheduled_note ih done

theorem Scheduled.earlier {delay : Nat} {earlier later : Agenda}
    (scheduled : Scheduled delay (earlier ++ later)) : Scheduled delay earlier := by
  intro before appointment after split
  refine scheduled before appointment (after ++ later) ?_
  rw [split, List.append_assoc, List.cons_append]

theorem Scheduled.later {delay : Nat} {agenda : Agenda} (scheduled : Scheduled delay agenda)
    {appointment : Appointment} (member : appointment ∈ agenda) :
    appointment.accepted + delay ≤ appointment.deadline := by
  obtain ⟨before, after, split⟩ := List.append_of_mem member
  rw [scheduled before appointment after split]
  cases (Agenda.on before appointment.socket).getLast? with
  | none => exact Nat.le_refl _
  | some previous => exact Nat.add_le_add_right (Nat.le_max_right ..) delay

theorem deadline_le_last {delay : Nat} {agenda : Agenda}
    (apart : agenda.Pairwise fun first second => first.deadline + delay ≤ second.deadline)
    {last : Appointment} (final : agenda.getLast? = some last) {appointment : Appointment}
    (member : appointment ∈ agenda) : appointment.deadline ≤ last.deadline := by
  obtain ⟨front, rfl⟩ := List.getLast?_eq_some_iff.1 final
  rcases List.mem_append.1 member with before | same
  · have away := (List.pairwise_append.1 apart).2.2 appointment before last (by simp)
    exact Nat.le_trans (Nat.le_add_right ..) away
  · cases List.mem_singleton.1 same
    exact Nat.le_refl _

/-- Deadlines on one socket are the delay apart. -/
theorem Scheduled.apart {delay : Nat} {agenda : Agenda} (scheduled : Scheduled delay agenda)
    (socket : Option Nat) :
    (agenda.on socket).Pairwise fun first second => first.deadline + delay ≤ second.deadline := by
  induction agenda using List.reverseRecOn with
  | nil => exact List.Pairwise.nil
  | append_singleton earlier last ih =>
      have before := ih scheduled.earlier
      rw [on_append]
      by_cases same : last.socket = socket
      · have alone : on [last] socket = [last] := by simp [on, same]
        rw [alone]
        refine List.pairwise_append.2 ⟨before, List.pairwise_singleton _ _, fun other there => ?_⟩
        intro final member
        cases List.mem_singleton.1 member
        have deadline := scheduled earlier last [] rfl
        rw [same] at deadline
        rw [deadline]
        cases previous : (on earlier socket).getLast? with
        | none =>
            rw [List.getLast?_eq_none_iff.1 previous] at there
            cases there
        | some latest =>
            have most := deadline_le_last before previous there
            exact Nat.add_le_add_right (Nat.le_trans most (Nat.le_max_left ..)) delay
      · have elsewhere : on [last] socket = [] := by simp [on, same]
        rw [elsewhere, List.append_nil]
        exact before

/-- Every request that got a number is on the agenda, in the order of the numbers and with its
time. -/
theorem accepted_ofDated (delay : Nat) (dated : DatedTrace) :
    (ofDated delay dated).map (fun appointment => (appointment.accepted, appointment.numbering)) =
      dated.numberings := by
  induction dated using List.reverseRecOn with
  | nil => rfl
  | append_singleton earlier done ih =>
      rw [ofDated, extend_append, DatedTrace.numberings_append, ← ih]
      show (note delay (ofDated delay earlier) done).map _ = _
      rw [DatedTrace.numberings_singleton]
      cases numbered : done.2.numbering? with
      | none =>
          rw [note_of_none numbered]
          exact (List.append_nil _).symm
      | some numbering =>
          rw [note_of_some numbered, List.map_append]
          rfl

end Agenda

end BookmarkHub
