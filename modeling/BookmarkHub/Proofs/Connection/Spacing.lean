import BookmarkHub.Proofs.Connection.Punctual

/-!
# Spacing on the wire

With a pacing delay it is the deadlines of the frames on one socket that are the
delay apart.  A frame may be written late, and the next one does not wait for
it: two frames are as much nearer to each other as the first of them was late,
and those that were overdue together are written together.
-/

set_option autoImplicit false

namespace BookmarkHub

open Connection

namespace DatedTrace

/-- The frames that were written, each with its time. -/
def written (dated : DatedTrace) : List (Nat × WireLine) :=
  dated.filterMap fun done => done.2.written?.map (done.1, ·)

def sent (socket : Nat) (dated : DatedTrace) : List (Nat × WireLine) :=
  dated.written.filter (·.2.1 = some socket)

theorem undated_written (dated : DatedTrace) :
    dated.written.map Prod.snd = Trace.written (dated.map Prod.snd) := by
  simp [written, Trace.written, List.map_filterMap, List.filterMap_map, Function.comp_def]

theorem mem_written {dated : DatedTrace} {now : Nat} {line : WireLine}
    (member : (now, line) ∈ dated.written) :
    ∃ socket id request, (now, .write socket id request) ∈ dated ∧
      line = (some socket, id, request) := by
  obtain ⟨⟨time, effect⟩, among, seen⟩ := List.mem_filterMap.1 member
  cases effect <;> cases seen
  exact ⟨_, _, _, among, rfl⟩

end DatedTrace

/-! ## Deadlines that are met -/

/-- Between two appointments lies the delay once for the later one and once for each between. -/
theorem Agenda.deadline_after {delay : Nat} {first second : Appointment} {between after : Agenda}
    (apart : (first :: (between ++ second :: after)).Pairwise
      fun first second => first.deadline + delay ≤ second.deadline) :
    first.deadline + (between.length + 1) * delay ≤ second.deadline := by
  induction between generalizing first with
  | nil =>
      have next := (List.pairwise_cons.1 apart).1 second (by simp)
      simpa using next
  | cons next rest ih =>
      obtain ⟨close, further⟩ := List.pairwise_cons.1 apart
      have step := close next (by simp)
      have steps := ih further
      rw [List.length_cons, Nat.succ_mul (rest.length + 1)]
      omega

/-- A frame that was written, with its appointment. -/
abbrev Meeting := Nat × Appointment

namespace Meeting

def frame (meeting : Meeting) : Nat × WireLine := (meeting.1, meeting.2.numbering.line)

theorem exists_of_lines (frames : List (Nat × WireLine)) (kept : Agenda)
    (lines : frames.map Prod.snd = kept.map fun appointment => appointment.numbering.line) :
    ∃ meetings : List Meeting, frames = meetings.map frame ∧ meetings.map Prod.snd = kept := by
  induction frames generalizing kept with
  | nil =>
      cases List.map_eq_nil_iff.1 lines.symm
      exact ⟨[], rfl, rfl⟩
  | cons first rest ih =>
      cases kept with
      | nil => cases lines
      | cons appointment others =>
          obtain ⟨line, behind⟩ := List.cons.inj lines
          obtain ⟨meetings, same, kept⟩ := ih others behind
          refine ⟨(first.1, appointment) :: meetings, ?_, ?_⟩
          · rw [List.map_cons, ← same]
            exact congrArg (· :: rest) (Prod.ext rfl line)
          · rw [List.map_cons, kept]

end Meeting

namespace History

section Paced
variable {options : ConnectionOptions} {delay : Nat}

theorem appointment_unique {moments : List Moment} {first second : Appointment}
    (one : first ∈ agenda options delay moments) (other : second ∈ agenda options delay moments)
    (same : first.numbering.id = second.numbering.id) : first = second := by
  obtain ⟨last, ids⟩ := (run_kept options moments).archive.ids
  rw [← numberings_agenda options delay, List.map_map] at ids
  have distinct : ((agenda options delay moments).map
      (Numbering.id ∘ Appointment.numbering)).Nodup := ids ▸ List.nodup_range'
  exact List.inj_on_of_nodup_map distinct one other same

variable (pacing : options.pacing = some delay)
include pacing

/-- The frames of a run are written in the order of their appointments, and none too early. -/
theorem meetings_run (moments : List Moment) : ∃ meetings : List Meeting,
    (dated options moments).written = meetings.map Meeting.frame ∧
      (meetings.map Prod.snd).Sublist (agenda options delay moments) ∧
      ∀ meeting ∈ meetings, meeting.2.deadline ≤ meeting.1 := by
  have wire := (run_kept options moments).archive.wire
  rw [← numberings_agenda options delay, List.map_map] at wire
  obtain ⟨kept, among, lines⟩ := List.sublist_map_iff.1 wire
  rw [← trace_of_dated, ← DatedTrace.undated_written] at lines
  obtain ⟨meetings, same, rfl⟩ := Meeting.exists_of_lines _ kept lines
  refine ⟨meetings, same, among, fun meeting member => ?_⟩
  have frame : meeting.frame ∈ (dated options moments).written := by
    rw [same]
    exact List.mem_map_of_mem member
  obtain ⟨socket, id, request, done, line⟩ := DatedTrace.mem_written frame
  obtain ⟨appointment, given, matching, due⟩ := written_run pacing moments done
  have whole : meeting.2 = appointment := by
    refine appointment_unique (among.subset (List.mem_map_of_mem member)) given ?_
    exact congrArg (fun line => line.2.1) (line.trans matching.symm)
  rw [whole]
  exact due

theorem meetings_on (moments : List Moment) (socket : Nat) : ∃ meetings : List Meeting,
    (dated options moments).sent socket = meetings.map Meeting.frame ∧
      (meetings.map Prod.snd).Sublist ((agenda options delay moments).on (some socket)) ∧
      ∀ meeting ∈ meetings, meeting.2.deadline ≤ meeting.1 := by
  obtain ⟨meetings, written, among, due⟩ := meetings_run pacing moments
  refine ⟨meetings.filter (·.2.socket = some socket), ?_, ?_, ?_⟩
  · rw [DatedTrace.sent, written, List.filter_map]
    rfl
  · have fewer := among.filter (·.socket = some socket)
    rw [List.filter_map] at fewer
    exact fewer
  · exact fun meeting member => due meeting (List.mem_of_mem_filter member)

end Paced

end History

/-! ## Every run with a pacing delay -/

section Spaced
open History

/-- How far apart the frames on one socket are.  A frame is written no earlier than the delay
after the deadline of the frame before it, so that frames are the delay apart but for the time by
which the first one is late. -/
structure Spaced (options : ConnectionOptions) (delay : Nat) (moments : List Moment) : Prop where
  apart : ∀ socket before first between second after,
    (dated options moments).sent socket = before ++ first :: (between ++ second :: after) →
      ∃ appointment ∈ agenda options delay moments, appointment.numbering.line = first.2 ∧
        appointment.deadline ≤ first.1 ∧
        appointment.deadline + (between.length + 1) * delay ≤ second.1
  late : ∀ socket most, (∀ frame ∈ (dated options moments).sent socket,
      ∀ appointment ∈ agenda options delay moments, appointment.numbering.line = frame.2 →
        frame.1 ≤ appointment.deadline + most) →
    ((dated options moments).sent socket).Pairwise
      fun first second => first.1 + delay ≤ second.1 + most

theorem run_spaced {options : ConnectionOptions} {delay : Nat}
    (pacing : options.pacing = some delay) (moments : List Moment) :
    Spaced options delay moments where
  apart socket before first between second after split := by
    obtain ⟨meetings, sent, among, due⟩ := meetings_on pacing moments socket
    rw [sent] at split
    obtain ⟨earlier, rest, rfl, _, fromFirst⟩ := List.map_eq_append_iff.1 split
    obtain ⟨one, others, rfl, rfl, behind⟩ := List.map_eq_cons_iff.1 fromFirst
    obtain ⟨amid, rest, rfl, rfl, fromSecond⟩ := List.map_eq_append_iff.1 behind
    obtain ⟨other, later, rfl, rfl, _⟩ := List.map_eq_cons_iff.1 fromSecond
    have away := ((Agenda.ofDated_scheduled delay _).apart (some socket)).sublist among
    simp only [List.map_append, List.map_cons] at away
    have spaced := Agenda.deadline_after (List.pairwise_append.1 away).2.1
    rw [List.length_map] at spaced
    have given : one.2 ∈ agenda options delay moments :=
      List.mem_of_mem_filter (among.subset (by simp))
    refine ⟨one.2, given, rfl, due one (by simp), ?_⟩
    rw [List.length_map]
    exact Nat.le_trans spaced (due other (by simp))
  late socket most punctual := by
    obtain ⟨meetings, sent, among, due⟩ := meetings_on pacing moments socket
    have away := ((Agenda.ofDated_scheduled delay _).apart (some socket)).sublist among
    rw [sent] at punctual ⊢
    refine List.pairwise_map.2 ((List.pairwise_map.1 away).imp_of_mem ?_)
    intro one other first second spaced
    have given : one.2 ∈ agenda options delay moments :=
      List.mem_of_mem_filter (among.subset (List.mem_map_of_mem first))
    have written := punctual (Meeting.frame one) (List.mem_map_of_mem first) one.2 given rfl
    have waited := due other second
    show one.1 + delay ≤ other.1 + most
    have before : one.1 ≤ one.2.deadline + most := written
    omega

/-- Three requests wait out the delay, and the timer fires when all of them are overdue. -/
def backlog : List Moment :=
  [(0, .connect), (0, .take), (0, .meet .opened), (0, .send (.get "/tags")), (0, .take),
    (0, .send (.get "/tags")), (0, .take), (0, .send (.get "/tags")), (0, .take),
    (1000, .meet .paceDue), (1000, .meet .paceDue), (1000, .meet .paceDue)].map
    fun (now, happening) => ⟨.timely now 0 fun _ => true, happening⟩

theorem backlog_sent : (dated { pacing := some 100 } backlog).sent 0 =
    [1, 2, 3].map fun id => (1000, some 0, id, { Request.get "/tags" with id := id.toUInt64 }) := by
  with_unfolding_all rfl

theorem backlog_spaced : ({ pacing := some 100 } : ConnectionOptions).pacing = some 100 ∧
    Spaced { pacing := some 100 } 100 backlog :=
  ⟨rfl, run_spaced rfl backlog⟩

/-- The three frames that were overdue are a burst: they are written in one moment. -/
theorem backlog_bursts : ¬ ∀ (options : ConnectionOptions) (delay : Nat), 0 < delay →
    options.pacing = some delay → ∀ (moments : List Moment) (socket : Nat),
      ((dated options moments).sent socket).IsChain
        fun first second => first.1 + delay ≤ second.1 := by
  intro claimed
  have apart := claimed { pacing := some 100 } 100 (by decide) rfl backlog 0
  rw [backlog_sent] at apart
  exact absurd apart (by decide)

end Spaced

end BookmarkHub
