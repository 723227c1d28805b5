import BookmarkHub.Proofs.Connection.Carriage
import BookmarkHub.Proofs.Connection.Order

/-!
# Answers and the frames they answer

A request is resolved with a response when a text with its number is read from
the socket on which it got that number.  Its own frame was written there before,
unless the request still waited out the pacing delay: then its caller is told a
response, and the frame is never written.
-/

set_option autoImplicit false

namespace BookmarkHub

open Connection

/-- A response was read just now from the socket on which the request of a caller has
its number. -/
structure Heard (past : Trace) (ticket : Ticket) (response : Response) (numbering : Numbering) :
    Prop where
  read : ∃ before socket text, past = before ++ [.receive socket text] ∧
    Json.ofText Response.read text = .ok response ∧ numbering.socket = some socket
  given : numbering ∈ past.numberings
  caller : numbering.queued.ticket = ticket
  number : numbering.id = response.id.toNat

/-- Who was answered, and when.  The frame of an answered request was written before, to the
socket from which the response was read; or there is a pacing delay, and the frame is never
written.  A response that came now would be too early exactly if its request waits out the delay. -/
structure Answered (options : ConnectionOptions) (history : History) : Prop where
  answers : ∀ (before after : Trace) (ticket : Ticket) (response : Response),
    history.trace = before ++ .resolve ticket (.ok response) :: after →
      ∃ numbering, Heard before ticket response numbering ∧
        (numbering.line ∈ before.written ∨
          options.pacing.isSome = true ∧ numbering.line ∉ history.trace.written)
  tabled : ∀ id ticket, history.connection.pending.find? id = some ticket →
    ∃ numbering ∈ history.trace.numberings, numbering.id = id ∧
      numbering.queued.ticket = ticket ∧
      (numbering.line ∈ history.trace.written ↔
        ∀ entry ∈ history.connection.paced, entry.id ≠ id)

section Answered

/-! ## The moment of an answer -/

theorem unanswered_of_aside {aside : Trace} (outside : ∀ effect ∈ aside, effect.IsAside)
    (ticket : Ticket) (response : Response) : .resolve ticket (.ok response) ∉ aside :=
  fun told => outside _ told

theorem shutDown_unanswered (connection : Connection) (ticket : Ticket) (response : Response) :
    .resolve ticket (.ok response) ∉ (shutDown connection).2 := by
  intro told
  simp only [shutDown_eq, Trace.rejections, List.mem_append, List.mem_map,
    List.mem_singleton] at told
  rcases told with ⟨socket, _, hungUp⟩ | ⟨other, _, rejected⟩ | entered
  · cases hungUp
  · cases rejected
  · cases entered

theorem answer_alone {socket : Nat} {text : String} {caller ticket : Ticket}
    {given response : Response} {aside first rest : Trace}
    (outside : ∀ effect ∈ aside, effect.IsAside)
    (split : ([.receive socket text, .resolve caller (.ok given)] : Trace) ++ aside =
      first ++ .resolve ticket (.ok response) :: rest) :
    first = [.receive socket text] ∧ caller = ticket ∧ given = response := by
  match first, split with
  | [_], split =>
      cases split
      exact ⟨rfl, rfl, rfl⟩
  | _ :: _ :: more, split =>
      have later : aside = more ++ .resolve ticket (.ok response) :: rest :=
        (List.cons.inj (List.cons.inj split).2).2
      refine (unanswered_of_aside outside ticket response ?_).elim
      rw [later]
      exact List.mem_append_right _ (List.mem_cons_self ..)

theorem frame_of_answer {around : Surroundings} {connection : Connection}
    {event : ConnectionEvent} {handled : Connection.Handled} {ticket : Ticket}
    {response : Response} (coherent : Coherent connection)
    (deed : Deed around connection event handled)
    (told : .resolve ticket (.ok response) ∈ handled.2) :
    ∃ text, event = .frame text ∧ Json.ofText Response.read text = .ok response ∧
      connection.pending.find? response.id.toNat = some ticket := by
  cases deed with
  | answer text socket given caller held decoded found =>
      have same : caller = ticket ∧ given = response := by simpa [eq_comm] using told
      obtain ⟨rfl, rfl⟩ := same
      exact ⟨text, rfl, decoded, found⟩
  | transmit caller request isOpen =>
      obtain ⟨socket, held, _⟩ := coherent.socket isOpen
      have sent := (List.mem_cons.1 told).resolve_left (by simp)
      exact absurd sent ((transmit_carries around ⟨caller, request⟩ held).unanswered _ _)
  | takeSocket connecting =>
      exact absurd told ((takeSocket_carries around coherent connecting).unanswered _ _)
  | fail => exact absurd told ((failConnect_carries around connection).unanswered _ _)
  | lose => exact absurd told ((loseSocket_carries around connection).unanswered _ _)
  | _ => simp at told

section Moment
variable {history : History} {moment : Moment} {ticket : Ticket} {response : Response}

theorem event_of_answer (kept : Kept history)
    (told : .resolve ticket (.ok response) ∈ history.deeds moment) :
    ∃ text, Running history ∧ moment.happening.event? history.endpoint = some (.frame text) ∧
      Json.ofText Response.read text = .ok response ∧
      history.connection.pending.find? response.id.toNat = some ticket := by
  -- neither what is outside the connection nor closing it answers anybody
  cases heard : moment.happening.event? history.endpoint with
  | none =>
      obtain ⟨_, outside⟩ := history.deeds_of_none moment heard
      exact absurd told (unanswered_of_aside outside ticket response)
  | some event =>
      obtain ⟨_, aside, outside, done⟩ := history.deeds_of_some moment heard
      rw [done] at told
      have stepped := (List.mem_append.1 told).resolve_right
        (unanswered_of_aside outside ticket response)
      rcases kept with running | stopped
      · rw [step_of_running _ _ _ running.coherent.running] at stepped
        by_cases closes : event = .close
        · subst closes
          exact absurd stepped (shutDown_unanswered history.connection ticket response)
        · have deed := handle_deed moment.around running.coherent event closes
          obtain ⟨text, rfl, decoded, found⟩ := frame_of_answer running.coherent deed stepped
          exact ⟨text, running, rfl, decoded, found⟩
      · obtain ⟨_, still⟩ := step_of_stopped moment.around history.connection event stopped.stopped
        exact absurd stepped (unanswered_of_aside still ticket response)

theorem step_of_answer {connection : Connection} (coherent : Coherent connection) {text : String}
    (decoded : Json.ofText Response.read text = .ok response)
    (found : connection.pending.find? response.id.toNat = some ticket) (around : Surroundings) :
    ∃ socket, connection.reader = some socket ∧ connection.step around (.frame text) =
      ({ connection with pending := connection.pending.erase response.id.toNat },
        [.receive socket text, .resolve ticket (.ok response)]) := by
  have isOpen : connection.phase = .connected := by
    by_contra shut
    rw [coherent.pending shut] at found
    cases found
  obtain ⟨socket, _, held⟩ := coherent.socket isOpen
  refine ⟨socket, held, ?_⟩
  rw [step_of_running _ _ _ coherent.running]
  simp [handle, held, andThen, dispatch, decoded, found]

theorem answer_of_extend (kept : Kept history) {first rest : Trace}
    (told : (history.extend moment).trace =
      history.trace ++ (first ++ .resolve ticket (.ok response) :: rest)) :
    ∃ socket text, Running history ∧ history.connection.reader = some socket ∧
      Json.ofText Response.read text = .ok response ∧
      history.connection.pending.find? response.id.toNat = some ticket ∧
      first = [.receive socket text] := by
  have done : history.deeds moment = first ++ .resolve ticket (.ok response) :: rest :=
    List.append_cancel_left told
  have answered : .resolve ticket (.ok response) ∈ history.deeds moment := by
    rw [done]
    exact List.mem_append_right _ (List.mem_cons_self ..)
  obtain ⟨text, running, heard, decoded, found⟩ := event_of_answer kept answered
  obtain ⟨socket, held, stepped⟩ := step_of_answer running.coherent decoded found moment.around
  obtain ⟨_, aside, outside, split⟩ := history.deeds_of_some moment heard
  rw [stepped, done] at split
  obtain ⟨only, _, _⟩ := answer_alone outside split.symm
  exact ⟨socket, text, running, held, decoded, found, only⟩

end Moment

/-! ## Over a run -/

section Run
variable {options : ConnectionOptions} {moments : List Moment}

/-- A request whose caller was told what became of it before its frame was written
is never written. -/
theorem Archive.unwritten {history : History} (archive : Archive history) {before after : Trace}
    {numbering : Numbering} {outcome : Outcome}
    (split : history.trace = before ++ .resolve numbering.queued.ticket outcome :: after)
    (given : numbering ∈ before.numberings) (unwritten : numbering.line ∉ before.written) :
    numbering.line ∉ history.trace.written := by
  intro written
  obtain ⟨socket, id, request, member, line⟩ := Trace.mem_written written
  rw [split] at member
  rcases List.mem_append.1 member with early | late
  · rw [line] at unwritten
    exact unwritten (Trace.written_of_mem early)
  · have later := (List.mem_cons.1 late).resolve_left (by simp)
    obtain ⟨between, behind, sent⟩ := List.append_of_mem later
    have again : history.trace = (before ++ .resolve numbering.queued.ticket outcome :: between) ++
        .write socket id request :: behind := by
      rw [split, sent, List.append_assoc, List.cons_append]
    -- nothing is written once its caller was told what became of it
    obtain ⟨other, alsoGiven, same, _, unresolved⟩ := archive.unreplayed again
    obtain ⟨last, ids⟩ := archive.ids
    have one : other = numbering := by
      have number : other.id = numbering.id := by
        have lines := same.trans line.symm
        exact congrArg (fun line => line.2.1) lines
      refine numbering_unique ids ?_ ?_ number
      · rw [again, Trace.numberings_append]
        exact List.mem_append_left _ alsoGiven
      · rw [split, Trace.numberings_append]
        exact List.mem_append_left _ given
    subst one
    exact unresolved (by simp)

theorem Connection.Carried.written_iff {history : History} (running : Running history)
    (carried : Carried history.connection history.trace) {numbering : Numbering}
    (given : numbering ∈ history.trace.numberings) {ticket : Ticket}
    (found : history.connection.pending.find? numbering.id = some ticket) :
    numbering.line ∈ history.trace.written ↔
      ∀ entry ∈ history.connection.paced, entry.id ≠ numbering.id := by
  constructor
  · intro written entry member same
    exact running.ledger.unwritten_of_paced member same written
  · intro unpaced
    rcases carried numbering.id ticket found with
      ⟨entry, member, same⟩ | ⟨socket, request, _, written⟩
    · exact absurd same (unpaced entry member)
    · exact running.ledger.line_written given written

theorem run_answers {before after : Trace} {ticket : Ticket} {response : Response}
    (split : (History.run options moments).trace =
      before ++ .resolve ticket (.ok response) :: after) :
    ∃ numbering, Heard before ticket response numbering ∧
      (numbering.line ∈ before.written ∨
        options.pacing.isSome = true ∧
          numbering.line ∉ (History.run options moments).trace.written) := by
  have archive := (run_kept options moments).archive
  obtain ⟨earlier, moment, first, rest, now, told⟩ := History.moment_of_effect split
  obtain ⟨socket, text, running, held, decoded, found, rfl⟩ :=
    answer_of_extend (run_kept options earlier) told
  obtain ⟨numbering, given, number, caller, opened⟩ := running.ledger.tabled _ _ found
  have sameSocket : numbering.socket = some socket := by
    rw [opened, ← running.coherent.same, held]
  have already : numbering ∈ before.numberings := by
    rw [now, Trace.numberings_append]
    exact List.mem_append_left _ given
  have written : before.written = (History.run options earlier).trace.written := by
    simp [now]
  refine ⟨numbering, ⟨⟨_, socket, text, now, decoded, sameSocket⟩, already, caller, number⟩, ?_⟩
  rw [← number] at found
  have carried := carried_run options earlier running.coherent.running
  by_cases sent : numbering.line ∈ before.written
  · exact Or.inl sent
  · right
    rw [← caller] at split
    refine ⟨?_, archive.unwritten split already sent⟩
    -- what is in the table and was not written waits out the delay, so there is one
    rw [written, carried.written_iff running given found] at sent
    have same := History.options_run options earlier running.coherent.running
    cases pacing : options.pacing with
    | some delay => rfl
    | none =>
        rw [← same] at pacing
        rw [running.coherent.unpaced pacing] at sent
        exact absurd (by simp) sent

/-- In every run, an answered request was written before, or it waited out the delay and is
never written. -/
theorem run_answered (options : ConnectionOptions) (moments : List Moment) :
    Answered options (History.run options moments) where
  answers := fun _ _ _ _ split => run_answers split
  tabled := by
    intro id ticket found
    cases stopped : (History.run options moments).connection.stopped with
    | true =>
        rw [((run_kept options moments).stopped stopped).pending] at found
        cases found
    | false =>
        have running := (run_kept options moments).running stopped
        obtain ⟨numbering, given, rfl, caller, _⟩ := running.ledger.tabled id ticket found
        have carried := carried_run options moments stopped
        exact ⟨numbering, given, rfl, caller, carried.written_iff running given found⟩

end Run

/-- A response comes while its request waits out the delay. -/
def earlyAnswer : List Moment :=
  [.connect, .take, .meet .opened, .send (.get "/tags"), .take,
    .meet (.frame "\x7b\"id\":1,\"status\":200,\"body\":null\x7d")].map
    fun happening => ⟨.timely 0 0 fun _ => true, happening⟩

theorem earlyAnswer_unwritten :
    ¬ ∀ (before after : Trace) (ticket : Ticket) (response : Response),
      (History.run { pacing := some 1000 } earlyAnswer).trace =
        before ++ .resolve ticket (.ok response) :: after →
      ∃ numbering, Heard before ticket response numbering ∧ numbering.line ∈ before.written := by
  intro claim
  have told : (History.run { pacing := some 1000 } earlyAnswer).trace =
      (History.run { pacing := some 1000 } (earlyAnswer.take 5)).trace ++
          [.receive 0 "\x7b\"id\":1,\"status\":200,\"body\":null\x7d"] ++
        .resolve 0 (.ok { id := 1, status := 200, body := .null }) :: [] := by
    with_unfolding_all rfl
  obtain ⟨numbering, _, written⟩ := claim _ _ _ _ told
  cases written

end Answered

end BookmarkHub
