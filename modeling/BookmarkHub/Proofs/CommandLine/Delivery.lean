import BookmarkHub.CommandLine.Query
import BookmarkHub.Proofs.Connection.Closing

/-!
# What a query is told

A query is a run of a connection with one request, which is closed at last.  It
ends with a response exactly if a text with the number of the request is read
before time is up, while its caller was told nothing.  Whatever happens, the
request is written at most once.
-/

set_option autoImplicit false

namespace BookmarkHub

open Connection

namespace Query

/-- The request of the query has a number, and its caller was told nothing. -/
def Awaits (trace : Trace) (id : UInt64) : Prop :=
  ticket ∉ trace.resolved ∧
    ∃ numbering ∈ trace.numberings, numbering.queued.ticket = ticket ∧ numbering.id = id.toNat

/-- A response with the number of the request is read before time is up. -/
def Delivers (handled : Endpoint.Handled) (moments : List QueryMoment) (response : Response) :
    Prop :=
  ∃ earlier around text later, moments = earlier ++ .event around (.frame text) :: later ∧
    .timeUp ∉ earlier ∧ Awaits (happenAll earlier handled).2 response.id ∧
    Json.ofText Response.read text = .ok response

/-! ## A query as a run -/

def meet (history : History) (moment : QueryMoment) : History :=
  match moment with
  | .command around => history.extend ⟨around, .take⟩
  | .event around occurrence => history.extend ⟨around, .meet occurrence⟩
  | .timeUp => history

section Meet
variable (history : History) (moment : QueryMoment)

theorem happen_endpoint : (happen moment history.endpoint).1 = (meet history moment).endpoint := by
  cases moment <;> rfl

theorem happen_trace :
    history.trace ++ (happen moment history.endpoint).2 = (meet history moment).trace := by
  cases moment with
  | timeUp => exact List.append_nil _
  | _ => rfl

theorem meet_requests : (meet history moment).requests = history.requests := by
  cases moment with
  | timeUp => rfl
  | _ => exact List.append_nil _

theorem meet_reaches : history.Reaches (meet history moment) := by
  cases moment with
  | timeUp => exact .refl
  | command around => exact .extend .refl ⟨around, .take⟩
  | event around occurrence => exact .extend .refl ⟨around, .meet occurrence⟩

theorem happenAll_eq (moments : List QueryMoment) :
    happenAll moments (history.endpoint, history.trace) =
      ((moments.foldl meet history).endpoint, (moments.foldl meet history).trace) := by
  induction moments generalizing history with
  | nil => rfl
  | cons first rest ih =>
      simp only [happenAll, happen_endpoint, happen_trace, ih]
      rfl

theorem foldl_reaches (moments : List QueryMoment) :
    history.Reaches (moments.foldl meet history) := by
  induction moments generalizing history with
  | nil => exact .refl
  | cons first rest ih => exact (meet_reaches history first).trans (ih _)

theorem foldl_requests (moments : List QueryMoment) :
    (moments.foldl meet history).requests = history.requests := by
  induction moments generalizing history with
  | nil => rfl
  | cons first rest ih => exact (ih _).trans (meet_requests history first)

end Meet

/-! ## How a query ends -/

/-- What a query leaves: a connection that is closing, with the requests that it had. -/
structure Ends (history : History) (run : QueryRun) (later : History) : Prop where
  reaches : history.Reaches later
  requests : later.requests = history.requests
  closing : later.IsClosing
  endpoint : run.endpoint = later.endpoint
  effects : run.effects = later.trace

theorem finish_ends (history : History) (outcome : Outcome) (rest : List QueryMoment) :
    ∃ later, Ends history (finish outcome rest (history.endpoint, history.trace)) later := by
  let around := Surroundings.timely 0 0 fun _ => false
  let closing := history.extend ⟨around, .close⟩
  have left := happenAll_eq closing rest
  refine ⟨rest.foldl meet closing, ?_, ?_, ?_, ?_, ?_⟩
  · exact (History.Reaches.extend .refl ⟨around, .close⟩).trans (foldl_reaches closing rest)
  · exact (foldl_requests closing rest).trans (List.append_nil _)
  · exact (foldl_reaches closing rest).closing (history.closing_of_close around)
  · exact congrArg Prod.fst left
  · exact congrArg Prod.snd left

theorem wait_cons (limit : Nat) (history : History) {moment : QueryMoment}
    (goesOn : moment ≠ .timeUp) (rest : List QueryMoment) :
    wait limit (moment :: rest) (history.endpoint, history.trace) =
      match outcome? (happen moment history.endpoint).2 with
      | some outcome =>
          finish outcome rest ((meet history moment).endpoint, (meet history moment).trace)
      | none =>
          wait limit rest ((meet history moment).endpoint, (meet history moment).trace) := by
  rw [← happen_endpoint, ← happen_trace]
  cases moment with
  | timeUp => exact absurd rfl goesOn
  | _ => rfl

theorem Ends.of_reaches {history before later : History} {run : QueryRun}
    (reaches : history.Reaches before) (requests : before.requests = history.requests)
    (ends : Ends before run later) : Ends history run later :=
  { ends with
    reaches := reaches.trans ends.reaches
    requests := ends.requests.trans requests }

theorem wait_ends (limit : Nat) (history : History) (moments : List QueryMoment) :
    ∃ later, Ends history (wait limit moments (history.endpoint, history.trace)) later := by
  induction moments generalizing history with
  | nil => exact finish_ends history _ []
  | cons moment rest ih =>
      by_cases up : moment = .timeUp
      · subst up
        exact finish_ends history _ rest
      · have reaches := meet_reaches history moment
        have requests := meet_requests history moment
        rw [wait_cons limit history up rest]
        cases outcome? (happen moment history.endpoint).2 with
        | some outcome =>
            obtain ⟨later, ends⟩ := finish_ends (meet history moment) outcome rest
            exact ⟨later, ends.of_reaches reaches requests⟩
        | none =>
            obtain ⟨later, ends⟩ := ih (meet history moment)
            exact ⟨later, ends.of_reaches reaches requests⟩

/-! ## Who waits for a response -/

section Awaits
variable {history : History} {response : Response} {id : UInt64}

/-- A request whose caller waits has its number in the table, and nothing else has. -/
theorem awaits_iff (kept : Kept history) :
    Awaits history.trace id ↔ history.connection.pending.find? id.toNat = some ticket := by
  constructor
  · rintro ⟨untold, numbering, given, caller, number⟩
    rcases kept with running | stopped
    · have tabled := (running.ledger.contains_iff given).2 (caller ▸ untold)
      obtain ⟨other, found⟩ := Option.isSome_iff_exists.1 tabled
      obtain ⟨alsoGiven, there, same, waits, _⟩ := running.ledger.tabled _ _ found
      obtain rfl := numbering_unique running.ledger.ids there given same
      rw [← number, found, ← waits, caller]
    · -- whoever closed the connection told every caller
      have taken := stopped.order.subset (List.mem_map_of_mem given)
      have handedIn := mem_withTickets (stopped.taken.subset taken)
      have position := (List.getElem?_eq_some_iff.1 handedIn).1
      refine absurd (stopped.resolved.mem_iff.2 (List.mem_range.2 ?_)) untold
      rwa [caller] at position
  · intro found
    obtain ⟨numbering, given, number, caller, _⟩ := kept.tabled _ _ found
    refine ⟨?_, numbering, given, caller, number⟩
    rcases kept with running | stopped
    · refine running.ledger.unresolved_of_waiting ?_
      exact List.mem_append_left _ (Table.mem_values_of_find? found)
    · rw [stopped.pending] at found
      cases found

theorem outcome?_eq (effects : Trace) :
    outcome? effects = effects.findSome? (·.outcomeFor? ticket) := by
  refine congrArg effects.findSome? (funext fun effect => ?_)
  cases effect <;> rfl

theorem heard_iff (kept : Kept history) (moment : QueryMoment) (response : Response) :
    outcome? (happen moment history.endpoint).2 = some (.ok response) ↔
      ∃ around text, moment = .event around (.frame text) ∧ Awaits history.trace response.id ∧
        Json.ofText Response.read text = .ok response := by
  rw [outcome?_eq, awaits_iff kept]
  constructor
  · intro told
    have answered := Trace.resolve_of_told told
    cases moment with
    | timeUp => cases told
    | command around =>
        have done : history.deeds ⟨around, .take⟩ = (history.endpoint.takeCommand around).2 := rfl
        obtain ⟨text, _, taken, _, _⟩ := event_of_answer kept (done ▸ answered)
        -- no command of a caller is a text that is read
        obtain ⟨command, _, same⟩ := Option.map_eq_some_iff.1 taken
        cases command <;> cases same
    | event around occurrence =>
        have done : history.deeds ⟨around, .meet occurrence⟩ =
          (history.endpoint.tell around occurrence.event).2 := rfl
        obtain ⟨text, _, met, decoded, found⟩ := event_of_answer kept (done ▸ answered)
        cases occurrence <;> cases met
        exact ⟨around, text, rfl, found, decoded⟩
  · rintro ⟨around, text, rfl, found, decoded⟩
    rcases kept with running | stopped
    · obtain ⟨socket, _, stepped⟩ := step_of_answer running.coherent decoded found around
      have goesOn : history.connection.stopped = false := running.coherent.running
      simp [happen, Occurrence.event, Endpoint.tell_eq, stepped, goesOn,
        ConnectionEffect.outcomeFor?]
    · rw [stopped.pending] at found
      cases found

end Awaits

/-! ## What is delivered -/

section Delivers
variable {history : History} {response : Response}

theorem Delivers.unresolved {moments : List QueryMoment}
    (delivers : Delivers (history.endpoint, history.trace) moments response) :
    ticket ∉ history.trace.resolved := by
  obtain ⟨earlier, _, _, _, _, _, ⟨untold, _⟩, _⟩ := delivers
  rw [happenAll_eq] at untold
  intro told
  obtain ⟨outcome, heard⟩ := outcome?_of_resolved told
  exact untold (resolved_of_outcome? ((foldl_reaches history earlier).outcome heard))

theorem delivers_cons {moment : QueryMoment} (goesOn : moment ≠ .timeUp)
    (rest : List QueryMoment) :
    Delivers (history.endpoint, history.trace) (moment :: rest) response ↔
      (∃ around text, moment = .event around (.frame text) ∧ Awaits history.trace response.id ∧
        Json.ofText Response.read text = .ok response) ∨
      Delivers ((meet history moment).endpoint, (meet history moment).trace) rest response := by
  have onward (earlier : List QueryMoment) :
      happenAll (moment :: earlier) (history.endpoint, history.trace) =
        happenAll earlier ((meet history moment).endpoint, (meet history moment).trace) := by
    rw [happenAll_eq, happenAll_eq]
    rfl
  constructor
  · rintro ⟨earlier, around, text, later, split, before, awaited, decoded⟩
    cases earlier with
    | nil =>
        cases split
        exact .inl ⟨around, text, rfl, awaited, decoded⟩
    | cons first earlier =>
        cases split
        rw [onward] at awaited
        refine .inr ⟨earlier, around, text, later, rfl, ?_, awaited, decoded⟩
        exact fun among => before (List.mem_cons_of_mem _ among)
  · rintro (⟨around, text, rfl, awaited, decoded⟩ |
      ⟨earlier, around, text, later, rfl, before, awaited, decoded⟩)
    · exact ⟨[], around, text, rest, rfl, List.not_mem_nil, awaited, decoded⟩
    · refine ⟨moment :: earlier, around, text, later, rfl, ?_, ?_, decoded⟩
      · intro among
        rcases List.mem_cons.1 among with now | among
        · exact goesOn now.symm
        · exact before among
      · rw [onward]
        exact awaited

theorem not_delivers_nil (handled : Endpoint.Handled) : ¬ Delivers handled [] response := by
  rintro ⟨earlier, _, _, _, split, _⟩
  simp at split

theorem not_delivers_timeUp (handled : Endpoint.Handled) (rest : List QueryMoment) :
    ¬ Delivers handled (.timeUp :: rest) response := by
  rintro ⟨earlier, _, _, _, split, before, _⟩
  cases earlier with
  | nil => cases split
  | cons first earlier =>
      cases split
      exact before (List.mem_cons_self ..)

theorem finish_outcome (outcome : Outcome) (rest : List QueryMoment)
    (handled : Endpoint.Handled) : (finish outcome rest handled).outcome = outcome := rfl

/-- A query ends with a response exactly if the response is delivered. -/
theorem wait_outcome (limit : Nat) (moments : List QueryMoment) (kept : Kept history)
    (untold : ticket ∉ history.trace.resolved) :
    (wait limit moments (history.endpoint, history.trace)).outcome = .ok response ↔
      Delivers (history.endpoint, history.trace) moments response := by
  induction moments generalizing history with
  | nil => exact iff_of_false nofun (not_delivers_nil _)
  | cons moment rest ih =>
      by_cases up : moment = .timeUp
      · subst up
        exact iff_of_false nofun (not_delivers_timeUp _ rest)
      · have keptLater := kept.reaches (meet_reaches history moment)
        have now := heard_iff kept moment response
        rw [wait_cons limit history up rest, delivers_cons up rest, ← now]
        cases heard : outcome? (happen moment history.endpoint).2 with
        | some outcome =>
            rw [finish_outcome, Option.some.injEq]
            refine ⟨.inl, fun delivered => delivered.resolve_right fun later => ?_⟩
            -- its caller was told already, so nothing is delivered later
            refine later.unresolved ?_
            rw [← happen_trace, Trace.resolved_append]
            rw [outcome?_eq] at heard
            exact List.mem_append_right _ (Trace.resolved_iff.2 ⟨outcome, heard⟩)
        | none =>
            have still : ticket ∉ (meet history moment).trace.resolved := by
              rw [← happen_trace, Trace.resolved_append]
              intro told
              rcases List.mem_append.1 told with before | told
              · exact untold before
              · obtain ⟨outcome, other⟩ := Trace.resolved_iff.1 told
                rw [outcome?_eq, other] at heard
                cases heard
            rw [ih keptLater still]
            refine ⟨.inr, fun delivered => delivered.resolve_left nofun⟩

end Delivers

/-! ## What is written -/

theorem written_of_one {history : History} {request : Request} (archive : Archive history)
    (alone : history.requests = [request]) :
    history.trace.written = [] ∨ ∃ socket,
      history.trace.written = [(some socket, 1, { request with id := 1 })] := by
  have order := archive.order.trans archive.taken.sublist
  have wire := archive.wire
  obtain ⟨last, ids⟩ := archive.ids
  rw [alone] at order
  cases given : history.trace.numberings with
  | nil =>
      rw [given] at wire
      exact .inl (List.sublist_nil.1 wire)
  | cons numbering more =>
      rw [given] at order wire ids
      have single := order.length_le
      obtain rfl : more = [] := List.eq_nil_of_length_eq_zero (by simpa [withTickets] using single)
      have queued : numbering.queued = ⟨0, request⟩ := by
        simpa [withTickets] using order
      have number : numbering.id = 1 := by
        cases last with
        | zero => cases ids
        | succ last => exact (List.cons.inj ids).1
      have line : numbering.line = (numbering.socket, 1, { request with id := 1 }) := by
        rw [Numbering.line, Numbering.request, queued, number]
        rfl
      rw [List.map_singleton, line] at wire
      rcases List.sublist_singleton.1 wire with none | one
      · exact .inl none
      · obtain ⟨socket, _, _, _, same⟩ := Trace.mem_written (one ▸ List.mem_singleton_self _)
        have held : numbering.socket = some socket := congrArg Prod.fst same
        exact .inr ⟨socket, by rw [one, held]⟩

/-! ## What closes -/

def takes : QueryMoment → Bool
  | .command _ => true
  | _ => false

/-- Whatever happens to a closing connection, it has stopped once it took what waits. -/
theorem closesWithin_foldl {history : History} {turns : Nat} (moments : List QueryMoment)
    (closes : history.ClosesWithin (turns + moments.countP takes)) :
    (moments.foldl meet history).ClosesWithin turns := by
  induction moments generalizing history with
  | nil => exact closes
  | cons moment rest ih =>
      rw [List.countP_cons, ← Nat.add_assoc] at closes
      refine ih ?_
      cases moment with
      | timeUp => exact closes
      | command around => exact closes.extend ⟨around, .take⟩
      | event around occurrence => exact closes.extend ⟨around, .meet occurrence⟩

/-! ## The whole query -/

def begun (options : ConnectionOptions) (operation : Operation) : Endpoint.Handled :=
  (Endpoint.connecting options).send ticket operation.toRequest

/-- What can be said of a query, whatever happens to its connection.  At most one frame is
written, and in the end the connection stops as soon as it has taken what waits in its mailbox. -/
structure Reliable (options : ConnectionOptions) (operation : Operation)
    (moments : List QueryMoment) (run : QueryRun) : Prop where
  answered : ∀ response,
    run.outcome = .ok response ↔ Delivers (begun options operation) moments response
  once : Trace.written run.effects = [] ∨ ∃ socket,
    Trace.written run.effects = [(some socket, 1, { operation.toRequest with id := 1 })]
  closed : ∀ later : List QueryMoment, run.endpoint.mailbox.length ≤ later.countP takes →
    (happenAll later (run.endpoint, run.effects)).1.connection.stopped = true

theorem run_reliable (options : ConnectionOptions) (operation : Operation) (limit : Nat)
    (moments : List QueryMoment) :
    Reliable options operation moments (run options operation limit moments) := by
  let around := Surroundings.timely 0 0 fun _ => false
  let start := History.run options [⟨around, .connect⟩, ⟨around, .send operation.toRequest⟩]
  have started : begun options operation = (start.endpoint, start.trace) := rfl
  have waited : run options operation limit moments =
      wait limit moments (start.endpoint, start.trace) := rfl
  have untold : ticket ∉ start.trace.resolved := List.not_mem_nil
  obtain ⟨later, ends⟩ := wait_ends limit start moments
  obtain ⟨all, same⟩ := ends.reaches.run ⟨_, rfl⟩
  have archive := (run_kept options all).archive
  rw [← same] at archive
  rw [waited]
  refine ⟨fun response => ?_, ?_, ?_⟩
  · rw [started]
    exact wait_outcome limit moments (run_kept options _) untold
  · rw [ends.effects]
    exact written_of_one archive ends.requests
  · intro moments enough
    rw [ends.endpoint] at enough
    rw [ends.endpoint, ends.effects, happenAll_eq]
    refine History.stopped_of_closesWithin_zero (closesWithin_foldl moments ?_)
    exact ends.closing.within.mono (by omega)

end Query

end BookmarkHub
