import BookmarkHub.Proofs.Connection.Answered

/-!
# Connections that close

A connection that was told to close closes as soon as it has taken what came
before.  From then on every caller knows what became of its request, and nobody
is told a response any more.
-/

set_option autoImplicit false

namespace BookmarkHub

open Connection

/-- How many commands a connection takes from its mailbox. -/
def Happening.turns : Happening → Nat
  | .take => 1
  | _ => 0

namespace History

/-- The connection stops before it has taken so many commands more. -/
def ClosesWithin (turns : Nat) (history : History) : Prop :=
  history.connection.stopped = true ∨
    ∃ before after, history.endpoint.mailbox = before ++ .close :: after ∧ before.length < turns

/-- The connection has stopped, or it was told to. -/
def IsClosing (history : History) : Prop := ∃ turns, history.ClosesWithin turns

section Closing
variable {history later : History} {turns more : Nat}

theorem ClosesWithin.mono (closes : history.ClosesWithin turns) (le : turns ≤ more) :
    history.ClosesWithin more := by
  rcases closes with stopped | ⟨before, after, mailbox, soon⟩
  · exact .inl stopped
  · exact .inr ⟨before, after, mailbox, Nat.lt_of_lt_of_le soon le⟩

theorem stopped_of_closesWithin_zero (closes : history.ClosesWithin 0) :
    history.connection.stopped = true := by
  rcases closes with stopped | ⟨before, after, _, soon⟩
  · exact stopped
  · exact absurd soon (Nat.not_lt_zero _)

theorem IsClosing.within (closing : history.IsClosing) :
    history.ClosesWithin history.endpoint.mailbox.length := by
  obtain ⟨turns, stopped | ⟨before, after, mailbox, _⟩⟩ := closing
  · exact .inl stopped
  · refine .inr ⟨before, after, mailbox, ?_⟩
    rw [mailbox, List.length_append, List.length_cons]
    omega

theorem post_mailbox (endpoint : Endpoint) (command : CallerCommand) :
    (endpoint.post command).1.connection.stopped = true ∨
      (endpoint.post command).1.mailbox = endpoint.mailbox ++ [command] := by
  cases stopped : endpoint.connection.stopped with
  | true =>
      rw [Endpoint.post_of_stopped _ _ stopped]
      exact .inl stopped
  | false =>
      rw [Endpoint.post_of_running _ _ stopped]
      exact .inr rfl

theorem tell_mailbox (around : Surroundings) (event : ConnectionEvent) (endpoint : Endpoint) :
    (endpoint.tell around event).1.connection.stopped = true ∨
      (endpoint.tell around event).1.mailbox = endpoint.mailbox := by
  rw [Endpoint.tell_eq]
  split
  · rename_i stopped
    exact .inl stopped
  · exact .inr rfl

/-- Whatever happens to a connection that goes on, only what it takes leaves its mailbox, and
what is handed in stands behind everything else. -/
theorem extend_mailbox (history : History) (moment : Moment) :
    (history.extend moment).connection.stopped = true ∨
      ∃ posted, (history.extend moment).endpoint.mailbox =
          history.endpoint.mailbox.drop moment.happening.turns ++ posted ∧
        (posted.filterMap CallerCommand.queued?).length =
          moment.happening.request?.toList.length := by
  obtain ⟨around, happening⟩ := moment
  have posts (command : CallerCommand) := post_mailbox history.endpoint command
  cases happening with
  | send request => exact (posts _).imp_right fun mailbox => ⟨_, mailbox, rfl⟩
  | connect => exact (posts .connect).imp_right fun mailbox => ⟨_, mailbox, rfl⟩
  | listen label once immediately =>
      obtain ⟨told, unregistered | registered⟩ :=
        history.endpoint.onConnected_cases label once immediately
      · refine .inr ⟨[], ?_, rfl⟩
        simp [extend, Happening.act, Happening.turns, unregistered]
      · rw [connection, extend, Happening.act]
        simp only [registered]
        exact (posts (.listen ⟨label, once⟩)).imp_right fun mailbox => ⟨_, mailbox, rfl⟩
  | count caller => exact (posts (.count caller)).imp_right fun mailbox => ⟨_, mailbox, rfl⟩
  | close => exact (posts .close).imp_right fun mailbox => ⟨_, mailbox, rfl⟩
  | take =>
      simp only [connection, extend, Happening.act, Endpoint.takeCommand]
      cases waiting : history.endpoint.mailbox with
      | nil => exact .inr ⟨[], by simp [waiting], rfl⟩
      | cons command rest =>
          refine (tell_mailbox around command.event _).imp_right fun mailbox => ⟨[], ?_, rfl⟩
          simpa [Happening.turns] using mailbox
  | meet occurrence =>
      refine (tell_mailbox around occurrence.event _).imp_right fun mailbox => ⟨[], ?_, rfl⟩
      simpa [extend, Happening.act, Happening.turns] using mailbox

theorem extend_close {before after : List CallerCommand}
    (mailbox : history.endpoint.mailbox = before ++ .close :: after) (moment : Moment) :
    (history.extend moment).connection.stopped = true ∨
      moment.happening.turns ≤ before.length ∧
      ∃ posted, (history.extend moment).endpoint.mailbox =
          before.drop moment.happening.turns ++ .close :: (after ++ posted) ∧
        (posted.filterMap CallerCommand.queued?).length =
          moment.happening.request?.toList.length := by
  rcases history.extend_mailbox moment with stopped | ⟨posted, kept, counted⟩
  · exact .inl stopped
  · rw [mailbox] at kept
    obtain ⟨around, happening⟩ := moment
    cases happening with
    | take =>
        cases before with
        | nil =>
            left
            simp only [connection, History.extend, Happening.act, Endpoint.takeCommand, mailbox,
              List.nil_append]
            exact tell_close_stopped around _
        | cons command rest =>
            refine .inr ⟨Nat.le_add_left .., posted, ?_, counted⟩
            rw [kept]
            simp [Happening.turns]
    | _ =>
        refine .inr ⟨Nat.zero_le _, posted, ?_, counted⟩
        rw [kept]
        simp [Happening.turns]

theorem extend_stopped (stopped : history.connection.stopped = true) (moment : Moment) :
    (history.extend moment).connection.stopped = true := by
  obtain ⟨_, _, ⟨same, _⟩ | ⟨event, stepped, _⟩⟩ := history.extend_cases moment
  · rw [same]
    exact stopped
  · rw [stepped, (step_of_stopped moment.around _ event stopped).1]
    exact stopped

theorem ClosesWithin.extend (moment : Moment)
    (closes : history.ClosesWithin (turns + moment.happening.turns)) :
    (history.extend moment).ClosesWithin turns := by
  rcases closes with stopped | ⟨before, after, mailbox, soon⟩
  · exact .inl (extend_stopped stopped moment)
  · refine (extend_close mailbox moment).imp_right ?_
    rintro ⟨taken, posted, kept, _⟩
    refine ⟨_, _, kept, ?_⟩
    rw [List.length_drop]
    omega

theorem Reaches.closesWithin (reaches : history.Reaches later)
    (closes : history.ClosesWithin turns) : later.ClosesWithin turns := by
  induction reaches with
  | refl => exact closes
  | extend _ moment ih => exact (ih.mono (Nat.le_add_right _ _)).extend moment

theorem Reaches.closing (reaches : history.Reaches later) (closing : history.IsClosing) :
    later.IsClosing :=
  closing.imp fun _ => reaches.closesWithin

theorem Reaches.stopped (reaches : history.Reaches later)
    (stopped : history.connection.stopped = true) : later.connection.stopped = true :=
  stopped_of_closesWithin_zero (reaches.closesWithin (.inl stopped))

theorem closing_of_close (history : History) (around : Surroundings) :
    (history.extend ⟨around, .close⟩).IsClosing := by
  rcases post_mailbox history.endpoint .close with stopped | mailbox
  · exact ⟨0, .inl stopped⟩
  · exact ⟨history.endpoint.mailbox.length + 1, .inr ⟨_, [], mailbox, Nat.lt_succ_self _⟩⟩

end Closing

end History

/-! ## What callers know in the end -/

section Told
variable {history later : History} {ticket : Ticket} {outcome : Outcome}

theorem outcome?_of_resolved (resolved : ticket ∈ history.trace.resolved) :
    ∃ outcome, history.outcome? ticket = some outcome :=
  Trace.resolved_iff.1 resolved

theorem resolved_of_outcome? (told : history.outcome? ticket = some outcome) :
    ticket ∈ history.trace.resolved :=
  Trace.resolved_iff.2 ⟨outcome, told⟩

theorem Stopped.told (stopped : Stopped history) (handedIn : ticket < history.requests.length) :
    ∃ outcome, history.outcome? ticket = some outcome :=
  outcome?_of_resolved (stopped.resolved.mem_iff.2 (List.mem_range.2 handedIn))

theorem outcome_of_append {effects : Trace}
    (longer : later.trace = history.trace ++ effects)
    (told : later.outcome? ticket = some outcome) :
    history.outcome? ticket = some outcome ∨ .resolve ticket outcome ∈ effects := by
  rw [History.outcome?, longer, List.findSome?_append, Option.or_eq_some_iff] at told
  exact told.imp id fun later => Trace.resolve_of_told later.2

theorem closed_of_aside {aside : Trace} (outside : ∀ effect ∈ aside, effect.IsAside)
    (told : .resolve ticket outcome ∈ aside) : outcome = .error .closed := by
  have harmless := outside _ told
  rcases outcome with failure | response
  · cases failure <;> first | rfl | exact harmless.elim
  · exact harmless.elim

theorem closed_of_shutDown {connection : Connection}
    (told : .resolve ticket outcome ∈ (shutDown connection).2) : outcome = .error .closed := by
  simp only [shutDown_eq, Trace.rejections, List.mem_append, List.mem_map,
    List.mem_singleton] at told
  rcases told with ⟨socket, _, hungUp⟩ | ⟨other, _, rejected⟩ | entered
  · cases hungUp
  · cases rejected
    rfl
  · cases entered

theorem Kept.outcome_extend (kept : Kept history) (moment : Moment)
    (closed : (history.extend moment).connection.stopped = true)
    (told : (history.extend moment).outcome? ticket = some outcome) :
    history.outcome? ticket = some outcome ∨ outcome = .error .closed := by
  obtain ⟨aside, outside, ⟨_, longer⟩ | ⟨event, stepped, longer⟩⟩ := history.extend_cases moment
  · exact (outcome_of_append longer told).imp_right (closed_of_aside outside)
  · refine (outcome_of_append longer told).imp_right fun now => ?_
    refine (List.mem_append.1 now).elim (fun done => ?_) (closed_of_aside outside)
    cases stopped : history.connection.stopped with
    | true =>
        obtain ⟨_, still⟩ := step_of_stopped moment.around history.connection event stopped
        exact closed_of_aside still done
    | false =>
        have coherent := (kept.running stopped).coherent
        rw [step_of_running _ _ _ stopped] at stepped done
        by_cases closes : event = .close
        · subst closes
          exact closed_of_shutDown done
        · -- nothing else closes a connection
          have goesOn := (handle_coherent moment.around coherent event closes).running
          rw [stepped, goesOn] at closed
          cases closed

theorem Kept.reaches (kept : Kept history) (reaches : history.Reaches later) : Kept later := by
  induction reaches with
  | refl => exact kept
  | extend _ moment ih =>
      exact ih.elim (·.extend moment) fun stopped => .inr (stopped.extend moment)

theorem Kept.failure (kept : Kept history) {failure : Failure}
    (told : history.outcome? ticket = some (.error failure)) :
    failure = .disconnected ∨ failure = .closed := by
  obtain ⟨before, after, split⟩ := History.resolve_of_outcome? told
  exact Trace.always_split kept.archive.lawful split

theorem Stopped.response_reaches (stopped : Stopped history) (reaches : history.Reaches later)
    {response : Response} (told : later.outcome? ticket = some (.ok response)) :
    history.outcome? ticket = some (.ok response) := by
  induction reaches with
  | refl => exact told
  | extend before moment ih =>
      have closed := (before.extend moment).stopped stopped.stopped
      have kept : Kept history := .inr stopped
      refine ih (((kept.reaches before).outcome_extend moment closed told).resolve_right ?_)
      rintro ⟨⟩

end Told

/-! ## What stands behind a close -/

namespace History

/-- The connection stops before it takes the request with a ticket, whether this was handed
in already or comes later. -/
def ClosesBefore (ticket : Ticket) (history : History) : Prop :=
  history.connection.stopped = true ∨
    ∃ before after, history.endpoint.mailbox = before ++ .close :: after ∧
      history.requests.length ≤ ticket + (after.filterMap CallerCommand.queued?).length

section Behind
variable {history later : History} {ticket : Ticket}

/-- A closing connection stops before it takes what comes later. -/
theorem IsClosing.before (closing : history.IsClosing)
    (comesLater : history.requests.length ≤ ticket) : history.ClosesBefore ticket := by
  obtain ⟨_, stopped | ⟨before, after, mailbox, _⟩⟩ := closing
  · exact .inl stopped
  · exact .inr ⟨before, after, mailbox, Nat.le_add_right_of_le comesLater⟩

theorem ClosesBefore.extend (closes : history.ClosesBefore ticket) (moment : Moment) :
    (history.extend moment).ClosesBefore ticket := by
  rcases closes with stopped | ⟨before, after, mailbox, behind⟩
  · exact .inl (extend_stopped stopped moment)
  · refine (extend_close mailbox moment).imp_right ?_
    rintro ⟨_, posted, kept, counted⟩
    refine ⟨_, _, kept, ?_⟩
    rw [requests_extend, List.length_append, List.filterMap_append, List.length_append, counted]
    omega

theorem ClosesBefore.untold (closes : history.ClosesBefore ticket) (running : Running history) :
    history.outcome? ticket = none := by
  rcases closes with stopped | ⟨before, after, mailbox, behind⟩
  · exact (running.unstopped stopped).elim
  · refine Option.eq_none_iff_forall_ne_some.2 fun outcome told => ?_
    have taken : ticket ∈ history.trace.accepted.map Queued.ticket :=
      running.ledger.custody.mem_iff.1
        (List.mem_append_right _ (resolved_of_outcome? told))
    -- the requests that were taken have the first tickets, and those behind the close the last
    have tickets : history.trace.accepted.map Queued.ticket ++
        history.endpoint.unread.map Queued.ticket = List.range history.requests.length := by
      rw [← tickets_withTickets, ← running.balanced, List.map_append]
    have first : history.trace.accepted.map Queued.ticket =
        List.range history.trace.accepted.length := by
      have counted := congrArg List.length tickets
      simp only [List.length_append, List.length_map, List.length_range] at counted
      have prefixed := congrArg (List.take history.trace.accepted.length) tickets
      rwa [List.take_left' (List.length_map _), List.take_range, Nat.min_eq_left (by omega)]
        at prefixed
    have total := congrArg List.length tickets
    have unread : history.endpoint.unread.length =
        (before.filterMap CallerCommand.queued?).length +
          (after.filterMap CallerCommand.queued?).length := by
      rw [Endpoint.unread, mailbox, List.filterMap_append, List.length_append]
      rfl
    rw [first, List.mem_range] at taken
    simp only [List.length_append, List.length_map, List.length_range] at total
    omega

theorem ClosesBefore.reaches (closes : history.ClosesBefore ticket)
    (reaches : history.Reaches later) : later.ClosesBefore ticket := by
  induction reaches with
  | refl => exact closes
  | extend _ moment ih => exact ih.extend moment

end Behind

end History

section Refused
variable {history later : History} {ticket : Ticket}

theorem Kept.untold (kept : Kept history) (comesLater : history.requests.length ≤ ticket) :
    history.outcome? ticket = none := by
  refine Option.eq_none_iff_forall_ne_some.2 fun outcome told => ?_
  have among := List.mem_append_right (history.connection.pending.values)
    (resolved_of_outcome? told)
  have handedIn := kept.places.mem_iff.1
    (List.mem_append_right _ (List.mem_append_right _ among))
  exact absurd (List.mem_range.1 handedIn) (Nat.not_lt.2 comesLater)

/-- Whoever comes to a closing connection is told that it is closed, if anything. -/
theorem Kept.refused (kept : Kept history) (closing : history.IsClosing)
    (comesLater : history.requests.length ≤ ticket) (reaches : history.Reaches later)
    {outcome : Outcome} (told : later.outcome? ticket = some outcome) :
    outcome = .error .closed := by
  induction reaches with
  | refl =>
      rw [kept.untold comesLater] at told
      cases told
  | extend before moment ih =>
      have closes := (closing.before comesLater).reaches (before.extend moment)
      have keptLater := kept.reaches (before.extend moment)
      cases stopped : (History.extend _ moment).connection.stopped with
      | true => exact ((kept.reaches before).outcome_extend moment stopped told).elim ih id
      | false =>
          rw [closes.untold (keptLater.running stopped)] at told
          cases told

end Refused

/-! ## Connections that nobody closes -/

def Happening.closes : Happening → Bool
  | .close | .meet .abandoned => true
  | _ => false

def Trace.Spares (trace : Trace) : Prop := ∀ ticket, .resolve ticket (.error .closed) ∉ trace

namespace Connection

section Spares
variable {around : Surroundings} {connection : Connection}

theorem loseSocket_spares : Trace.Spares (loseSocket around connection).2 := by
  obtain ⟨timer, backoff, lost⟩ := loseSocket_eq around connection
  rw [lost]
  intro ticket told
  simp only [List.mem_append, List.mem_map, List.mem_cons, Trace.rejections] at told
  rcases told with ⟨socket, _, hungUp⟩ | entered | ⟨other, _, rejected⟩
  · cases hungUp
  · cases entered
  · cases rejected

theorem transmit_spares {queued : Queued} {socket : Nat} (held : connection.writer = some socket) :
    Trace.Spares (transmit around queued connection).2 := by
  intro ticket told
  rcases transmit_cases around connection queued held with
    ⟨delay, _, waits⟩ | ⟨_, written⟩ | ⟨_, lost⟩
  · simp [waits] at told
  · simp [written] at told
  · rw [lost] at told
    rcases List.mem_cons.1 told with numbering | later
    · cases numbering
    · exact loseSocket_spares ticket later

theorem spares_andThen {first : Handled} {next : Connection → Handled}
    (before : Trace.Spares first.2) (after : Trace.Spares (next first.1).2) :
    Trace.Spares (andThen first next).2 :=
  fun ticket told => (List.mem_append.1 told).elim (before ticket) (after ticket)

theorem flush_spares {queue : List Queued} (standing : Standing connection)
    (isOpen : connection.phase = .connected) :
    Trace.Spares (flush around queue connection).2 := by
  induction queue generalizing connection with
  | nil =>
      intro ticket told
      obtain ⟨listener, _, notified⟩ := List.mem_map.1 told
      cases notified
  | cons first rest ih =>
      have stands := standing.withQueue rest
      obtain ⟨socket, held, _⟩ := stands.socket isOpen
      refine spares_andThen (transmit_spares held) ?_
      rcases transmit_standing around stands first isOpen with
        ⟨stillStands, stillOpen, _⟩ | ⟨_, lost⟩
      · simp only [stillOpen]
        exact ih stillStands stillOpen
      · simp only [lost]
        exact fun ticket => List.not_mem_nil

theorem Deed.spares {event : ConnectionEvent} {handled : Handled} (coherent : Coherent connection)
    (deed : Deed around connection event handled) : Trace.Spares handled.2 := by
  cases deed with
  | transmit ticket request isOpen =>
      obtain ⟨socket, held, _⟩ := coherent.socket isOpen
      have taken : Trace.Spares ((connection, [.accept ⟨ticket, request⟩]) : Handled).2 := by
        simp [Trace.Spares]
      exact spares_andThen taken (transmit_spares held)
  | takeSocket connecting =>
      have entered : Trace.Spares [.enter .connected] := by simp [Trace.Spares]
      exact spares_andThen entered (flush_spares (adopted_standing coherent connecting) rfl)
  | fail =>
      obtain ⟨timer, backoff, failed⟩ := failConnect_eq around { connection with dialing := false }
      simp [failed, Trace.Spares]
  | lose => exact loseSocket_spares
  | _ => simp [Trace.Spares]

end Spares

end Connection

/-- A connection that goes on and was not told to close. -/
structure Spared (history : History) : Prop where
  goesOn : history.connection.stopped = false
  mailbox : .close ∉ history.endpoint.mailbox
  spares : history.trace.Spares

section Spared
variable {history : History}

theorem start_spared (options : ConnectionOptions) : Spared (History.start options) :=
  ⟨rfl, by simp [History.start, Endpoint.create], by simp [Trace.Spares, History.start]⟩

theorem Spared.outcome (spared : Spared history) (ticket : Ticket) :
    history.outcome? ticket ≠ some (.error .closed) := by
  intro told
  obtain ⟨before, after, split⟩ := History.resolve_of_outcome? told
  exact spared.spares ticket (by simp [split])

theorem Spared.post (spared : Spared history) (command : CallerCommand)
    (goesOn : command ≠ .close) (requests : List Request) :
    Spared {
      endpoint := (history.endpoint.post command).1
      requests
      trace := history.trace ++ (history.endpoint.post command).2 } := by
  rw [Endpoint.post_of_running _ command spared.goesOn]
  refine ⟨spared.goesOn, ?_, by simpa using spared.spares⟩
  intro member
  rcases List.mem_append.1 member with before | last
  · exact spared.mailbox before
  · exact goesOn (List.mem_singleton.1 last).symm

theorem Spared.tell (spared : Spared history) (coherent : Coherent history.connection)
    (around : Surroundings) (event : ConnectionEvent) (goesOn : event ≠ .close)
    {mailbox : List CallerCommand} (left : mailbox ⊆ history.endpoint.mailbox) :
    Spared {
      endpoint := (Endpoint.tell around event ⟨history.connection, mailbox⟩).1
      requests := history.requests
      trace := history.trace ++ (Endpoint.tell around event ⟨history.connection, mailbox⟩).2 } := by
  have after := (handle_coherent around coherent event goesOn).running
  have spares := (handle_deed around coherent event goesOn).spares coherent
  rw [Endpoint.tell_eq, step_of_running around history.connection event spared.goesOn, after]
  refine ⟨after, fun member => spared.mailbox (left member), fun ticket told => ?_⟩
  exact (List.mem_append.1 told).elim (spared.spares ticket) (spares ticket)

theorem Spared.notify (spared : Spared history) (labels : List String) :
    Spared { history with trace := history.trace ++ labels.map .notify } := by
  refine ⟨spared.goesOn, spared.mailbox, fun ticket told => ?_⟩
  rcases List.mem_append.1 told with before | notified
  · exact spared.spares ticket before
  · obtain ⟨label, _, other⟩ := List.mem_map.1 notified
    cases other

theorem Spared.extend (spared : Spared history) (kept : Kept history) (moment : Moment)
    (goesOn : moment.happening.closes = false) : Spared (history.extend moment) := by
  have coherent := (kept.running spared.goesOn).coherent
  obtain ⟨around, happening⟩ := moment
  cases happening with
  | send request => exact spared.post (.submit history.requests.length request) (by simp) _
  | connect => exact spared.post .connect (by simp) _
  | listen label once immediately =>
      obtain ⟨told, unregistered | registered⟩ :=
        history.endpoint.onConnected_cases label once immediately
      · simpa [History.extend, Happening.act, Happening.request?, unregistered]
          using spared.notify told
      · simpa [History.extend, Happening.act, Happening.request?, registered]
          using (spared.notify told).post (.listen ⟨label, once⟩) (by simp) history.requests
  | count caller => exact spared.post (.count caller) (by simp) _
  | close => cases goesOn
  | take =>
      cases waiting : history.endpoint.mailbox with
      | nil =>
          simpa [History.extend, Happening.act, Happening.request?, Endpoint.takeCommand, waiting]
            using spared
      | cons command rest =>
          have going : command.event ≠ .close := by
            intro closes
            refine spared.mailbox ?_
            cases command <;> cases closes
            simp [waiting]
          have left : rest ⊆ history.endpoint.mailbox := by simp [waiting]
          have told := spared.tell coherent around command.event going left
          simpa [History.extend, Happening.act, Happening.request?, Endpoint.takeCommand, waiting]
            using told
  | meet occurrence =>
      have going : occurrence.event ≠ .close := by
        cases occurrence with
        | abandoned => cases goesOn
        | _ => simp [Occurrence.event]
      simpa [History.extend, Happening.act, Happening.request?]
        using spared.tell coherent around occurrence.event going (List.Subset.refl _)

end Spared

end BookmarkHub
