import BookmarkHub.Proofs.Hub.BridgeLine
import Mathlib.Data.List.Induction

/-!
# The books of a bridge

As long as a bridge runs, the calls in its mailbox are those that were made and
not taken, and its table has those that were taken and have come to nothing.  So
every caller was told what its call has led to, once, and when the bridge stops,
every other caller is told that.
-/

set_option autoImplicit false

namespace BookmarkHub

namespace BridgeLine

/-- The books of a bridge that runs. -/
structure Working (line : BridgeLine) : Prop where
  lastId : line.bridge.lastId = line.taken.length
  waiting : line.bridge.mailbox.filterMap BridgeRequest.call? =
    line.calls.zipIdx.drop line.taken.length
  pending : ∀ number ticket : Nat, line.bridge.pending.find? number = some ticket ↔
    number = ticket + 1 ∧ ticket < line.taken.length ∧ line.settled? ticket = none

structure Ledger (line : BridgeLine) : Prop where
  taken : line.taken.map TakenCall.call <+: line.calls
  since : ∀ taken ∈ line.taken, taken.since ≤ line.heard.length
  results : ∀ ticket, line.results ticket = (line.fate? ticket).toList
  sent : line.sent = line.taken.zipIdx.filterMap fun entry => entry.1.sent? (entry.2 + 1)
  working : line.bridge.isRunning = true → Working line
  stopped : line.bridge.isRunning = false →
    line.bridge.mailbox = [] ∧ line.bridge.pending = Table.empty

/-- Nothing happens that matters to a call. -/
structure Aside (line after : BridgeLine) : Prop where
  calls : after.calls = line.calls
  taken : after.taken = line.taken
  heard : line.heard.length ≤ after.heard.length
  settled : ∀ ticket, after.settled? ticket = line.settled? ticket
  isRunning : after.bridge.isRunning = line.bridge.isRunning
  lastId : after.bridge.lastId = line.bridge.lastId
  pending : after.bridge.pending = line.bridge.pending
  mailbox : after.bridge.mailbox.filterMap BridgeRequest.call? =
    line.bridge.mailbox.filterMap BridgeRequest.call?
  empty : line.bridge.isRunning = false → line.bridge.mailbox = [] → after.bridge.mailbox = []
  results : ∀ ticket, after.results ticket = line.results ticket
  sent : after.sent = line.sent

section Ledger
variable {line : BridgeLine}

theorem aside_of_unmoved {after : BridgeLine} (bridge : after.bridge = line.bridge)
    (trace : after.trace = line.trace) (calls : after.calls = line.calls)
    (taken : after.taken = line.taken) (heard : line.heard.length ≤ after.heard.length)
    (settled : ∀ ticket, after.settled? ticket = line.settled? ticket) : Aside line after where
  calls := calls
  taken := taken
  heard := heard
  settled := settled
  isRunning := congrArg Bridge.isRunning bridge
  lastId := congrArg Bridge.lastId bridge
  pending := congrArg Bridge.pending bridge
  mailbox := congrArg (·.mailbox.filterMap BridgeRequest.call?) bridge
  empty := by
    rw [bridge]
    exact fun _ => id
  results := fun ticket => congrArg (List.filterMap (BridgeEffect.resultFor? ticket)) trace
  sent := congrArg (List.filterMap BridgeEffect.sent?) trace

theorem Ledger.taken_le (ledger : Ledger line) : line.taken.length ≤ line.calls.length := by
  have short := ledger.taken.length_le
  rwa [List.length_map] at short

theorem ledger_start : Ledger {} where
  taken := List.nil_prefix
  since := by simp
  results := fun _ => rfl
  sent := rfl
  working := fun _ => by
    refine ⟨rfl, rfl, fun number ticket => ?_⟩
    refine iff_of_false (by simp) ?_
    rintro ⟨_, below, _⟩
    cases below
  stopped := fun stopped => by cases stopped

theorem Ledger.aside (ledger : Ledger line) {after : BridgeLine} (aside : Aside line after) :
    Ledger after where
  taken := by
    rw [aside.taken, aside.calls]
    exact ledger.taken
  since := by
    rw [aside.taken]
    intro call member
    exact Nat.le_trans (ledger.since call member) aside.heard
  results := by
    intro ticket
    rw [aside.results, ledger.results, fate?, fate?, aside.settled, aside.isRunning, aside.calls]
  sent := by
    rw [aside.sent, aside.taken]
    exact ledger.sent
  working := by
    rw [aside.isRunning]
    intro running
    have working := ledger.working running
    refine ⟨?_, ?_, fun number ticket => ?_⟩
    · rw [aside.lastId, aside.taken]
      exact working.lastId
    · rw [aside.mailbox, aside.calls, aside.taken]
      exact working.waiting
    · rw [aside.pending, aside.taken, aside.settled]
      exact working.pending number ticket
  stopped := by
    rw [aside.isRunning]
    intro stopped
    have empty := ledger.stopped stopped
    exact ⟨aside.empty stopped empty.1, aside.pending.trans empty.2⟩

section Ask
variable (ledger : Ledger line)
include ledger

theorem Ledger.count (caller : BridgeTicket) :
    Ledger (line.perform (line.bridge.ask (.count caller))) := by
  refine ledger.aside ?_
  cases running : line.bridge.isRunning with
  | true =>
      rw [Bridge.ask_running running]
      refine ⟨rfl, rfl, Nat.le_refl _, fun _ => rfl, rfl, rfl, rfl, ?_, ?_, ?_, ?_⟩
      · simp
      · intro stopped
        rw [running] at stopped
        cases stopped
      · simp
      · simp
  | false =>
      rw [Bridge.ask_stopped running, Bridge.reject]
      refine ⟨rfl, rfl, Nat.le_refl _, fun _ => rfl, rfl, rfl, rfl, rfl, fun _ => id, ?_, ?_⟩
      · simp
      · simp

theorem Ledger.refuse {after : BridgeLine} (stopped : line.bridge.isRunning = false)
    (call : String × List Json) (calls : after.calls = line.calls ++ [call])
    (taken : after.taken = line.taken) (heard : after.heard = line.heard)
    (bridge : after.bridge = line.bridge)
    (trace : after.trace = line.trace ++ [.resolve line.calls.length (.error .shutdown)]) :
    Ledger after where
  taken := by
    rw [taken, calls]
    exact ledger.taken.trans (List.prefix_append _ _)
  since := by
    rw [taken, heard]
    exact ledger.since
  results := by
    intro ticket
    have short := ledger.taken_le
    have still : after.bridge.isRunning = false := by rw [bridge, stopped]
    have before : line.trace.filterMap (·.resultFor? ticket) = _ := ledger.results ticket
    rw [BridgeLine.results, trace, List.filterMap_append, before, fate?_of_stopped stopped,
      fate?_of_stopped still, settled?_congr taken heard, calls, List.length_append,
      List.length_singleton]
    rcases Nat.lt_trichotomy ticket line.calls.length with earlier | rfl | later
    · rw [if_pos earlier, if_pos (Nat.lt_succ_of_lt earlier)]
      simp [Nat.ne_of_gt earlier]
    · rw [settled?_of_untaken short]
      simp
    · have apart : line.calls.length ≠ ticket := Nat.ne_of_lt later
      rw [if_neg (Nat.lt_asymm later), if_neg (Nat.not_lt_of_ge later)]
      simp [apart]
  sent := by
    rw [BridgeLine.sent, trace, List.filterMap_append, taken]
    exact (List.append_nil _).trans ledger.sent
  working := by
    rw [bridge]
    intro runs
    cases stopped.symm.trans runs
  stopped := by
    rw [bridge]
    exact ledger.stopped

theorem Ledger.call (func : String) (args : List Json) :
    Ledger ({ line with calls := line.calls ++ [(func, args)] }.perform
      (line.bridge.ask (.call line.calls.length func args))) := by
  have short := ledger.taken_le
  have longer : line.taken.map TakenCall.call <+: line.calls ++ [(func, args)] :=
    ledger.taken.trans (List.prefix_append _ _)
  cases running : line.bridge.isRunning with
  | true =>
      have working := ledger.working running
      rw [Bridge.ask_running running]
      refine ⟨longer, ledger.since, fun ticket => ?_, ?_, fun _ => ⟨working.lastId, ?_, ?_⟩, ?_⟩
      · have known := ledger.results ticket
        rw [fate?_of_running running] at known
        rw [results_perform, fate?_of_running (by exact running)]
        exact (List.append_nil _).trans known
      · rw [sent_perform]
        exact (List.append_nil _).trans ledger.sent
      · rw [perform_bridge, List.filterMap_append, working.waiting]
        simp only [perform]
        rw [List.zipIdx_append, List.drop_append_of_le_length (by simpa using short)]
        simp
      · exact working.pending
      · intro stopped
        cases running.symm.trans stopped
  | false =>
      rw [Bridge.ask_stopped running, Bridge.reject]
      exact ledger.refuse running (func, args) rfl rfl rfl rfl rfl

end Ask

/-! ## Taking a call -/

theorem next_of_waiting {calls : List (String × List Json)} {count : Nat}
    {call : String × List Json} {ticket : BridgeTicket}
    {rest : List ((String × List Json) × BridgeTicket)}
    (waiting : (call, ticket) :: rest = calls.zipIdx.drop count) :
    calls[count]? = some call ∧ ticket = count ∧ rest = calls.zipIdx.drop (count + 1) := by
  have below : count < calls.zipIdx.length := by
    by_contra beyond
    rw [List.drop_eq_nil_of_le (Nat.le_of_not_lt beyond)] at waiting
    cases waiting
  rw [List.drop_eq_getElem_cons below, List.getElem_zipIdx, Nat.zero_add] at waiting
  obtain ⟨first, others⟩ := List.cons.inj waiting
  obtain ⟨called, numbered⟩ := Prod.mk.inj first
  rw [List.length_zipIdx] at below
  exact ⟨by rw [List.getElem?_eq_getElem below, called], numbered, others⟩

section Take
variable (ledger : Ledger line) (running : line.bridge.isRunning = true)
include ledger running

theorem Ledger.takes {after : BridgeLine} {ticket : BridgeTicket} {func : String}
    {args : List Json} {rest : List BridgeRequest} {posted : Bool}
    (oldest : line.bridge.mailbox = .call ticket func args :: rest)
    (calls : after.calls = line.calls)
    (taken : after.taken = line.taken ++ [⟨func, args, line.heard.length, posted⟩])
    (heard : after.heard = line.heard)
    (bridge : after.bridge = (line.bridge.take posted).1)
    (trace : after.trace = line.trace ++ (line.bridge.take posted).2) : Ledger after := by
  have working := ledger.working running
  have waiting := working.waiting
  rw [oldest, List.filterMap_cons_some (BridgeRequest.call?_call ..)] at waiting
  -- the ticket is the number of calls that were taken before
  obtain ⟨called, rfl, others⟩ := next_of_waiting waiting
  have settled (other : Nat) : after.settled? other =
      if other = line.taken.length ∧ posted = false then some (.error .shutdown)
      else line.settled? other :=
    settled?_of_taken taken heard
  have fresh : line.settled? line.taken.length = none := settled?_of_untaken (Nat.le_refl _)
  rw [Bridge.take_call running posted oldest] at bridge trace
  refine ⟨?_, ?_, fun other => ?_, ?_, fun _ => ⟨?_, ?_, fun number other => ?_⟩, ?_⟩
  · have before := List.prefix_iff_eq_take.1 ledger.taken
    rw [List.length_map] at before
    have longer : line.calls.take (line.taken.length + 1) =
        line.calls.take line.taken.length ++ [(func, args)] := by
      rw [List.take_add_one, called]
      rfl
    rw [taken, calls, List.map_append, List.map_singleton, before, TakenCall.call, ← longer]
    exact List.take_prefix _ _
  · rw [taken, heard]
    intro call member
    rcases List.mem_append.1 member with before | last
    · exact ledger.since call before
    · exact Nat.le_of_eq (congrArg TakenCall.since (List.mem_singleton.1 last))
  · have still : after.bridge.isRunning = true := by rw [bridge]; exact running
    have before : line.trace.filterMap (·.resultFor? other) = _ := ledger.results other
    rw [BridgeLine.results, trace, List.filterMap_append, before, fate?_of_running running,
      fate?_of_running still, settled]
    by_cases same : other = line.taken.length
    · subst same
      cases posted <;> simp [fresh]
    · cases posted <;> simp [same, Ne.symm same]
  · rw [BridgeLine.sent, trace, List.filterMap_append, taken, List.zipIdx_append,
      List.filterMap_append, ← ledger.sent]
    cases posted <;> simp [TakenCall.sent?, working.lastId, BridgeLine.sent]
  · rw [bridge, taken, List.length_append, List.length_singleton]
    exact congrArg (· + 1) working.lastId
  · rw [bridge, calls, taken, List.length_append, List.length_singleton]
    exact others
  · have known := working.pending number other
    rw [bridge, settled, taken, List.length_append, List.length_singleton, working.lastId]
    by_cases same : other = line.taken.length
    · subst same
      have untabled : line.bridge.pending.find? number ≠ some line.taken.length :=
        fun found => Nat.lt_irrefl _ (known.1 found).2.1
      cases posted with
      | false => simp [untabled]
      | true =>
          simp only [if_true, Table.find?_insert, Nat.compare_eq_eq, fresh]
          by_cases newest : number = line.taken.length + 1
          · simp [newest]
          · simp [newest, untabled]
    · have below : other < line.taken.length + 1 ↔ other < line.taken.length := by omega
      cases posted with
      | false => simpa [same, below] using known
      | true =>
          simp only [if_true, Table.find?_insert, Nat.compare_eq_eq]
          by_cases newest : number = line.taken.length + 1
          · simp [newest, Ne.symm same]
          · simpa [newest, below] using known
  · rw [bridge]
    intro stopped
    cases running.symm.trans stopped

end Take

theorem Ledger.take (ledger : Ledger line) (hubHears : Bool) :
    Ledger (line.step (.take hubHears)) := by
  cases running : line.bridge.isRunning with
  | false =>
      have idle := Bridge.take_nothing hubHears (ledger.stopped running).1
      have nobody : line.next? hubHears = none := by simp [next?, running]
      simpa [step, nobody, idle, perform] using ledger
  | true =>
      cases waiting : line.bridge.mailbox with
      | nil =>
          have idle := Bridge.take_nothing hubHears waiting
          have nobody : line.next? hubHears = none := by simp [next?, running, waiting]
          simpa [step, nobody, idle, perform] using ledger
      | cons request rest =>
          cases request with
          | call ticket func args =>
              have next : line.next? hubHears =
                  some ⟨func, args, line.heard.length, hubHears⟩ := by
                simp [next?, running, waiting]
              rw [step, next]
              exact ledger.takes running waiting rfl rfl rfl rfl rfl
          | count caller =>
              have nobody : line.next? hubHears = none := by simp [next?, running, waiting]
              have told := Bridge.take_count running hubHears waiting
              rw [step, nobody, told, Option.toList_none, List.append_nil]
              refine ledger.aside
                ⟨rfl, rfl, Nat.le_refl _, fun _ => rfl, rfl, rfl, rfl, ?_, ?_, ?_, ?_⟩
              · rw [waiting]
                rfl
              · intro stopped
                cases running.symm.trans stopped
              · intro ticket
                rw [results_perform]
                exact List.append_nil _
              · rw [sent_perform]
                exact List.append_nil _

/-! ## Hearing the hub -/

section Hear
variable (ledger : Ledger line) (running : line.bridge.isRunning = true)
include ledger running

theorem Ledger.hears {after : BridgeLine} {command : HubCommand}
    (calls : after.calls = line.calls) (taken : after.taken = line.taken)
    (heard : after.heard = line.heard ++ [command])
    (bridge : after.bridge = (line.bridge.hear command).1)
    (trace : after.trace = line.trace ++ (line.bridge.hear command).2) : Ledger after := by
  have working := ledger.working running
  have settled (ticket : Nat) : after.settled? ticket = (line.settled? ticket).or
      (if ticket < line.taken.length then (command.responseTo? (ticket + 1)).map .ok else none) :=
    settled?_of_heard ledger.since taken heard
  have longer : line.heard.length ≤ after.heard.length := by
    rw [heard, List.length_append]
    exact Nat.le_add_right _ _
  rcases line.bridge.hear_cases command with
    ⟨ticket, response, found, responds, answered⟩ | ⟨unanswering, ignored⟩
  · rw [answered] at bridge trace
    obtain ⟨number, there, unsettled⟩ := (working.pending _ ticket).1 found
    -- the response settles the call whose number it carries, and no other
    have settles (other : Nat) : after.settled? other =
        if other = ticket then some (.ok response) else line.settled? other := by
      rw [settled, responds, number]
      by_cases same : other = ticket
      · subst same
        simp [unsettled, there]
      · simp [same, Ne.symm same]
    have still : after.bridge.isRunning = true := by rw [bridge]; exact running
    refine ⟨?_, ?_, fun other => ?_, ?_, fun _ => ⟨?_, ?_, fun given other => ?_⟩, ?_⟩
    · rw [taken, calls]
      exact ledger.taken
    · rw [taken]
      intro call member
      exact Nat.le_trans (ledger.since call member) longer
    · have before : line.trace.filterMap (·.resultFor? other) = _ := ledger.results other
      rw [BridgeLine.results, trace, List.filterMap_append, before, fate?_of_running running,
        fate?_of_running still, settles]
      by_cases same : other = ticket
      · subst same
        simp [unsettled]
      · simp [same, Ne.symm same]
    · rw [BridgeLine.sent, trace, List.filterMap_append, taken]
      exact (List.append_nil _).trans ledger.sent
    · rw [bridge, taken]
      exact working.lastId
    · rw [bridge, calls, taken]
      exact working.waiting
    · have known := working.pending given other
      rw [bridge, settles, taken]
      simp only [Table.find?_erase, Nat.compare_eq_eq, number]
      by_cases same : other = ticket
      · refine iff_of_false (fun tabled => ?_) (by simp [same])
        split at tabled
        · cases tabled
        · rename_i apart
          rw [same] at known tabled
          exact apart (known.1 tabled).1
      · rw [if_neg same]
        by_cases erased : given = ticket + 1
        · refine iff_of_false (by simp [erased]) ?_
          rintro ⟨also, _⟩
          omega
        · rw [if_neg erased]
          exact known
    · rw [bridge]
      intro stopped
      cases running.symm.trans stopped
  · rw [ignored] at bridge trace
    rw [List.append_nil] at trace
    refine ledger.aside (aside_of_unmoved bridge trace calls taken longer fun ticket => ?_)
    rw [settled]
    cases unsettled : line.settled? ticket with
    | some result => rfl
    | none =>
        split
        · rename_i there
          cases answers : command.responseTo? (ticket + 1) with
          | none => rfl
          | some response =>
              have tabled := (working.pending (ticket + 1) ticket).2 ⟨rfl, there, unsettled⟩
              rw [unanswering _ response answers] at tabled
              cases tabled
        · rfl

end Hear

/-! ## Stopping -/

theorem Working.mem_values (working : Working line) (ticket : Nat) :
    ticket ∈ line.bridge.pending.values ↔
      ticket < line.taken.length ∧ line.settled? ticket = none := by
  constructor
  · intro member
    obtain ⟨number, found⟩ := Table.find?_of_mem_values member
    exact ((working.pending number ticket).1 found).2
  · intro waits
    exact Table.mem_values_of_find? ((working.pending (ticket + 1) ticket).2 ⟨rfl, waits⟩)

theorem Working.values_nodup (working : Working line) : line.bridge.pending.values.Nodup := by
  refine Table.values_nodup _ fun number other ticket found alsoFound => ?_
  rw [((working.pending number ticket).1 found).1, ((working.pending other ticket).1 alsoFound).1]

theorem results_of_tickets (tickets : List BridgeTicket) (ticket : BridgeTicket) :
    (tickets.map (BridgeEffect.resolve · (.error .shutdown))).filterMap
        (BridgeEffect.resultFor? ticket) =
      List.replicate (tickets.count ticket) (.error .shutdown) := by
  induction tickets with
  | nil => rfl
  | cons other rest ih =>
      by_cases same : other = ticket
      · subst same
        simp [ih, List.replicate_succ]
      · simp [ih, same]

theorem results_of_rejected (mailbox : List BridgeRequest) (ticket : BridgeTicket) :
    (mailbox.map Bridge.reject).filterMap (·.resultFor? ticket) =
      List.replicate (((mailbox.filterMap BridgeRequest.call?).map Prod.snd).count ticket)
        (.error .shutdown) := by
  induction mailbox with
  | nil => rfl
  | cons request rest ih =>
      cases request with
      | count caller => exact ih
      | call other func args =>
          by_cases same : other = ticket
          · subst same
            simp [Bridge.reject, ih, List.replicate_succ]
          · simp [Bridge.reject, ih, same]

theorem sent_of_rejected (mailbox : List BridgeRequest) :
    (mailbox.map Bridge.reject).filterMap BridgeEffect.sent? = [] := by
  induction mailbox with
  | nil => rfl
  | cons request rest ih => cases request <;> simpa [Bridge.reject] using ih

theorem Working.tickets (working : Working line) :
    (line.bridge.mailbox.filterMap BridgeRequest.call?).map Prod.snd =
      List.range' line.taken.length (line.calls.length - line.taken.length) := by
  rw [working.waiting, List.map_drop, List.zipIdx_map_snd, List.drop_range']
  simp

theorem Ledger.stop (ledger : Ledger line) (running : line.bridge.isRunning = true)
    {after : BridgeLine} (calls : after.calls = line.calls) (taken : after.taken = line.taken)
    (heard : after.heard = line.heard) (bridge : after.bridge = line.bridge.stop.1)
    (trace : after.trace = line.trace ++ line.bridge.stop.2) : Ledger after := by
  have working := ledger.working running
  have short := ledger.taken_le
  rw [Bridge.stop, if_pos running] at bridge trace
  have stopped : after.bridge.isRunning = false := by rw [bridge]
  refine ⟨?_, ?_, fun ticket => ?_, ?_, fun runs => ?_, fun _ => ?_⟩
  · rw [taken, calls]
    exact ledger.taken
  · rw [taken, heard]
    exact ledger.since
  · have before : line.trace.filterMap (·.resultFor? ticket) = _ := ledger.results ticket
    rw [BridgeLine.results, trace, List.filterMap_append, List.filterMap_append,
      List.filterMap_append, before, fate?_of_running running, fate?_of_stopped stopped,
      settled?_congr taken heard, calls, results_of_tickets, results_of_rejected, working.tickets,
      working.values_nodup.count, List.Nodup.count (List.nodup_range' 1 Nat.one_pos)]
    simp only [working.mem_values, List.mem_range'_1, Nat.add_sub_cancel' short]
    -- a call was taken, or is in the mailbox, or was not made
    by_cases there : ticket < line.taken.length
    · have made : ticket < line.calls.length := Nat.lt_of_lt_of_le there short
      cases unsettled : line.settled? ticket <;> simp [there, made]
    · have untaken := Nat.le_of_not_lt there
      rw [settled?_of_untaken untaken]
      by_cases made : ticket < line.calls.length <;> simp [there, untaken, made]
  · have told : (line.bridge.pending.values.map
        (BridgeEffect.resolve · (.error .shutdown))).filterMap BridgeEffect.sent? = [] := by
      simp [List.filterMap_map, Function.comp_def]
    rw [BridgeLine.sent, trace, List.filterMap_append, List.filterMap_append,
      List.filterMap_append, sent_of_rejected, told, taken]
    exact (List.append_nil _).trans ledger.sent
  · cases stopped.symm.trans runs
  · rw [bridge]
    exact ⟨rfl, rfl⟩

/-! ## Over a run -/

theorem Ledger.hear (ledger : Ledger line) : Ledger (line.step .hear) := by
  cases running : line.bridge.isRunning with
  | false => simpa [step, running] using ledger
  | true =>
      cases arrived : line.inbox with
      | cons command rest =>
          simp only [step, running, arrived]
          exact ledger.hears running rfl rfl rfl rfl rfl
      | nil =>
          cases held : line.isHeld with
          | true => simpa [step, running, arrived, held] using ledger
          | false =>
              simp only [step, running, arrived, held]
              exact ledger.stop running rfl rfl rfl rfl rfl

theorem Ledger.leave (ledger : Ledger line) : Ledger (line.step .leave) := by
  rw [step]
  split
  · exact ledger
  · cases running : line.bridge.isRunning with
    | true => exact ledger.stop running rfl rfl rfl rfl rfl
    | false => simpa [Bridge.stop, running, perform] using ledger

theorem Ledger.step (ledger : Ledger line) (move : BridgeMove) : Ledger (line.step move) := by
  cases move with
  | call func args =>
      rw [BridgeLine.step]
      split
      · exact ledger.call func args
      · exact ledger
  | count caller =>
      rw [BridgeLine.step]
      split
      · exact ledger.count caller
      · exact ledger
  | abandon ticket =>
      rw [BridgeLine.step]
      split
      · exact ledger.aside (aside_of_unmoved rfl rfl rfl rfl (Nat.le_refl _) fun _ => rfl)
      · exact ledger
  | release =>
      rw [BridgeLine.step]
      split
      · exact ledger
      · exact ledger.aside (aside_of_unmoved rfl rfl rfl rfl (Nat.le_refl _) fun _ => rfl)
  | post command =>
      rw [BridgeLine.step]
      split
      · exact ledger.aside (aside_of_unmoved rfl rfl rfl rfl (Nat.le_refl _) fun _ => rfl)
      · exact ledger
  | letGo => exact ledger.aside (aside_of_unmoved rfl rfl rfl rfl (Nat.le_refl _) fun _ => rfl)
  | take hubHears => exact ledger.take hubHears
  | hear => exact ledger.hear
  | leave => exact ledger.leave

theorem run_ledger (moves : List BridgeMove) : Ledger (run moves) := by
  induction moves using List.reverseRecOn with
  | nil => exact ledger_start
  | append_singleton earlier move ih =>
      rw [run_snoc]
      exact ih.step move

end Ledger

end BridgeLine

end BookmarkHub
