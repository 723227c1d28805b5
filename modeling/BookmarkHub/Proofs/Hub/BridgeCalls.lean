import BookmarkHub.Proofs.Hub.BridgeLedger
import Mathlib.Algebra.Group.Nat.Defs

/-!
# Calls over a bridge

Every call over a bridge is told one thing: the first response to its number, or
that the hub is gone.  It is told that the hub is gone only if it could not be
posted, or if the bridge has heard everything that the hub had posted.  Once the
hub can post no more, the bridge hears what is left and stops, and nobody waits
any longer.
-/

set_option autoImplicit false

namespace BookmarkHub

namespace BridgeLine

def posted (line : BridgeLine) : List HubCommand := line.heard ++ line.inbox

/-- What a call that was taken leads to once the bridge hears all that was posted. -/
def due? (ticket : BridgeTicket) (line : BridgeLine) : Option BridgeResult :=
  line.taken[ticket]?.bind (·.result? line.posted (ticket + 1))

def effects (move : BridgeMove) (line : BridgeLine) : List BridgeEffect :=
  (line.step move).trace.drop line.trace.length

/-- Nobody can post more, and everything that was posted was heard. -/
structure IsQuiet (line : BridgeLine) : Prop where
  unheld : line.isHeld = false
  empty : line.inbox = []

/-! ## What a move leaves as it is -/

/-- Nothing that happened is undone. -/
structure Grows (line after : BridgeLine) : Prop where
  trace : line.trace <+: after.trace
  taken : line.taken <+: after.taken
  heard : line.heard <+: after.heard
  abandoned : line.abandoned ⊆ after.abandoned
  unheld : line.isHeld = false → after.isHeld = false ∧ after.posted = line.posted
  unkept : line.isKept = false → after.isKept = false ∧ after.calls = line.calls
  stopped : line.bridge.isRunning = false → after.bridge.isRunning = false

section Step
variable {line after : BridgeLine}

theorem grows_refl (line : BridgeLine) : Grows line line where
  trace := List.prefix_refl _
  taken := List.prefix_refl _
  heard := List.prefix_refl _
  abandoned := List.Subset.refl _
  unheld := fun unheld => ⟨unheld, rfl⟩
  unkept := fun unkept => ⟨unkept, rfl⟩
  stopped := id

theorem Grows.trans {last : BridgeLine} (first : Grows line after) (second : Grows after last) :
    Grows line last where
  trace := first.trace.trans second.trace
  taken := first.taken.trans second.taken
  heard := first.heard.trans second.heard
  abandoned := List.Subset.trans first.abandoned second.abandoned
  unheld := fun unheld =>
    have ⟨next, same⟩ := first.unheld unheld
    ⟨(second.unheld next).1, (second.unheld next).2.trans same⟩
  unkept := fun unkept =>
    have ⟨next, same⟩ := first.unkept unkept
    ⟨(second.unkept next).1, (second.unkept next).2.trans same⟩
  stopped := second.stopped ∘ first.stopped

theorem Grows.perform (grows : Grows line after) {handled : Bridge.Handled}
    (running : handled.1.isRunning = true → after.bridge.isRunning = true) :
    Grows line (after.perform handled) where
  trace := grows.trace.trans (List.prefix_append _ _)
  taken := grows.taken
  heard := grows.heard
  abandoned := grows.abandoned
  unheld := grows.unheld
  unkept := grows.unkept
  stopped := fun stopped => by
    have still := grows.stopped stopped
    cases runs : handled.1.isRunning with
    | false => exact runs
    | true => cases (running runs).symm.trans still

theorem step_grows (line : BridgeLine) (move : BridgeMove) : Grows line (line.step move) := by
  have same := grows_refl line
  cases move with
  | call func args =>
      rw [step]
      split
      · rename_i kept
        have grows : Grows line { line with calls := line.calls ++ [(func, args)] } :=
          { same with unkept := fun unkept => by cases kept.symm.trans unkept }
        exact grows.perform (by simp)
      · exact same
  | count caller =>
      rw [step]
      split
      · exact same.perform (by simp)
      · exact same
  | abandon ticket =>
      rw [step]
      split
      · exact { same with abandoned := List.subset_append_left _ _ }
      · exact same
  | release =>
      rw [step]
      split
      · exact same
      · exact { same with unkept := fun _ => ⟨rfl, rfl⟩ }
  | post command =>
      rw [step]
      split
      · rename_i held
        exact { same with unheld := fun unheld => by cases held.symm.trans unheld }
      · exact same
  | letGo => exact { same with unheld := fun _ => ⟨rfl, rfl⟩ }
  | take hubHears =>
      have grows : Grows line { line with taken := line.taken ++ (line.next? hubHears).toList } :=
        { same with taken := List.prefix_append _ _ }
      exact grows.perform (by simp)
  | hear =>
      rw [step]
      split
      · exact same
      · rename_i command rest running arrived
        have grows : Grows line { line with inbox := rest, heard := line.heard ++ [command] } :=
          { same with
            heard := List.prefix_append _ _
            unheld := fun unheld => ⟨unheld, by simp [posted, arrived]⟩ }
        exact grows.perform (by simp)
      · split
        · exact same
        · exact same.perform (by simp)
  | leave =>
      rw [step]
      split
      · exact same
      · exact same.perform (by simp)

theorem grows_foldl (line : BridgeLine) (moves : List BridgeMove) :
    Grows line (moves.foldl step line) := by
  induction moves generalizing line with
  | nil => exact grows_refl line
  | cons move rest ih => exact (step_grows line move).trans (ih _)

theorem posted_step (line : BridgeLine) (move : BridgeMove) :
    (line.step move).posted =
      line.posted ++ if line.isHeld then move.posted?.toList else [] := by
  cases move with
  | post command =>
      rw [step]
      split
      · simp [posted, BridgeMove.posted?, *]
      · simp [*]
  | hear =>
      rw [step]
      split
      · simp [BridgeMove.posted?]
      · simp [posted, perform, BridgeMove.posted?, *]
      · split <;> simp [posted, perform, BridgeMove.posted?]
  | _ =>
      simp only [step]
      try split
      all_goals simp [posted, perform, BridgeMove.posted?]

theorem step_stops {move : BridgeMove} (running : line.bridge.isRunning = true)
    (stopped : (line.step move).bridge.isRunning = false) :
    IsQuiet line ∨ line.isKept = false := by
  cases move with
  | hear =>
      cases arrived : line.inbox with
      | cons command rest => simp [step, running, arrived] at stopped
      | nil =>
          cases held : line.isHeld with
          | true => simp [step, running, arrived, held] at stopped
          | false => exact .inl ⟨held, arrived⟩
  | leave =>
      rw [step] at stopped
      split at stopped
      · cases running.symm.trans stopped
      · rename_i left
        simp only [Bool.or_eq_true, not_or, Bool.not_eq_true] at left
        exact .inr left.1
  | _ =>
      simp only [step] at stopped
      try split at stopped
      all_goals simp [running] at stopped

theorem Grows.quiet (grows : Grows line after) (quiet : IsQuiet line) : IsQuiet after := by
  obtain ⟨unheld, same⟩ := grows.unheld quiet.unheld
  obtain ⟨more, longer⟩ := grows.heard
  rw [posted, posted, quiet.empty, ← longer, List.append_assoc] at same
  exact ⟨unheld, (List.append_eq_nil_iff.1 (List.append_cancel_left same)).2⟩

theorem Grows.settled {ticket : BridgeTicket} {result : BridgeResult} (grows : Grows line after)
    (settled : line.settled? ticket = some result) : after.settled? ticket = some result := by
  obtain ⟨taken, found, led⟩ := Option.bind_eq_some_iff.1 settled
  obtain ⟨there, rfl⟩ := List.getElem?_eq_some_iff.1 found
  obtain ⟨more, longer⟩ := grows.heard
  rw [settled?, List.prefix_iff_getElem?.1 grows.taken ticket there, ← longer]
  exact TakenCall.result?_append led more

theorem Grows.fate {ticket : BridgeTicket} {result : BridgeResult} (grows : Grows line after)
    (ledger : Ledger line) (later : Ledger after) (fate : line.fate? ticket = some result) :
    after.fate? ticket = some result := by
  -- what was told once stays in the trace, and the books of both lines tell it
  have told : result ∈ line.results ticket := by
    rw [ledger.results, fate]
    exact List.mem_singleton_self result
  have longer : line.results ticket <+: after.results ticket :=
    grows.trace.filterMap (BridgeEffect.resultFor? ticket)
  have stays := longer.subset told
  rw [later.results] at stays
  exact Option.mem_toList.1 stays

theorem step_releases {move : BridgeMove} (kept : line.isKept = true)
    (unkept : (line.step move).isKept = false) :
    line.step move = { line with isKept := false } ∧ line.isAwaited = false := by
  cases move with
  | release =>
      rw [step] at unkept ⊢
      split at unkept
      · cases kept.symm.trans unkept
      · rename_i nobody
        rw [if_neg nobody]
        exact ⟨rfl, eq_false_of_ne_true nobody⟩
  | _ =>
      simp only [step] at unkept
      repeat' split at unkept
      all_goals cases kept.symm.trans unkept

end Step

/-! ## Who waits in vain -/

/-- No bridge stops on a caller that still waits, unless the hub is gone. -/
structure Patient (line : BridgeLine) : Prop where
  gone : line.bridge.isRunning = false → line.isKept = true → IsQuiet line
  left : line.isKept = false → IsQuiet line ∨
    ∀ ticket < line.calls.length, ticket ∈ line.abandoned ∨ (line.settled? ticket).isSome

section Patient
variable {line : BridgeLine}

theorem unawaited (ledger : Ledger line) (running : line.bridge.isRunning = true)
    (nobody : line.isAwaited = false) (ticket : BridgeTicket) (made : ticket < line.calls.length) :
    ticket ∈ line.abandoned ∨ (line.settled? ticket).isSome := by
  by_contra waits
  obtain ⟨unabandoned, unsettled⟩ := not_or.1 waits
  have untold : line.results ticket = [] := by
    rw [ledger.results, fate?_of_running running, Option.not_isSome_iff_eq_none.1 unsettled]
    rfl
  refine absurd nobody (Bool.not_eq_false _ ▸ List.any_eq_true.2 ?_)
  exact ⟨ticket, List.mem_range.2 made, by simp [unabandoned, untold]⟩

theorem Patient.step (patient : Patient line) (ledger : Ledger line) (move : BridgeMove) :
    Patient (line.step move) where
  gone := by
    intro stopped kept
    have grows := step_grows line move
    have before : line.isKept = true := by
      by_contra unkept
      cases kept.symm.trans (grows.unkept (eq_false_of_ne_true unkept)).1
    cases running : line.bridge.isRunning with
    | false => exact grows.quiet (patient.gone running before)
    | true =>
        rcases step_stops running stopped with quiet | unkept
        · exact grows.quiet quiet
        · cases before.symm.trans unkept
  left := by
    intro unkept
    have grows := step_grows line move
    cases kept : line.isKept with
    | false =>
        rcases patient.left kept with quiet | cared
        · exact .inl (grows.quiet quiet)
        · right
          -- nobody holds the bridge, so no call is new
          rw [(grows.unkept kept).2]
          intro ticket made
          rcases cared ticket made with abandoned | settled
          · exact .inl (grows.abandoned abandoned)
          · obtain ⟨result, found⟩ := Option.isSome_iff_exists.1 settled
            exact .inr (by simp [grows.settled found])
    | true =>
        obtain ⟨released, nobody⟩ := step_releases kept unkept
        rw [released]
        cases running : line.bridge.isRunning with
        | false =>
            obtain ⟨unheld, empty⟩ := patient.gone running kept
            exact .inl ⟨unheld, empty⟩
        | true =>
            have cared := unawaited ledger running nobody
            exact .inr cared

theorem run_patient (moves : List BridgeMove) : Patient (run moves) := by
  induction moves using List.reverseRecOn with
  | nil =>
      refine ⟨fun stopped => ?_, fun unkept => ?_⟩
      · cases stopped
      · cases unkept
  | append_singleton earlier move ih =>
      rw [run_snoc]
      exact ih.step (run_ledger earlier) move

variable (patient : Patient line) {ticket : BridgeTicket}
include patient

theorem Patient.failed {error : HubError} (fate : line.fate? ticket = some (.error error))
    (awaited : ticket ∉ line.abandoned) : error = .shutdown ∧
      ((∃ taken, line.taken[ticket]? = some taken ∧ taken.posted = false) ∨ IsQuiet line) := by
  cases settled : line.settled? ticket with
  | some result =>
      rw [fate?, settled, Option.some_or] at fate
      obtain ⟨taken, found, led⟩ := Option.bind_eq_some_iff.1 (settled.trans fate)
      rw [TakenCall.result?] at led
      split at led
      · obtain ⟨response, _, same⟩ := Option.map_eq_some_iff.1 led
        cases same
      · rename_i unposted
        cases led
        exact ⟨rfl, .inl ⟨taken, found, eq_false_of_ne_true unposted⟩⟩
  | none =>
      rw [fate?, settled, Option.none_or] at fate
      split at fate
      · rename_i gone
        cases fate
        refine ⟨rfl, .inr ?_⟩
        cases kept : line.isKept with
        | true => exact patient.gone gone.1 kept
        | false =>
            rcases patient.left kept with quiet | cared
            · exact quiet
            · rcases cared ticket gone.2 with abandoned | led
              · cases awaited abandoned
              · rw [settled] at led
                cases led
      · cases fate

theorem Patient.kept (ledger : Ledger line) {result : BridgeResult}
    (due : line.due? ticket = some result) (awaited : ticket ∉ line.abandoned) :
    line.fate? ticket = some result ∨
      line.fate? ticket = none ∧ line.bridge.isRunning = true := by
  obtain ⟨taken, found, led⟩ := Option.bind_eq_some_iff.1 due
  cases settled : line.settled? ticket with
  | some other =>
      have also := settled
      rw [settled?, found, Option.bind_some] at also
      have same := TakenCall.result?_append also line.inbox
      rw [fate?, settled, Option.some_or]
      exact .inl (same.symm.trans led)
  | none =>
      cases running : line.bridge.isRunning with
      | true => exact .inr ⟨(fate?_of_running running).trans settled, rfl⟩
      | false =>
          have there := (List.getElem?_eq_some_iff.1 found).1
          have gone : line.fate? ticket = some (.error .shutdown) := by
            rw [fate?_of_stopped running, settled, Option.none_or,
              if_pos (Nat.lt_of_lt_of_le there ledger.taken_le)]
          rcases (patient.failed gone awaited).2 with ⟨refused, also, unposted⟩ | quiet
          · cases also.symm.trans found
            rw [settled?, found, Option.bind_some, TakenCall.result?,
              if_neg (ne_true_of_eq_false unposted)] at settled
            cases settled
          · -- everything that was posted was heard, and none of it was a response
            rw [posted, quiet.empty, List.append_nil] at led
            rw [settled?, found, Option.bind_some, led] at settled
            cases settled

end Patient

/-! ## How many wait -/

section Counted
variable {line : BridgeLine}

theorem ended (stopped : line.bridge.isRunning = false) (ticket : BridgeTicket)
    (made : ticket < line.calls.length) : (line.fate? ticket).isSome := by
  rw [fate?_of_stopped stopped, if_pos made]
  cases line.settled? ticket <;> rfl

variable (ledger : Ledger line)
include ledger

theorem Ledger.unresolved_of_stopped (stopped : line.bridge.isRunning = false) :
    line.unresolved = [] := by
  refine List.filter_eq_nil_iff.2 fun ticket there => ?_
  have made := Nat.lt_of_lt_of_le (List.mem_range.1 there) ledger.taken_le
  simp [Option.isSome_iff_ne_none.1 (ended stopped ticket made)]

/-- The table has the calls that were taken and have come to nothing, under their numbers. -/
theorem Ledger.waits_iff (number : Nat) (ticket : BridgeTicket) :
    line.bridge.pending.find? number = some ticket ↔
      number = ticket + 1 ∧ ticket ∈ line.unresolved := by
  cases running : line.bridge.isRunning with
  | true =>
      rw [(ledger.working running).pending, unresolved, List.mem_filter, List.mem_range,
        fate?_of_running running, Option.isNone_iff_eq_none]
  | false => simp [ledger.unresolved_of_stopped running, (ledger.stopped running).2]

theorem Ledger.counted : line.bridge.pending.size = line.unresolved.length := by
  cases running : line.bridge.isRunning with
  | true =>
      have working := ledger.working running
      have same : line.bridge.pending.values.Perm line.unresolved := by
        refine (List.perm_ext_iff_of_nodup working.values_nodup
          (List.nodup_range.filter _)).2 fun ticket => ?_
        rw [working.mem_values, List.mem_filter, List.mem_range,
          fate?_of_running running, Option.isNone_iff_eq_none]
      rw [← same.length_eq, Table.values, List.length_map]
      rfl
  | false =>
      rw [ledger.unresolved_of_stopped running, (ledger.stopped running).2]
      rfl

theorem Ledger.counts_step (move : BridgeMove) : (line.step move).trace = line.trace ∨
    ∃ (after : BridgeLine) (handled : Bridge.Handled), after.trace = line.trace ∧
      Bridge.Counts handled ∧ line.step move = after.perform handled := by
  have idle (stopped : line.bridge.isRunning = false) : line.bridge.pending.size = 0 := by
    rw [(ledger.stopped stopped).2]
    rfl
  cases move with
  | call func args =>
      rw [BridgeLine.step]
      split
      · refine .inr ⟨_, _, ?_, Bridge.ask_counts idle _, rfl⟩
        rfl
      · exact .inl rfl
  | count caller =>
      rw [BridgeLine.step]
      split
      · exact .inr ⟨line, _, rfl, Bridge.ask_counts idle _, rfl⟩
      · exact .inl rfl
  | take hubHears =>
      refine .inr ⟨_, _, ?_, Bridge.take_counts hubHears _, rfl⟩
      rfl
  | hear =>
      rw [BridgeLine.step]
      split
      · exact .inl rfl
      · refine .inr ⟨_, _, ?_, Bridge.hear_counts _ _, rfl⟩
        rfl
      · split
        · exact .inl rfl
        · exact .inr ⟨line, _, rfl, Bridge.stop_counts _, rfl⟩
  | leave =>
      rw [BridgeLine.step]
      split
      · exact .inl rfl
      · exact .inr ⟨line, _, rfl, Bridge.stop_counts _, rfl⟩
  | abandon | release | post =>
      left
      rw [BridgeLine.step]
      split <;> rfl
  | letGo => exact .inl rfl

theorem Ledger.told (move : BridgeMove) {caller : BridgeTicket} {count : Nat}
    (told : .tellCount caller count ∈ line.effects move) :
    count = (line.step move).unresolved.length := by
  rw [← (ledger.step move).counted]
  rw [effects] at told
  rcases ledger.counts_step move with same | ⟨after, handled, trace, counts, performed⟩
  · rw [same, List.drop_length] at told
    cases told
  · rw [performed, perform, trace, List.drop_left] at told
    rw [performed]
    exact counts caller count told

theorem Ledger.unknown {command : HubCommand}
    (unknown : ∀ ticket ∈ line.unresolved, command.responseTo? (ticket + 1) = none) :
    line.bridge.hear command = (line.bridge, []) := by
  rcases line.bridge.hear_cases command with ⟨ticket, response, found, responds, _⟩ | ⟨_, ignored⟩
  · obtain ⟨number, waits⟩ := (ledger.waits_iff _ ticket).1 found
    have unanswered := unknown ticket waits
    rw [responds, if_pos number] at unanswered
    cases unanswered
  · exact ignored

end Counted

section Resolved
variable {line : BridgeLine}

theorem refused {taken : TakenCall} (next : line.next? false = some taken) :
    (line.step (.take false)).fate? line.taken.length = some (.error .shutdown) := by
  obtain ⟨func, args, rfl⟩ :
      ∃ func args, taken = ⟨func, args, line.heard.length, false⟩ := by
    rw [next?] at next
    split at next
    · rename_i func args _ _ _
      exact ⟨func, args, (Option.some.inj next).symm⟩
    · cases next
  have taken : (line.step (.take false)).taken =
      line.taken ++ [⟨func, args, line.heard.length, false⟩] := by
    rw [step, next]
    rfl
  rw [fate?, settled?_of_taken taken rfl, if_pos ⟨rfl, rfl⟩, Option.some_or]

theorem answered {ticket : BridgeTicket} {response : Response}
    (fate : line.fate? ticket = some (.ok response)) : response.id.toNat = ticket + 1 ∧
      ∃ taken, line.taken[ticket]? = some taken ∧
        (line.heard.drop taken.since).findSome? (·.responseTo? (ticket + 1)) = some response := by
  have settled : line.settled? ticket = some (.ok response) := by
    rw [fate?] at fate
    cases led : line.settled? ticket with
    | some result =>
        rw [led, Option.some_or] at fate
        exact fate
    | none =>
        rw [led, Option.none_or] at fate
        split at fate <;> cases fate
  obtain ⟨taken, found, led⟩ := Option.bind_eq_some_iff.1 settled
  rw [TakenCall.result?] at led
  split at led
  · obtain ⟨other, first, same⟩ := Option.map_eq_some_iff.1 led
    cases same
    obtain ⟨command, _, responds⟩ := List.exists_of_findSome?_eq_some first
    exact ⟨HubCommand.number_of_responseTo? responds, taken, found, first⟩
  · cases led

end Resolved

/-! ## Hearing what is left -/

section Hearing
variable {line : BridgeLine}

theorem heard_of_hear (unheld : line.isHeld = false)
    (still : (line.step .hear).bridge.isRunning = true) :
    line.heard.length + 1 ≤ (line.step .hear).heard.length := by
  rw [step] at still ⊢
  split at still
  · rename_i stopped
    cases stopped.symm.trans still
  · simp [perform, *]
  · simp [unheld] at still

theorem heard_of_running (unheld : line.isHeld = false)
    (more : List BridgeMove) (running : (more.foldl step line).bridge.isRunning = true) :
    line.heard.length + (more.filter BridgeMove.isHear).length ≤
      (more.foldl step line).heard.length := by
  induction more generalizing line with
  | nil => exact Nat.le_refl _
  | cons move rest ih =>
      have grows := step_grows line move
      have later := ih (grows.unheld unheld).1 running
      -- a bridge that stops stays so
      have still : (line.step move).bridge.isRunning = true := by
        by_contra stopped
        have stays := (grows_foldl (line.step move) rest).stopped (eq_false_of_ne_true stopped)
        cases running.symm.trans stays
      rw [List.filter_cons]
      split
      · rename_i hears
        have longer : line.heard.length + 1 ≤ (line.step move).heard.length := by
          cases move with
          | hear => exact heard_of_hear unheld still
          | _ => cases hears
        rw [List.length_cons, List.foldl_cons]
        omega
      · exact Nat.le_trans (Nat.add_le_add_right grows.heard.length_le _) later

theorem ends (unheld : line.isHeld = false) {more : List BridgeMove}
    (enough : line.inbox.length < (more.filter BridgeMove.isHear).length) :
    (more.foldl step line).bridge.isRunning = false := by
  by_contra running
  have hears := heard_of_running unheld more (eq_true_of_ne_false running)
  have same := congrArg List.length ((grows_foldl line more).unheld unheld).2
  rw [posted, posted, List.length_append, List.length_append] at same
  omega

end Hearing

/-! ## Over a run -/

/-- What every bridge does with the calls of its callers.  They go to the hub in the order in
which they were made, under the numbers from one on.  A caller is told once what its call has led
to: the first response to its number since the call was taken, or a failure when the call could
not be posted, or when the hub is gone and all that it had posted was heard. -/
structure Bridged (line : BridgeLine) : Prop where
  taken : line.taken.map TakenCall.call <+: line.calls
  sent : line.sent = line.taken.zipIdx.filterMap fun entry => entry.1.sent? (entry.2 + 1)
  numbered : line.calls.length < 2 ^ 64 →
    ∀ ticket < line.taken.length, (UInt64.ofNat (ticket + 1)).toNat = ticket + 1
  posted : ∀ move, (line.step move).posted =
    line.posted ++ if line.isHeld then move.posted?.toList else []
  results : ∀ ticket, line.results ticket = (line.fate? ticket).toList
  settled : ∀ move ticket result, line.fate? ticket = some result →
    (line.step move).fate? ticket = some result
  answered : ∀ ticket response, line.fate? ticket = some (.ok response) →
    response.id.toNat = ticket + 1 ∧
      ∃ taken, line.taken[ticket]? = some taken ∧
        (line.heard.drop taken.since).findSome? (·.responseTo? (ticket + 1)) = some response
  failed : ∀ ticket error, line.fate? ticket = some (.error error) → ticket ∉ line.abandoned →
    error = .shutdown ∧
      ((∃ taken, line.taken[ticket]? = some taken ∧ taken.posted = false) ∨ IsQuiet line)
  kept : ∀ ticket result, line.due? ticket = some result → ticket ∉ line.abandoned →
    line.fate? ticket = some result ∨
      line.fate? ticket = none ∧ line.bridge.isRunning = true
  refused : ∀ taken, line.next? false = some taken →
    (line.step (.take false)).fate? line.taken.length = some (.error .shutdown)
  ended : line.bridge.isRunning = false →
    ∀ ticket < line.calls.length, (line.fate? ticket).isSome
  ends : line.isHeld = false → ∀ more : List BridgeMove,
    line.inbox.length < (more.filter BridgeMove.isHear).length →
      (more.foldl step line).bridge.isRunning = false
  counted : line.bridge.pending.size = line.unresolved.length
  told : ∀ move caller count, .tellCount caller count ∈ line.effects move →
    count = (line.step move).unresolved.length
  unknown : ∀ command, (∀ ticket ∈ line.unresolved, command.responseTo? (ticket + 1) = none) →
    line.bridge.hear command = (line.bridge, [])

theorem run_bridged (moves : List BridgeMove) : Bridged (run moves) := by
  have ledger := run_ledger moves
  have patient := run_patient moves
  have short := ledger.taken_le
  exact {
    taken := ledger.taken
    sent := ledger.sent
    numbered := fun few ticket there => by
      refine UInt64.toNat_ofNat_of_lt (Nat.lt_of_le_of_lt ?_ few)
      omega
    posted := posted_step _
    results := ledger.results
    settled := fun move ticket result fate =>
      (step_grows _ move).fate ledger (ledger.step move) fate
    answered := fun ticket response => answered
    failed := fun ticket error => patient.failed
    kept := fun ticket result => patient.kept ledger
    refused := fun taken => refused
    ended := ended
    ends := fun unheld more enough => ends unheld enough
    counted := ledger.counted
    told := fun move caller count => ledger.told move
    unknown := fun command => ledger.unknown }

/-- The hub answers a call and lets go at once, while another call is on its way. -/
example :
    (run [.call "getTagsTree" [], .take true, .post (.answer 1 200 .null), .letGo,
      .call "getTagsTree" [], .take false, .hear, .hear]).trace =
      [.relay 1 "getTagsTree" [], .resolve 1 (.error .shutdown),
        .resolve 0 (.ok ⟨1, 200, .null⟩), .disconnect] := by
  rfl

end BridgeLine

end BookmarkHub
