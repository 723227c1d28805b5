import BookmarkHub.Connection.Step
import BookmarkHub.Proofs.Table

/-!
# What a connection has done

A trace lists the effects of a connection, oldest first.  The functions here
read single things off it: which requests were taken, numbered, written and
resolved, and which phases were entered.  A rule about a trace says of every
effect what must have come before it.
-/

set_option autoImplicit false

namespace BookmarkHub

abbrev Trace := List ConnectionEffect

/-- The effects of a connection, each with its time. -/
abbrev DatedTrace := List (Nat × ConnectionEffect)

/-- What a numbered request is known by on the wire: the socket, the number and
the request. -/
abbrev WireLine := Option Nat × Nat × Request

namespace ConnectionEffect

@[simp] def accepted? : ConnectionEffect → Option Queued
  | .accept queued => some queued
  | _ => none

@[simp] def numbering? : ConnectionEffect → Option Numbering
  | .number numbering => some numbering
  | _ => none

@[simp] def written? : ConnectionEffect → Option WireLine
  | .write socket id request => some (some socket, id, request)
  | _ => none

@[simp] def resolved? : ConnectionEffect → Option Ticket
  | .resolve ticket _ => some ticket
  | _ => none

def outcomeFor? (ticket : Ticket) : ConnectionEffect → Option Outcome
  | .resolve other outcome => if other = ticket then some outcome else none
  | _ => none

@[simp] def entered? : ConnectionEffect → Option Phase
  | .enter phase => some phase
  | _ => none

/-- An effect that concerns no request. -/
def IsSilent : ConnectionEffect → Prop
  | .dial | .enter _ | .receive _ _ | .notify _ | .hangUp _ => True
  | _ => False

/-- An effect outside the connection: a listener is told inside a call, or a caller
is told that the connection is closed. -/
def IsAside : ConnectionEffect → Prop
  | .notify _ | .resolve _ (.error .closed) | .tellCounts _ (.error .closed) => True
  | _ => False

/-- An effect that begins no attempt, and finds a socket for what it writes. -/
@[simp] def IsPlain : ConnectionEffect → Prop
  | .dial | .strand _ => False
  | _ => True

def isDial : ConnectionEffect → Bool
  | .dial => true
  | _ => false

end ConnectionEffect

def Numbering.line (numbering : Numbering) : WireLine :=
  (numbering.socket, numbering.id, numbering.request)

def Paced.line (socket : Option Nat) (paced : Paced) : WireLine :=
  (socket, paced.id, paced.request)

namespace Trace

def accepted (trace : Trace) : List Queued := trace.filterMap ConnectionEffect.accepted?

def numberings (trace : Trace) : List Numbering := trace.filterMap ConnectionEffect.numbering?

/-- The frames that were written, over all sockets. -/
def written (trace : Trace) : List WireLine := trace.filterMap ConnectionEffect.written?

def resolved (trace : Trace) : List Ticket := trace.filterMap ConnectionEffect.resolved?

def entered (trace : Trace) : List Phase := trace.filterMap ConnectionEffect.entered?

def dials (trace : Trace) : Nat := trace.countP ConnectionEffect.isDial

/-- The callers whose requests were taken and not resolved. -/
def unresolved (trace : Trace) : List Ticket :=
  (trace.accepted.map Queued.ticket).filter fun ticket => ticket ∉ trace.resolved

section Append
variable (effect : ConnectionEffect) (first second : Trace)

@[simp] theorem accepted_nil : accepted [] = [] := rfl

@[simp] theorem numberings_nil : numberings [] = [] := rfl

@[simp] theorem written_nil : written [] = [] := rfl

@[simp] theorem resolved_nil : resolved [] = [] := rfl

@[simp] theorem entered_nil : entered [] = [] := rfl

@[simp] theorem accepted_append : accepted (first ++ second) = accepted first ++ accepted second :=
  List.filterMap_append

@[simp] theorem numberings_append :
    numberings (first ++ second) = numberings first ++ numberings second :=
  List.filterMap_append

@[simp] theorem written_append : written (first ++ second) = written first ++ written second :=
  List.filterMap_append

@[simp] theorem resolved_append : resolved (first ++ second) = resolved first ++ resolved second :=
  List.filterMap_append

@[simp] theorem entered_append : entered (first ++ second) = entered first ++ entered second :=
  List.filterMap_append

theorem filterMap_cons_toList {Seen : Type} (view : ConnectionEffect → Option Seen) :
    (effect :: first).filterMap view = (view effect).toList ++ first.filterMap view := by
  cases seen : view effect <;> simp [seen]

@[simp] theorem accepted_cons :
    accepted (effect :: first) = effect.accepted?.toList ++ accepted first :=
  filterMap_cons_toList ..

@[simp] theorem numberings_cons :
    numberings (effect :: first) = effect.numbering?.toList ++ numberings first :=
  filterMap_cons_toList ..

@[simp] theorem written_cons :
    written (effect :: first) = effect.written?.toList ++ written first :=
  filterMap_cons_toList ..

@[simp] theorem resolved_cons :
    resolved (effect :: first) = effect.resolved?.toList ++ resolved first :=
  filterMap_cons_toList ..

@[simp] theorem entered_cons :
    entered (effect :: first) = effect.entered?.toList ++ entered first :=
  filterMap_cons_toList ..

end Append

theorem mem_written {trace : Trace} {line : WireLine} (member : line ∈ trace.written) :
    ∃ socket id request, .write socket id request ∈ trace ∧ line = (some socket, id, request) := by
  obtain ⟨effect, among, seen⟩ := List.mem_filterMap.1 member
  cases effect <;> cases seen
  exact ⟨_, _, _, among, rfl⟩

theorem written_of_mem {trace : Trace} {socket id : Nat} {request : Request}
    (member : .write socket id request ∈ trace) : (some socket, id, request) ∈ trace.written :=
  List.mem_filterMap.2 ⟨_, member, rfl⟩

section Told
variable {trace : Trace} {ticket : Ticket}

theorem resolve_of_told {outcome : Outcome}
    (told : trace.findSome? (·.outcomeFor? ticket) = some outcome) :
    .resolve ticket outcome ∈ trace := by
  obtain ⟨effect, member, seen⟩ := List.exists_of_findSome?_eq_some told
  cases effect with
  | resolve other result =>
      simp only [ConnectionEffect.outcomeFor?] at seen
      split at seen
      · rename_i same
        cases seen
        exact same ▸ member
      · cases seen
  | _ => cases seen

theorem resolved_iff : ticket ∈ trace.resolved ↔
    ∃ outcome, trace.findSome? (·.outcomeFor? ticket) = some outcome := by
  constructor
  · intro resolved
    obtain ⟨effect, member, seen⟩ := List.mem_filterMap.1 resolved
    refine Option.isSome_iff_exists.1 (List.findSome?_isSome_iff.2 ⟨effect, member, ?_⟩)
    cases effect <;> cases seen
    simp [ConnectionEffect.outcomeFor?]
  · rintro ⟨outcome, told⟩
    exact List.mem_filterMap.2 ⟨_, resolve_of_told told, rfl⟩

end Told

/-! ## Times -/

def dated (now : Nat) (trace : Trace) : DatedTrace := trace.map (now, ·)

theorem dated_append (now : Nat) (first second : Trace) :
    dated now (first ++ second) = dated now first ++ dated now second := List.map_append

theorem undated (now : Nat) (trace : Trace) : (dated now trace).map Prod.snd = trace := by
  simp [dated, Function.comp_def]

/-! ## Effects that concern no request -/

def Silent (trace : Trace) : Prop := ∀ effect ∈ trace, effect.IsSilent

section Silent
variable {trace : Trace}

theorem silent_nil : Silent [] := by simp [Silent]

theorem silent_singleton (effect : ConnectionEffect) (silent : effect.IsSilent) :
    Silent [effect] := by
  intro other member
  cases List.mem_singleton.1 member
  exact silent

theorem silent_append {first second : Trace} (before : first.Silent) (after : second.Silent) :
    Silent (first ++ second) := by
  intro effect member
  exact (List.mem_append.1 member).elim (before effect) (after effect)

theorem silent_hangUps (sockets : List Nat) : Silent (sockets.map .hangUp) := by
  intro effect member
  obtain ⟨socket, _, rfl⟩ := List.mem_map.1 member
  trivial

theorem silent_notifications (labels : List String) : Silent (labels.map .notify) := by
  intro effect member
  obtain ⟨label, _, rfl⟩ := List.mem_map.1 member
  trivial

@[simp] theorem entered_hangUps (sockets : List Nat) : entered (sockets.map .hangUp) = [] := by
  induction sockets with
  | nil => rfl
  | cons socket rest ih => simpa using ih

theorem filterMap_blind {Seen : Type} {kind : ConnectionEffect → Prop}
    (view : ConnectionEffect → Option Seen) (blind : ∀ effect, kind effect → view effect = none)
    (all : ∀ effect ∈ trace, kind effect) : trace.filterMap view = [] :=
  List.filterMap_eq_nil_iff.2 fun effect member => blind effect (all effect member)

theorem accepted_silent (silent : trace.Silent) : trace.accepted = [] :=
  filterMap_blind _ (fun effect h => by cases effect <;> first | rfl | exact h.elim) silent

theorem numberings_silent (silent : trace.Silent) : trace.numberings = [] :=
  filterMap_blind _ (fun effect h => by cases effect <;> first | rfl | exact h.elim) silent

theorem written_silent (silent : trace.Silent) : trace.written = [] :=
  filterMap_blind _ (fun effect h => by cases effect <;> first | rfl | exact h.elim) silent

theorem resolved_silent (silent : trace.Silent) : trace.resolved = [] :=
  filterMap_blind _ (fun effect h => by cases effect <;> first | rfl | exact h.elim) silent

end Silent

/-! ## Effects outside a connection -/

theorem aside_notifications (labels : List String) :
    ∀ effect ∈ labels.map ConnectionEffect.notify, effect.IsAside := by
  intro effect member
  obtain ⟨label, _, rfl⟩ := List.mem_map.1 member
  trivial

section Aside
variable {trace : Trace} (aside : ∀ effect ∈ trace, effect.IsAside)
include aside

theorem accepted_aside : trace.accepted = [] :=
  filterMap_blind _ (fun effect h => by cases effect <;> first | rfl | exact h.elim) aside

theorem numberings_aside : trace.numberings = [] :=
  filterMap_blind _ (fun effect h => by cases effect <;> first | rfl | exact h.elim) aside

theorem written_aside : trace.written = [] :=
  filterMap_blind _ (fun effect h => by cases effect <;> first | rfl | exact h.elim) aside

theorem entered_aside : trace.entered = [] :=
  filterMap_blind _ (fun effect h => by cases effect <;> first | rfl | exact h.elim) aside

theorem plain_of_aside : ∀ effect ∈ trace, effect.IsPlain := by
  intro effect member
  have outside := aside effect member
  cases effect <;> trivial

end Aside

/-! ## Rejections -/

def rejections (failure : Failure) (tickets : List Ticket) : Trace :=
  tickets.map fun ticket => .resolve ticket (.error failure)

section Rejections
variable (failure : Failure) (tickets : List Ticket)

theorem filterMap_rejections {Seen : Type} (view : ConnectionEffect → Option Seen)
    (blind : ∀ ticket, view (.resolve ticket (.error failure)) = none) :
    (rejections failure tickets).filterMap view = [] := by
  refine List.filterMap_eq_nil_iff.2 fun effect member => ?_
  obtain ⟨ticket, _, rfl⟩ := List.mem_map.1 member
  exact blind ticket

@[simp] theorem accepted_rejections : (rejections failure tickets).accepted = [] :=
  filterMap_rejections _ _ _ fun _ => rfl

@[simp] theorem numberings_rejections : (rejections failure tickets).numberings = [] :=
  filterMap_rejections _ _ _ fun _ => rfl

@[simp] theorem written_rejections : (rejections failure tickets).written = [] :=
  filterMap_rejections _ _ _ fun _ => rfl

@[simp] theorem entered_rejections : (rejections failure tickets).entered = [] :=
  filterMap_rejections _ _ _ fun _ => rfl

@[simp] theorem resolved_rejections : (rejections failure tickets).resolved = tickets := by
  induction tickets with
  | nil => rfl
  | cons ticket rest ih =>
      have head : resolved (rejections failure (ticket :: rest)) =
          ticket :: resolved (rejections failure rest) := rfl
      rw [head, ih]

end Rejections

/-! ## Rules -/

/-- Every effect of a trace obeys a rule about what came before it. -/
def Always (rule : Trace → ConnectionEffect → Prop) : Trace → Trace → Prop
  | _, [] => True
  | past, effect :: rest => rule past effect ∧ Always rule (past ++ [effect]) rest

section Always
variable {rule : Trace → ConnectionEffect → Prop}

theorem always_append (past first second : Trace) :
    Always rule past (first ++ second) ↔
      Always rule past first ∧ Always rule (past ++ first) second := by
  induction first generalizing past with
  | nil => simp [Always]
  | cons effect rest ih =>
      simp only [List.cons_append, Always, ih, and_assoc, List.append_assoc, List.nil_append]

theorem always_of_forall (past trace : Trace)
    (obeyed : ∀ before, ∀ effect ∈ trace, rule before effect) : Always rule past trace := by
  induction trace generalizing past with
  | nil => trivial
  | cons effect rest ih =>
      refine ⟨obeyed past effect (List.mem_cons_self ..), ?_⟩
      exact ih _ fun before other member => obeyed before other (List.mem_cons_of_mem _ member)

theorem always_split {before after trace : Trace} {effect : ConnectionEffect}
    (always : Always rule [] trace) (split : trace = before ++ effect :: after) :
    rule before effect := by
  rw [split, always_append] at always
  simpa [Always] using always.2.1

end Always

end Trace

end BookmarkHub
