import BookmarkHub.Proofs.Hub.Isolation
import BookmarkHub.Proofs.Hub.Rejections
import Mathlib.Tactic.Tauto

/-!
# Callers that wait for their surfaces

A caller that connects a page waits until the hub has attached its surface, and
then looks and has it.  Before that it may stop waiting, and then nobody has the
surface.  A bridge needs no waiting.  Here every number that the hub gave out is
with somebody who has the surface or waits for it, or with nobody.
-/

set_option autoImplicit false

namespace BookmarkHub

/-- The surface that a caller is told to be connected. -/
def HubLoopEffect.landed? : HubLoopEffect → Option Nat
  | .answer (.connected link (.ok _)) => some link
  | _ => none

def HubEvent.teller? : HubEvent → Option Nat
  | .connectBridge link => some link.id
  | .message link _ | .disconnect link => some link
  | _ => none

/-- A running hub with the callers that connect pages.  A surface is unseen if its caller was
answered and has not looked, and forsaken if its caller stopped waiting. -/
structure Landing where
  loop : HubLoop := {}
  unseen : List Nat := []
  forsaken : List Nat := []

inductive LandingMove where
  | take (windowOpens : Bool)
  | ask (request : HubRequest)
  | connectPage (key : String)
  | connectBridge
  | receive (link : Nat)
  | giveUp (link : Nat)
  | sendMessage (link : Nat) (command : SurfaceCommand)
  | dropSurface (link : Nat)
  | tabFound (page : Page) (tab : Option Tab)
  | holdHandle
  | dropHandle

namespace Landing

/-- Somebody has the surface with a number. -/
def holds (state : Landing) (number : Nat) : Bool :=
  state.loop.surfaces.contains number && !state.unseen.contains number

/-- The hub is not told of a caller that stops waiting. -/
def giveUp (link : Nat) (state : Landing) : Landing :=
  if state.unseen.contains link then
    { loop := { state.loop with surfaces := state.loop.surfaces.erase link }
      unseen := state.unseen.erase link
      forsaken := state.forsaken ++ [link] }
  else if state.loop.connecting.contains link then
    { state with
      loop := state.loop.abandonConnect link
      forsaken := state.forsaken ++ [link] }
  else state

def step (state : Landing) : LandingMove → Landing
  | .take windowOpens =>
      let (loop, effects) := state.loop.take windowOpens
      { state with
        loop
        unseen := state.unseen ++ effects.filterMap HubLoopEffect.landed? }
  | .ask request => { state with loop := (state.loop.post request.event).1 }
  | .connectPage key => { state with loop := (state.loop.connectPage key).2.1 }
  | .connectBridge => { state with loop := (state.loop.connectBridge).2.2 }
  | .receive link => { state with unseen := state.unseen.erase link }
  | .giveUp link => state.giveUp link
  | .sendMessage link command =>
      if state.holds link then { state with loop := (state.loop.sendMessage link command).2 }
      else state
  | .dropSurface link =>
      if state.holds link then { state with loop := state.loop.dropSurface link } else state
  | .tabFound page tab => { state with loop := state.loop.tabFound page tab }
  | .holdHandle => { state with loop := { state.loop with handles := state.loop.handles + 1 } }
  | .dropHandle => { state with loop := { state.loop with handles := state.loop.handles - 1 } }

def run (moves : List LandingMove) : Landing := moves.foldl step {}

theorem run_snoc (moves : List LandingMove) (move : LandingMove) :
    run (moves ++ [move]) = (run moves).step move := by
  rw [run, List.foldl_append]
  rfl

def numbers (state : Landing) : List Nat :=
  state.loop.surfaces ++ (state.loop.connecting ++ state.forsaken)

/-- Nobody has the surface with a number, and nobody had it. -/
def Unlanded (state : Landing) (number : Nat) : Prop :=
  number ∈ state.loop.connecting ∨ number ∈ state.unseen ∨ number ∈ state.forsaken

end Landing

/-! ## What an event settles -/

namespace HubEvent

theorem landed?_of_rejection (event : HubEvent) {connecting : List Nat} {answer : HubAnswer}
    (rejected : event.rejection? connecting = some answer) :
    (HubLoopEffect.answer answer).landed? = none := by
  cases event with
  | connectPage key link =>
      simp only [rejection?] at rejected
      split at rejected
      · cases rejected
        rfl
      · cases rejected
  | closePage | listPages =>
      cases rejected
      rfl
  | _ => cases rejected

/-- Whoever will be connected is cared for, or is disconnected again. -/
def Cleared (cares : Nat → Prop) : List HubEvent → Prop
  | [] => True
  | event :: rest =>
      (∀ number, event.connecting? = some number → cares number ∨ .disconnect number ∈ rest) ∧
        Cleared cares rest

section Cleared
variable {cares later : Nat → Prop} {mailbox : List HubEvent}

theorem Cleared.mono (cleared : Cleared cares mailbox)
    (kept : ∀ event ∈ mailbox, ∀ number, event.connecting? = some number →
      cares number → later number) : Cleared later mailbox := by
  induction mailbox with
  | nil => trivial
  | cons event rest ih =>
      refine ⟨fun number connects => ?_, ih cleared.2 fun other member =>
        kept other (List.mem_cons_of_mem _ member)⟩
      exact (cleared.1 number connects).imp_left
        (kept event (List.mem_cons_self ..) number connects)

theorem Cleared.snoc (cleared : Cleared cares mailbox) {event : HubEvent}
    (kept : ∀ number, cares number → later number ∨ event = .disconnect number)
    (connects : ∀ number, event.connecting? = some number → later number) :
    Cleared later (mailbox ++ [event]) := by
  induction mailbox with
  | nil => exact ⟨fun number comes => .inl (connects number comes), trivial⟩
  | cons first rest ih =>
      refine ⟨fun number comes => ?_, ih cleared.2⟩
      rcases cleared.1 number comes with cared | leaves
      · refine (kept number cared).imp_right ?_
        rintro rfl
        exact List.mem_append_right _ (List.mem_singleton_self _)
      · exact .inr (List.mem_append_left _ leaves)

end Cleared

end HubEvent

theorem Hub.disconnect_unheard {hub : Hub} (filed : Hub.Filed hub) (exclusive : Hub.Exclusive hub)
    (number : Nat) : (Hub.disconnect number hub).hub.hears number = false := by
  have forgotten := Hub.disconnect_forgets number filed
  generalize Hub.disconnect number hub = handled at forgotten ⊢
  rw [← Bool.not_eq_true]
  intro heard
  cases forgotten with
  | nobody unheard =>
      rw [unheard] at heard
      cases heard
  | bridge known =>
      rcases Hub.hears_iff.1 heard with bridge | ⟨key, attached⟩
      · simp [Table.contains, Table.find?_erase] at bridge
      · rw [exclusive.apart number key attached] at known
        cases known
  | page key attached =>
      rcases Hub.hears_iff.1 heard with bridge | ⟨other, context, link, held, linked, same⟩
      · rw [exclusive.apart number key attached] at bridge
        cases bridge
      · rw [Registry.find?_remove] at held
        split at held
        · cases held
        · rename_i apart
          exact apart (exclusive.once number other key ⟨context, link, held, linked, same⟩ attached)

namespace HubLoop

section Handle
variable (windowOpens : Bool) (event : HubEvent) (loop : HubLoop)

def landed : List Nat := (handle windowOpens event loop).2.filterMap HubLoopEffect.landed?

theorem acts_landed (effects : List HubEffect) :
    (effects.map HubLoopEffect.act).filterMap HubLoopEffect.landed? = [] := by
  simp [List.filterMap_map, Function.comp_def, HubLoopEffect.landed?]

theorem settleConnect_eq (link : Nat) (result : Except HubError Unit) :
    (loop.settleConnect link result).1 = { loop with
      connecting := loop.connecting.erase link
      surfaces := loop.surfaces ++
        (loop.settleConnect link result).2.filterMap HubLoopEffect.landed? } := by
  unfold settleConnect
  split
  · cases result <;> simp [HubLoopEffect.landed?]
  · rename_i absent
    rw [List.erase_of_not_mem (by simpa using absent), List.filterMap_nil, List.append_nil]

theorem landed_connectPage (key : String) (link : Link) :
    landed windowOpens (.connectPage key link) loop =
      ((loop.handled (Hub.connectPage key link loop.hub)).1.settleConnect link.id
        (Hub.connectPage key link loop.hub).result).2.filterMap HubLoopEffect.landed? := by
  rw [landed, handle]
  simp only [List.filterMap_append]
  rw [handled, acts_landed, List.nil_append]

variable {event} in
theorem landed_of_other (other : ∀ key link, event ≠ .connectPage key link)
    (goesOn : event ≠ .shutdown) : landed windowOpens event loop = [] := by
  cases event with
  | connectPage key link => exact absurd rfl (other key link)
  | shutdown => exact absurd rfl goesOn
  | closePage => simp [landed, handle, handled, HubLoopEffect.landed?]
  | openForActiveTab | listPages => rfl
  | _ => exact acts_landed _

variable {event} in
theorem handle_eq (goesOn : event ≠ .shutdown) :
    (handle windowOpens event loop).1 = { loop with
      hub := (event.handled windowOpens loop.hub).hub
      connecting := event.release loop.connecting
      surfaces := loop.surfaces ++ landed windowOpens event loop } := by
  by_cases connects : ∃ key link, event = .connectPage key link
  · obtain ⟨key, link, rfl⟩ := connects
    rw [landed_connectPage]
    exact settleConnect_eq (loop.handled (Hub.connectPage key link loop.hub)).1 link.id _
  · have other : ∀ key link, event ≠ .connectPage key link :=
      fun key link same => connects ⟨key, link, same⟩
    rw [landed_of_other windowOpens loop other goesOn, List.append_nil]
    cases event with
    | connectPage key link => exact absurd rfl (other key link)
    | shutdown => exact absurd rfl goesOn
    | _ => rfl

/-- A caller is told that its surface is connected when it waits for that and the hub has
attached it. -/
theorem landed_cases (goesOn : event ≠ .shutdown) : (landed windowOpens event loop = [] ∧
      ∀ key link, event = .connectPage key link → link.id ∈ loop.connecting →
        (event.handled windowOpens loop.hub).hub = loop.hub) ∨
    ∃ key link, event = .connectPage key link ∧ link.id ∈ loop.connecting ∧
      landed windowOpens event loop = [link.id] := by
  by_cases connects : ∃ key link, event = .connectPage key link
  · obtain ⟨key, link, rfl⟩ := connects
    rw [landed_connectPage, HubEvent.handled]
    by_cases waits : link.id ∈ loop.connecting
    · unfold Hub.connectPage
      split
      · left
        refine ⟨?_, fun _ _ _ _ => rfl⟩
        simp [settleConnect, handled, waits, HubLoopEffect.landed?]
      · right
        refine ⟨key, link, rfl, waits, ?_⟩
        simp [settleConnect, handled, waits, HubLoopEffect.landed?]
    · left
      refine ⟨by simp [settleConnect, handled, waits], fun other given same among => ?_⟩
      cases same
      exact absurd among waits
  · left
    have other : ∀ key link, event ≠ .connectPage key link :=
      fun key link same => connects ⟨key, link, same⟩
    exact ⟨landed_of_other windowOpens loop other goesOn,
      fun key link same => absurd same (other key link)⟩

end Handle

end HubLoop

/-! ## Where every number is -/

theorem HubLoop.mailbox_of_next {loop : HubLoop} {event : HubEvent}
    (next : loop.next? = some event) (goesOn : event ≠ .shutdown) :
    loop.mailbox = event :: loop.mailbox.tail := by
  unfold HubLoop.next? at next
  split at next
  · rename_i mailbox
    cases next
    rw [mailbox, List.tail_cons]
  · split at next
    · cases next
    · cases next
      exact absurd rfl goesOn
  · cases next

theorem HubLoop.Filed.take {loop : HubLoop} (filed : loop.Filed) (windowOpens : Bool) :
    (loop.take windowOpens).1.Filed := by
  cases heard : loop.call? with
  | none => exact (HubLoop.take_quiet windowOpens filed heard).filed
  | some call =>
      obtain ⟨rest, next, _, taken⟩ := HubLoop.take_of_call windowOpens filed heard
      rw [taken]
      exact HubLoop.filed_rest filed next

namespace Landing

/-- Whoever the hub hears, or will hear, has a caller who is known, or leaves again. -/
structure Steady (state : Landing) : Prop where
  owned : state.loop.Owned
  filed : state.loop.Filed
  attends : state.loop.Attends
  distinct : state.numbers.Nodup
  given : ∀ number ∈ state.numbers, number ≤ state.loop.links
  tellers : ∀ event ∈ state.loop.mailbox, ∀ number, event.teller? = some number →
    number ≤ state.loop.links
  unseen : ∀ number ∈ state.unseen, number ∈ state.loop.surfaces
  once : state.unseen.Nodup
  bridges : ∀ number, state.Unlanded number →
    state.loop.hub.bridges.contains number = false
  silent : ∀ number, state.Unlanded number → ∀ event ∈ state.loop.mailbox,
    event.teller? ≠ some number
  heard : ∀ number, state.loop.hub.hears number = true →
    number ∈ state.numbers ∨ .disconnect number ∈ state.loop.mailbox
  coming : HubEvent.Cleared (· ∈ state.numbers) state.loop.mailbox
  ended : state.loop.isRunning = false → ∀ number, state.loop.hub.hears number = false

theorem steady_initial : Steady {} where
  owned := HubLoop.owned_initial
  filed := HubLoop.filed_initial
  attends := HubLoop.attends_initial
  distinct := List.nodup_nil
  given := by simp [numbers]
  tellers := by simp
  unseen := by simp
  once := List.nodup_nil
  bridges := by simp [Unlanded]
  silent := by simp
  heard := fun number heard => by cases heard
  coming := trivial
  ended := nofun

section Steady
variable {state : Landing}

theorem Steady.idle (steady : Steady state) {links handles : Nat} {unseen : List Nat}
    (counted : state.loop.links ≤ links) (seen : unseen.Sublist state.unseen) :
    Steady { state with loop := { state.loop with links, handles }, unseen } where
  owned := steady.owned.queues (HubLoop.queues_same rfl rfl counted)
  filed := ⟨steady.filed.hub, steady.filed.mailbox⟩
  attends := steady.attends.same rfl rfl rfl
  distinct := steady.distinct
  given := fun number member => Nat.le_trans (steady.given number member) counted
  tellers := fun event member number tells =>
    Nat.le_trans (steady.tellers event member number tells) counted
  unseen := fun number member => steady.unseen number (seen.subset member)
  once := seen.nodup steady.once
  bridges := fun number unlanded =>
    steady.bridges number (unlanded.imp_right (Or.imp_left fun notSeen => seen.subset notSeen))
  silent := fun number unlanded =>
    steady.silent number (unlanded.imp_right (Or.imp_left fun notSeen => seen.subset notSeen))
  heard := steady.heard
  coming := steady.coming
  ended := steady.ended

/-- The hub is told something, and who has surfaces and who waits changes with it. -/
def queue (event : HubEvent) (links : Nat) (surfaces connecting : List Nat) (state : Landing) :
    Landing :=
  { state with
    loop := { state.loop with
      mailbox := state.loop.mailbox ++ [event], links, surfaces, connecting } }

/-- What callers may do to a hub that runs. -/
structure Tells (state : Landing) (event : HubEvent) (links : Nat)
    (surfaces connecting : List Nat) : Prop where
  running : state.loop.isRunning = true
  given : event.IsGiven
  queues : state.loop.Queues (state.queue event links surfaces connecting).loop
  distinct : (state.queue event links surfaces connecting).numbers.Nodup
  counted : ∀ number ∈ (state.queue event links surfaces connecting).numbers, number ≤ links
  unseen : ∀ number ∈ state.unseen, number ∈ surfaces
  waits : ∀ number ∈ connecting, number ∈ state.loop.connecting ∨ state.loop.links < number ∧
    ∃ key link, event = .connectPage key link ∧ link.id = number
  connects : ∀ number, event.connecting? = some number →
    number ∈ (state.queue event links surfaces connecting).numbers
  kept : ∀ number ∈ state.numbers,
    number ∈ (state.queue event links surfaces connecting).numbers ∨ event = .disconnect number
  tells : ∀ number, event.teller? = some number → number ≤ links ∧
    ¬ (state.queue event links surfaces connecting).Unlanded number

theorem Steady.queue (steady : Steady state) {event : HubEvent} {links : Nat}
    {surfaces connecting : List Nat} (tells : Tells state event links surfaces connecting) :
    Steady (state.queue event links surfaces connecting) := by
  have counted : state.loop.links ≤ links := tells.queues.links
  -- whoever has no surface had none before, or has a number above all others
  have before {number : Nat}
      (unlanded : (state.queue event links surfaces connecting).Unlanded number) :
      state.Unlanded number ∨ state.loop.links < number := by
    rcases unlanded with waits | others
    · rcases tells.waits number waits with waited | ⟨new, _⟩
      · exact .inl (.inl waited)
      · exact .inr new
    · exact .inl (.inr others)
  refine ⟨steady.owned.queues tells.queues, ⟨steady.filed.hub, ?_⟩, ⟨?_, ?_, ?_⟩, tells.distinct,
    tells.counted, ?_, tells.unseen, steady.once, ?_, ?_, ?_, ?_, ?_⟩
  · intro other member
    rcases List.mem_append.1 member with earlier | last
    · exact steady.filed.mailbox other earlier
    · cases List.mem_singleton.1 last
      exact tells.given
  · intro number member
    rcases tells.waits number member with waited | ⟨_, key, link, rfl, same⟩
    · obtain ⟨key, link, waiting, same⟩ := steady.attends.waits number waited
      exact ⟨key, link, List.mem_append_left _ waiting, same⟩
    · exact ⟨key, link, List.mem_append_right _ (List.mem_singleton_self _), same⟩
  · exact ((List.sublist_append_left _ _).trans (List.sublist_append_right _ _)).nodup
      tells.distinct
  · intro stopped
    exact absurd (stopped.symm.trans tells.running) (by simp)
  · intro other member number told
    rcases List.mem_append.1 member with earlier | last
    · exact Nat.le_trans (steady.tellers other earlier number told) counted
    · cases List.mem_singleton.1 last
      exact (tells.tells number told).1
  · intro number unlanded
    rcases before unlanded with was | new
    · exact steady.bridges number was
    · rw [← Bool.not_eq_true]
      intro bridge
      exact absurd (steady.owned.known number (Hub.hears_iff.2 (.inl bridge))) (Nat.not_le.2 new)
  · intro number unlanded other member told
    rcases List.mem_append.1 member with earlier | last
    · rcases before unlanded with was | new
      · exact steady.silent number was other earlier told
      · exact absurd (steady.tellers other earlier number told) (Nat.not_le.2 new)
    · cases List.mem_singleton.1 last
      exact (tells.tells number told).2 unlanded
  · intro number heard
    rcases steady.heard number heard with known | leaves
    · refine (tells.kept number known).imp_right ?_
      rintro rfl
      exact List.mem_append_right _ (List.mem_singleton_self _)
    · exact .inr (List.mem_append_left _ leaves)
  · exact steady.coming.snoc tells.kept tells.connects
  · intro stopped
    exact absurd (stopped.symm.trans tells.running) (by simp)

/-! ## What callers do -/

theorem holds_iff {number : Nat} : state.holds number = true ↔
    number ∈ state.loop.surfaces ∧ number ∉ state.unseen := by
  simp [holds]

theorem Steady.landed (steady : Steady state) {number : Nat} (held : state.holds number = true) :
    ¬ state.Unlanded number := by
  obtain ⟨has, seen⟩ := holds_iff.1 held
  have apart := (List.nodup_append.1 steady.distinct).2.2 number has number
  rintro (waits | notSeen | forsaken)
  · exact apart (List.mem_append_left _ waits) rfl
  · exact seen notSeen
  · exact apart (List.mem_append_right _ forsaken) rfl

theorem Steady.dropped (steady : Steady state) {link : Nat} (held : state.holds link = true) :
    ∀ number ∈ state.unseen, number ∈ state.loop.surfaces.erase link := by
  intro number unseen
  refine (List.mem_erase_of_ne ?_).2 (steady.unseen number unseen)
  rintro rfl
  exact (holds_iff.1 held).2 unseen

theorem Steady.fresh (steady : Steady state) {before after : List Nat}
    (split : state.numbers = before ++ after) :
    (before ++ (state.loop.links + 1) :: after).Nodup ∧
      ∀ number ∈ before ++ (state.loop.links + 1) :: after, number ≤ state.loop.links + 1 := by
  have moved : (before ++ (state.loop.links + 1) :: after).Perm
      ((state.loop.links + 1) :: state.numbers) := by
    rw [split]
    exact List.perm_middle
  constructor
  · rw [moved.nodup_iff, List.nodup_cons]
    exact ⟨fun given => absurd (steady.given _ given) (by omega), steady.distinct⟩
  · intro number member
    rcases List.mem_cons.1 (moved.mem_iff.1 member) with rfl | given
    · exact Nat.le_refl _
    · exact Nat.le_succ_of_le (steady.given number given)

section Running
variable (steady : Steady state) (running : state.loop.isRunning = true)
include steady running

theorem Steady.tells_post {event : HubEvent} (given : event.IsGiven)
    (nobody : event.connecting? = none)
    (holder : ∀ number, event.teller? = some number → state.holds number = true) :
    Tells state event state.loop.links state.loop.surfaces state.loop.connecting where
  running := running
  given := given
  queues := ⟨rfl, Nat.le_refl _, .inl (by simp [HubLoop.awaited, Landing.queue, nobody])⟩
  distinct := steady.distinct
  counted := steady.given
  unseen := steady.unseen
  waits := fun _ waited => .inl waited
  connects := by simp [nobody]
  kept := fun _ known => .inl known
  tells := fun number told => ⟨steady.given number
    (List.mem_append_left _ (holds_iff.1 (holder number told)).1),
    steady.landed (holder number told)⟩

theorem Steady.tells_drop {link : Nat} (held : state.holds link = true) :
    Tells state (.disconnect link) state.loop.links (state.loop.surfaces.erase link)
      state.loop.connecting := by
  have fewer : (state.queue (.disconnect link) state.loop.links (state.loop.surfaces.erase link)
      state.loop.connecting).numbers.Sublist state.numbers :=
    List.erase_sublist.append (List.Sublist.refl _)
  refine ⟨running, trivial, ⟨rfl, Nat.le_refl _, .inl ?_⟩, fewer.nodup steady.distinct,
    fun number member => steady.given number (fewer.subset member), steady.dropped held,
    fun _ waited => .inl waited, nofun, ?_, ?_⟩
  · simp [HubLoop.awaited, Landing.queue, HubEvent.connecting?]
  · intro number known
    by_cases same : number = link
    · exact .inr (by rw [same])
    · left
      rcases List.mem_append.1 known with has | others
      · exact List.mem_append_left _ ((List.mem_erase_of_ne same).2 has)
      · exact List.mem_append_right _ others
  · rintro number ⟨⟩
    exact ⟨steady.given link (List.mem_append_left _ (holds_iff.1 held).1), steady.landed held⟩

theorem Steady.tells_connectPage (key : String) :
    Tells state (.connectPage key ⟨state.loop.links + 1, state.loop.links⟩)
      (state.loop.links + 1) state.loop.surfaces
      (state.loop.connecting ++ [state.loop.links + 1]) := by
  have numbers : (state.queue (.connectPage key ⟨state.loop.links + 1, state.loop.links⟩)
      (state.loop.links + 1) state.loop.surfaces
      (state.loop.connecting ++ [state.loop.links + 1])).numbers =
      (state.loop.surfaces ++ state.loop.connecting) ++
        (state.loop.links + 1) :: state.forsaken := by
    simp [Landing.numbers, Landing.queue]
  obtain ⟨distinct, counted⟩ := steady.fresh (List.append_assoc ..).symm
  refine ⟨running, rfl, ⟨rfl, Nat.le_succ _, .inr ⟨?_, rfl⟩⟩, by rwa [numbers],
    by rwa [numbers], steady.unseen, ?_, ?_, ?_, nofun⟩
  · simp [HubLoop.awaited, Landing.queue, HubEvent.connecting?]
  · intro number member
    rcases List.mem_append.1 member with waited | new
    · exact .inl waited
    · cases List.mem_singleton.1 new
      exact .inr ⟨Nat.lt_succ_self _, key, _, rfl, rfl⟩
  · rintro number ⟨⟩
    rw [numbers]
    simp
  · intro number known
    left
    rw [numbers]
    rw [Landing.numbers] at known
    simp only [List.mem_append, List.mem_cons] at known ⊢
    tauto

theorem Steady.tells_connectBridge :
    Tells state (.connectBridge ⟨state.loop.links + 1, state.loop.links⟩)
      (state.loop.links + 1) (state.loop.surfaces ++ [state.loop.links + 1])
      state.loop.connecting := by
  have numbers : (state.queue (.connectBridge ⟨state.loop.links + 1, state.loop.links⟩)
      (state.loop.links + 1) (state.loop.surfaces ++ [state.loop.links + 1])
      state.loop.connecting).numbers =
      state.loop.surfaces ++
        (state.loop.links + 1) :: (state.loop.connecting ++ state.forsaken) := by
    simp [Landing.numbers, Landing.queue]
  obtain ⟨distinct, counted⟩ := steady.fresh
    (rfl : state.numbers = state.loop.surfaces ++ (state.loop.connecting ++ state.forsaken))
  refine ⟨running, rfl, ⟨rfl, Nat.le_succ _, .inr ⟨?_, rfl⟩⟩, by rwa [numbers],
    by rwa [numbers], fun number unseen => List.mem_append_left _ (steady.unseen number unseen),
    fun _ waited => .inl waited, ?_, ?_, ?_⟩
  · simp [HubLoop.awaited, Landing.queue, HubEvent.connecting?]
  · rintro number ⟨⟩
    rw [numbers]
    simp
  · intro number known
    left
    rw [numbers]
    rw [Landing.numbers] at known
    simp only [List.mem_append, List.mem_cons] at known ⊢
    tauto
  · rintro number ⟨⟩
    refine ⟨Nat.le_refl _, fun unlanded => ?_⟩
    have known : state.loop.links + 1 ∈ state.numbers := by
      rcases unlanded with waits | unseen | forsaken
      · exact List.mem_append_right _ (List.mem_append_left _ waits)
      · exact List.mem_append_left _ (steady.unseen _ unseen)
      · exact List.mem_append_right _ (List.mem_append_right _ forsaken)
    exact absurd (steady.given _ known) (by omega)

end Running

theorem Steady.pass (steady : Steady state) {surfaces connecting unseen forsaken : List Nat}
    (same : (surfaces ++ (connecting ++ forsaken)).Perm state.numbers)
    (fewer : connecting ⊆ state.loop.connecting) (once : unseen.Nodup)
    (answered : ∀ number ∈ unseen, number ∈ surfaces)
    (unlanded : ∀ number, number ∈ connecting ∨ number ∈ unseen ∨ number ∈ forsaken →
      state.Unlanded number) :
    Steady { loop := { state.loop with surfaces, connecting }, unseen, forsaken } where
  owned := steady.owned.queues (HubLoop.queues_same rfl rfl (Nat.le_refl _))
  filed := ⟨steady.filed.hub, steady.filed.mailbox⟩
  attends := ⟨fun number member => steady.attends.waits number (fewer member),
    ((List.sublist_append_left _ _).trans (List.sublist_append_right _ _)).nodup
      (same.nodup_iff.2 steady.distinct), steady.attends.stopped⟩
  distinct := same.nodup_iff.2 steady.distinct
  given := fun number member => steady.given number (same.mem_iff.1 member)
  tellers := steady.tellers
  unseen := answered
  once := once
  bridges := fun number waits => steady.bridges number (unlanded number waits)
  silent := fun number waits => steady.silent number (unlanded number waits)
  heard := fun number heard => (steady.heard number heard).imp_left same.mem_iff.2
  coming := steady.coming.mono fun _ _ _ _ known => same.mem_iff.2 known
  ended := steady.ended

theorem Steady.giveUp (steady : Steady state) (link : Nat) : Steady (state.giveUp link) := by
  unfold Landing.giveUp
  split
  · rename_i unseen
    have notSeen : link ∈ state.unseen := by simpa using unseen
    have has := steady.unseen link notSeen
    refine steady.pass ?_ (List.Subset.refl _) (steady.once.erase link) ?_ ?_
    · -- the number moves from the surfaces to those that are forsaken
      rw [← List.append_assoc, ← List.append_assoc, List.append_assoc _ state.loop.connecting]
      refine List.perm_append_singleton link _ |>.trans ?_
      exact (List.perm_cons_erase has).symm.append_right _
    · intro number member
      obtain ⟨apart, among⟩ := steady.once.mem_erase_iff.1 member
      exact (List.mem_erase_of_ne apart).2 (steady.unseen number among)
    · rintro number (waits | among | forsaken)
      · exact .inl waits
      · exact .inr (.inl (List.mem_of_mem_erase among))
      · rcases List.mem_append.1 forsaken with earlier | last
        · exact .inr (.inr earlier)
        · cases List.mem_singleton.1 last
          exact .inr (.inl notSeen)
  · split
    · rename_i waiting
      have waits : link ∈ state.loop.connecting := by simpa using waiting
      refine steady.pass ?_ (List.erase_subset) steady.once steady.unseen ?_
      · refine List.Perm.append_left _ ?_
        rw [← List.append_assoc]
        refine (List.perm_append_singleton link _).trans ?_
        exact (List.perm_cons_erase waits).symm.append_right _
      · rintro number (others | among | forsaken)
        · exact .inl (List.mem_of_mem_erase others)
        · exact .inr (.inl among)
        · rcases List.mem_append.1 forsaken with earlier | last
          · exact .inr (.inr earlier)
          · cases List.mem_singleton.1 last
            exact .inl waits
    · exact steady

end Steady

end Landing

end BookmarkHub
