import BookmarkHub.Proofs.Hub.Windows
import Mathlib.Algebra.Group.Nat.Defs

/-!
# A number has one holder

A number that the hub knows belongs to one bridge or to the surface of one page.
So it does not matter in which order the hub looks through its pages.  From the
opening of a page to its removal the page gets a link at most once, and keeps it.
-/

set_option autoImplicit false

namespace BookmarkHub

/-! ## Looking for a surface -/

/-- The page of the surface with a number, found in a list of pages. -/
def PageContext.keyAmong? (number : Nat) (contexts : List PageContext) : Option String :=
  (contexts.find? (·.hasLink number)).map PageContext.key

inductive Holder where
  | bridge
  | page (key : String)
  | nobody
  deriving DecidableEq

namespace Hub

def holderAmong (contexts : List PageContext) (number : Nat) (hub : Hub) : Holder :=
  if hub.bridges.contains number then .bridge
  else
    match PageContext.keyAmong? number contexts with
    | some key => .page key
    | none => .nobody

def holder (number : Nat) (hub : Hub) : Holder :=
  hub.holderAmong hub.registry.pages.values number

section Holder
variable (windowOpens : Bool) {hub : Hub} {number : Nat}

theorem keyForLink?_eq :
    hub.registry.keyForLink? number = PageContext.keyAmong? number hub.registry.pages.values := rfl

variable (hub number) in
theorem message_of_holder (command : SurfaceCommand) :
    message windowOpens number command hub =
      match hub.holder number with
      | .bridge => bridgeMessage windowOpens number command hub
      | .page key => pageMessage windowOpens key command hub
      | .nobody => { hub } := by
  unfold message holder holderAmong
  split
  · rfl
  · rw [keyForLink?_eq]
    cases PageContext.keyAmong? number hub.registry.pages.values <;> rfl

variable (hub number) in
theorem disconnect_of_holder :
    disconnect number hub =
      match hub.holder number with
      | .bridge => { hub := { hub with bridges := hub.bridges.erase number } }
      | .page key => { hub := { hub with registry := (hub.registry.remove key).2 } }
      | .nobody => { hub } := by
  unfold disconnect holder holderAmong
  split
  · rfl
  · rw [keyForLink?_eq]
    cases PageContext.keyAmong? number hub.registry.pages.values <;> rfl

variable (filed : Filed hub) (exclusive : Exclusive hub) {contexts : List PageContext}
  (listed : contexts.Perm hub.registry.pages.values)
include filed exclusive listed

theorem keyAmong?_eq_some_iff {key : String} :
    PageContext.keyAmong? number contexts = some key ↔ hub.registry.Attached key number := by
  -- what is found among the pages is the surface of its own key, and there is no other
  have attached_of_found {context : PageContext}
      (found : contexts.find? (·.hasLink number) = some context) :
      hub.registry.Attached context.key number := by
    have member := listed.subset (List.mem_of_find?_eq_some found)
    have linked := List.find?_some found
    obtain ⟨key, held⟩ := Table.find?_of_mem_values member
    have keyed : context.key = key := filed.registry.keys key context held
    cases link : context.link with
    | none => simp [PageContext.hasLink, link] at linked
    | some other =>
        refine ⟨context, other, ?_, link, by simpa [PageContext.hasLink, link] using linked⟩
        rw [keyed]
        exact held
  constructor
  · intro known
    obtain ⟨context, found, rfl⟩ := Option.map_eq_some_iff.1 known
    exact attached_of_found found
  · intro attached
    obtain ⟨context, member, linked⟩ := attached.hasLink
    have somebody : (contexts.find? (·.hasLink number)).isSome = true :=
      List.find?_isSome.2 ⟨context, listed.mem_iff.2 member, linked⟩
    obtain ⟨other, found⟩ := Option.isSome_iff_exists.1 somebody
    rw [PageContext.keyAmong?, found]
    exact congrArg some (exclusive.once number other.key key (attached_of_found found) attached)

/-- The order in which the pages are looked through does not matter. -/
theorem holderAmong_eq_holder : hub.holderAmong contexts number = hub.holder number := by
  have same : PageContext.keyAmong? number contexts =
      PageContext.keyAmong? number hub.registry.pages.values := by
    refine Option.ext fun key => ?_
    rw [keyAmong?_eq_some_iff filed exclusive listed,
      keyAmong?_eq_some_iff filed exclusive (List.Perm.refl _)]
  simp only [holder, holderAmong, same]

omit listed in
theorem holder_eq_page_iff {key : String} :
    hub.holder number = .page key ↔ hub.registry.Attached key number := by
  have found : PageContext.keyAmong? number hub.registry.pages.values = some key ↔
      hub.registry.Attached key number :=
    keyAmong?_eq_some_iff filed exclusive (List.Perm.refl _)
  rw [← found, holder, holderAmong]
  split
  · rename_i bridge
    refine iff_of_false (by simp) fun known => ?_
    rw [exclusive.apart number key (found.1 known)] at bridge
    cases bridge
  · cases PageContext.keyAmong? number hub.registry.pages.values <;> simp

omit filed exclusive listed in
theorem holder_eq_bridge_iff :
    hub.holder number = .bridge ↔ hub.bridges.contains number = true := by
  rw [holder, holderAmong]
  split
  · simp_all
  · split <;> simp_all

end Holder

end Hub

/-- Every number belongs to one bridge or to the surface of one page, whatever the order of the
pages.  The hub knows only numbers below the next one, and tells them apart as words.  The holder
decides what is done about a command, and about a surface that went away. -/
structure HubLoop.OneHolder (loop : HubLoop) : Prop where
  keyed : ∀ key context, loop.hub.registry.find? key = some context → context.key = key
  bridged : ∀ number link, loop.hub.bridges.find? number = some link → link.id = number
  once : ∀ number key other, loop.hub.registry.Attached key number →
    loop.hub.registry.Attached other number → key = other
  apart : ∀ number key, loop.hub.registry.Attached key number →
    loop.hub.bridges.contains number = false
  known : ∀ number, loop.hub.hears number = true → number < loop.newLink.1.id
  words : loop.links < 2 ^ 64 → ∀ number other, loop.hub.hears number = true →
    loop.hub.hears other = true → UInt64.ofNat number = UInt64.ofNat other → number = other
  order : ∀ contexts : List PageContext, contexts.Perm loop.hub.registry.pages.values →
    ∀ number, loop.hub.holderAmong contexts number = loop.hub.holder number
  pages : ∀ number key, loop.hub.holder number = .page key ↔
    loop.hub.registry.Attached key number
  bridges : ∀ number, loop.hub.holder number = .bridge ↔
    loop.hub.bridges.contains number = true
  routed : ∀ windowOpens number command, loop.hub.message windowOpens number command =
    match loop.hub.holder number with
    | .bridge => loop.hub.bridgeMessage windowOpens number command
    | .page key => loop.hub.pageMessage windowOpens key command
    | .nobody => { hub := loop.hub }
  forgotten : ∀ number, loop.hub.disconnect number =
    match loop.hub.holder number with
    | .bridge => { hub := { loop.hub with bridges := loop.hub.bridges.erase number } }
    | .page key => { hub := { loop.hub with registry := (loop.hub.registry.remove key).2 } }
    | .nobody => { hub := loop.hub }

theorem HubLoop.Owned.oneHolder {loop : HubLoop} (owned : loop.Owned) (filed : loop.Filed) :
    loop.OneHolder where
  keyed := filed.hub.registry.keys
  bridged := by
    intro number link found
    rw [filed.hub.bridges number link found]
    rfl
  once := owned.exclusive.once
  apart := owned.exclusive.apart
  known := fun number heard => Nat.lt_succ_of_le (owned.known number heard)
  words := by
    intro few number other heard alsoHeard same
    have below {given : Nat} (known : loop.hub.hears given = true) : given < UInt64.size :=
      Nat.lt_of_le_of_lt (owned.known given known) few
    have words := congrArg UInt64.toNat same
    rwa [UInt64.toNat_ofNat_of_lt' (below heard), UInt64.toNat_ofNat_of_lt' (below alsoHeard)]
      at words
  order := fun _ listed _ => Hub.holderAmong_eq_holder filed.hub owned.exclusive listed
  pages := fun _ _ => Hub.holder_eq_page_iff filed.hub owned.exclusive
  bridges := fun _ => Hub.holder_eq_bridge_iff
  routed := fun windowOpens number command =>
    Hub.message_of_holder windowOpens loop.hub number command
  forgotten := Hub.disconnect_of_holder loop.hub

/-! ## The link of a page -/

theorem HubEvent.Changes.link {windowOpens : Bool} {hub : Hub} {key : String} {event : HubEvent}
    {after : Option PageContext} (changes : event.Changes windowOpens hub key after)
    {context : PageContext} {link : Link} (held : hub.registry.find? key = some context)
    (linked : context.link = some link) (stays : ¬ event.Removes hub key) :
    ∃ later, after = some later ∧ later.link = some link := by
  cases changes with
  | same => exact ⟨context, held, linked⟩
  | opened page tab asked named absent =>
      rw [held] at absent
      cases absent
  | refocused page tab old asked named before =>
      rw [held] at before
      cases before
      exact ⟨_, rfl, linked⟩
  | connected other old connects before unlinked =>
      rw [held] at before
      cases before
      rw [linked] at unlinked
      cases unlinked
  | removed removes => exact absurd removes stays

namespace Switchboard

section Links
variable {options : ClientId → ConnectionOptions} {board : Switchboard} {key : String}

theorem step_changes (sound : Sound options board) (owned : board.loop.Owned) (move : HubMove)
    (key : String) :
    (board.step move).loop.hub.registry.find? key = board.loop.hub.registry.find? key ∨
    ∃ windowOpens event, move = .take windowOpens ∧ board.loop.next? = some event ∧
      event.Changes windowOpens board.loop.hub key
        ((board.step move).loop.hub.registry.find? key) := by
  rcases board.step_hub move with ⟨windowOpens, event, takes, next, taken⟩ | ⟨_, same⟩
  · rw [taken]
    exact Or.inr ⟨windowOpens, event, takes, next,
      Hub.event_changes windowOpens key sound.filed.hub owned.exclusive event⟩
  · rw [same]
    exact Or.inl rfl

theorem step_link (sound : Sound options board) (owned : board.loop.Owned) (move : HubMove)
    {context : PageContext} {link : Link}
    (held : board.loop.hub.registry.find? key = some context) (linked : context.link = some link)
    (stays : ¬ board.Removes key move) :
    ∃ later, (board.step move).loop.hub.registry.find? key = some later ∧
      later.link = some link := by
  rcases step_changes sound owned move key with same | ⟨windowOpens, event, rfl, next, changes⟩
  · exact ⟨context, same.trans held, linked⟩
  · exact changes.link held linked fun removes => stays ⟨windowOpens, event, rfl, next, removes⟩

/-- A page gets a link when its surface connects, and only if it has none. -/
theorem step_linked (sound : Sound options board) (owned : board.loop.Owned) (move : HubMove)
    {later : PageContext} {link : Link}
    (held : (board.step move).loop.hub.registry.find? key = some later)
    (linked : later.link = some link) :
    ∃ context, board.loop.hub.registry.find? key = some context ∧
      (context.link = some link ∨ context.link = none ∧ ∃ windowOpens,
        move = .take windowOpens ∧ board.loop.next? = some (.connectPage key link)) := by
  rcases step_changes sound owned move key with same | ⟨windowOpens, event, rfl, next, changes⟩
  · exact ⟨later, same.symm.trans held, Or.inl linked⟩
  · rw [held] at changes
    generalize result : some later = after at changes
    cases changes with
    | same => exact ⟨later, result.symm, Or.inl linked⟩
    | opened =>
        cases result
        cases linked
    | refocused page tab old asked named before =>
        cases result
        exact ⟨old, before, Or.inl linked⟩
    | connected other old connects before unlinked =>
        cases result
        cases linked
        rw [connects] at next
        exact ⟨old, before, Or.inr ⟨unlinked, windowOpens, rfl, next⟩⟩
    | removed => cases result

end Links

/-! ## Over a run -/

/-- Every number has one holder, and a page keeps its link as long as it is there.  It is opened
without a link, and gets one when its surface connects. -/
structure Allotted (options : ClientId → ConnectionOptions) (moves : List HubMove) : Prop
    extends (run options moves).loop.OneHolder where
  opened : ∀ key move, ¬ (run options moves).Contains key →
    ∀ context, (run options (moves ++ [move])).loop.hub.registry.find? key = some context →
      context.link = none
  attached : ∀ key move later link,
    (run options (moves ++ [move])).loop.hub.registry.find? key = some later →
    later.link = some link →
      ∃ context, (run options moves).loop.hub.registry.find? key = some context ∧
        (context.link = some link ∨ context.link = none ∧ ∃ windowOpens,
          move = .take windowOpens ∧
          (run options moves).loop.next? = some (.connectPage key link))
  kept : ∀ key context link, (run options moves).loop.hub.registry.find? key = some context →
    context.link = some link → ∀ more : List HubMove, Unremoved options key moves more →
      ∃ later, (run options (moves ++ more)).loop.hub.registry.find? key = some later ∧
        later.link = some link

section Run
variable (options : ClientId → ConnectionOptions) (moves : List HubMove)

variable {options moves} in
theorem link_kept {key : String} {context : PageContext} {link : Link}
    (held : (run options moves).loop.hub.registry.find? key = some context)
    (linked : context.link = some link) (more : List HubMove)
    (unremoved : Unremoved options key moves more) :
    ∃ later, (run options (moves ++ more)).loop.hub.registry.find? key = some later ∧
      later.link = some link := by
  induction more using List.reverseRecOn with
  | nil =>
      rw [List.append_nil]
      exact ⟨context, held, linked⟩
  | append_singleton between move ih =>
      obtain ⟨before, stays⟩ := unremoved_snoc.1 unremoved
      obtain ⟨amid, found, still⟩ := ih before
      rw [← List.append_assoc, run_snoc]
      exact step_link (run_sound options _) (run_owned options _) move found still stays

/-- In every run of a hub every number has one holder, and a page keeps its link. -/
theorem run_allotted : Allotted options moves where
  toOneHolder := (run_owned options moves).oneHolder (run_sound options moves).filed
  opened := by
    intro key move closed context held
    rw [run_snoc] at held
    cases linked : context.link with
    | none => rfl
    | some link =>
        obtain ⟨before, found, _⟩ :=
          step_linked (run_sound options moves) (run_owned options moves) move held linked
        exact absurd (contains_iff.2 ⟨before, found⟩) closed
  attached := by
    intro key move later link held linked
    rw [run_snoc] at held
    exact step_linked (run_sound options moves) (run_owned options moves) move held linked
  kept := fun _ _ _ held linked more unremoved => link_kept held linked more unremoved

end Run

end Switchboard

end BookmarkHub
