import BookmarkHub.Proofs.Hub.Filing
import Mathlib.Data.Finmap
import Mathlib.Data.String.Basic

/-!
# The registry as a finite map

Whatever is asked of a registry, it holds the finite map from keys to links and
tabs that the requests define.  A page is created once; a link is attached once,
and stays until its page is removed; what is refused changes nothing.  What is
told of the pages is each page once, in the order of the keys, in whatever order
the pages were listed before.
-/

set_option autoImplicit false

namespace BookmarkHub

/-! ## Requests and answers -/

inductive RegistryAction where
  | create (key : String) (tab : Option Tab)
  | attach (key : String) (link : Link)
  | setTab (key : String) (tab : Option Tab)
  | remove (key : String)
  | drain

/-- An action that takes the context of a page away. -/
def RegistryAction.Removes (key : String) : RegistryAction → Prop
  | .remove removed => removed = key
  | .drain => True
  | _ => False

inductive RegistryAnswer where
  | created (isNew : Bool)
  | attached (outcome : Except AttachError PageContext)
  | tabSet (isOpen : Bool)
  | removed (context : Option PageContext)
  | drained (contexts : List PageContext)

def PageContext.info (context : PageContext) : PageInfo :=
  ⟨context.key, context.link.isSome, context.tab⟩

namespace Registry

def perform (registry : Registry) : RegistryAction → RegistryAnswer × Registry
  | .create key tab =>
      (.created (registry.create key tab).1, (registry.create key tab).2)
  | .attach key link =>
      match registry.attach key link with
      | .ok (context, next) => (.attached (.ok context), next)
      | .error error => (.attached (.error error), registry)
  | .setTab key tab =>
      (.tabSet (registry.setTab key tab).1, (registry.setTab key tab).2)
  | .remove key => (.removed (registry.remove key).1, (registry.remove key).2)
  | .drain => (.drained registry.drain.1, registry.drain.2)

def after (registry : Registry) (actions : List RegistryAction) : Registry :=
  actions.foldl (fun registry action => (registry.perform action).2) registry

end Registry

/-! ## Rosters -/

/-- The link and the tab of every open page, under its key. -/
abbrev Roster := Finmap fun _ : String => Option Link × Option Tab

namespace Roster

def context? (roster : Roster) (key : String) : Option PageContext :=
  (roster.lookup key).map fun entry => ⟨key, entry.1, entry.2⟩

def contexts (roster : Roster) : Multiset PageContext :=
  roster.entries.map fun entry => ⟨entry.1, entry.2.1, entry.2.2⟩

def Bears (roster : Roster) (key : String) (id : Nat) : Prop :=
  ∃ link tab, roster.lookup key = some (some link, tab) ∧ link.id = id

def next (roster : Roster) : RegistryAction → Roster
  | .create key tab => if key ∈ roster then roster else roster.insert key (none, tab)
  | .attach key link =>
      match roster.lookup key with
      | some (none, tab) => roster.insert key (some link, tab)
      | _ => roster
  | .setTab key tab =>
      match roster.lookup key with
      | some (link, _) => roster.insert key (link, tab)
      | none => roster
  | .remove key => roster.erase key
  | .drain => ∅

def after (roster : Roster) (actions : List RegistryAction) : Roster :=
  actions.foldl next roster

/-- What an action is to be answered.  Drained pages may come in any order. -/
inductive Answers (roster : Roster) : RegistryAction → RegistryAnswer → Prop where
  | created (key : String) (tab : Option Tab) (absent : key ∉ roster) :
      Answers roster (.create key tab) (.created true)
  | alreadyCreated (key : String) (tab : Option Tab) (present : key ∈ roster) :
      Answers roster (.create key tab) (.created false)
  | attached (key : String) (link : Link) (tab : Option Tab)
      (unlinked : roster.lookup key = some (none, tab)) :
      Answers roster (.attach key link) (.attached (.ok ⟨key, some link, tab⟩))
  | notOpened (key : String) (link : Link) (absent : key ∉ roster) :
      Answers roster (.attach key link) (.attached (.error .notOpened))
  | alreadyAttached (key : String) (link held : Link) (tab : Option Tab)
      (linked : roster.lookup key = some (some held, tab)) :
      Answers roster (.attach key link) (.attached (.error (.alreadyAttached held.id)))
  | tabSet (key : String) (tab : Option Tab) (present : key ∈ roster) :
      Answers roster (.setTab key tab) (.tabSet true)
  | tabIgnored (key : String) (tab : Option Tab) (absent : key ∉ roster) :
      Answers roster (.setTab key tab) (.tabSet false)
  | removed (key : String) : Answers roster (.remove key) (.removed (roster.context? key))
  | drained (listing : List PageContext)
      (complete : (listing : Multiset PageContext) = roster.contexts) :
      Answers roster .drain (.drained listing)

section Contexts
variable {roster : Roster}

theorem context?_eq_some {key : String} {context : PageContext} :
    roster.context? key = some context ↔
      context.key = key ∧ roster.lookup key = some (context.link, context.tab) := by
  rw [context?, Option.map_eq_some_iff]
  constructor
  · rintro ⟨entry, found, rfl⟩
    exact ⟨rfl, found⟩
  · rintro ⟨rfl, found⟩
    exact ⟨(context.link, context.tab), found, rfl⟩

theorem context?_insert (context : PageContext) (other : String) :
    context? (roster.insert context.key (context.link, context.tab)) other =
      if other = context.key then some context else roster.context? other := by
  by_cases same : other = context.key
  · subst same
    rw [context?, Finmap.lookup_insert, if_pos rfl]
    rfl
  · rw [context?, Finmap.lookup_insert_of_ne _ same, if_neg same]
    rfl

theorem context?_erase (removed other : String) : context? (roster.erase removed) other =
    if other = removed then none else roster.context? other := by
  by_cases same : other = removed
  · subst same
    rw [context?, Finmap.lookup_erase, if_pos rfl]
    rfl
  · rw [context?, Finmap.lookup_erase_ne same, if_neg same]
    rfl

theorem mem_contexts {context : PageContext} :
    context ∈ roster.contexts ↔ roster.context? context.key = some context := by
  rw [context?_eq_some, contexts, Multiset.mem_map]
  constructor
  · rintro ⟨⟨key, link, tab⟩, member, rfl⟩
    exact ⟨rfl, Finmap.lookup_eq_some_iff.2 member⟩
  · rintro ⟨-, found⟩
    exact ⟨⟨context.key, context.link, context.tab⟩, Finmap.lookup_eq_some_iff.1 found, rfl⟩

theorem contexts_nodup (roster : Roster) : roster.contexts.Nodup := by
  refine roster.nodup_entries.map ?_
  rintro ⟨key, link, tab⟩ ⟨other, held, given⟩ same
  cases same
  rfl

end Contexts

/-! ### Links are attached once -/

section Once
variable {roster : Roster} {key : String} {link : Link} {tab : Option Tab}

theorem next_linked (linked : roster.lookup key = some (some link, tab)) {action : RegistryAction}
    (unremoved : ¬ action.Removes key) :
    ∃ tab, (roster.next action).lookup key = some (some link, tab) := by
  have present : key ∈ roster := Finmap.mem_of_lookup_eq_some linked
  cases action with
  | create other given =>
      by_cases known : other ∈ roster
      · rw [next, if_pos known]
        exact ⟨tab, linked⟩
      · have apart : key ≠ other := by
          intro same
          exact known (same ▸ present)
        rw [next, if_neg known, Finmap.lookup_insert_of_ne _ apart]
        exact ⟨tab, linked⟩
  | attach other offered =>
      simp only [next]
      split
      · rename_i given unlinked
        -- The page itself is none of those that a link can still be attached to.
        have apart : key ≠ other := by
          intro same
          subst same
          rw [linked] at unlinked
          cases unlinked
        rw [Finmap.lookup_insert_of_ne _ apart]
        exact ⟨tab, linked⟩
      · exact ⟨tab, linked⟩
  | setTab other given =>
      simp only [next]
      split
      · rename_i held before found
        by_cases same : key = other
        · subst same
          rw [linked] at found
          cases found
          exact ⟨given, Finmap.lookup_insert _⟩
        · rw [Finmap.lookup_insert_of_ne _ same]
          exact ⟨tab, linked⟩
      · exact ⟨tab, linked⟩
  | remove other =>
      have apart : key ≠ other := fun same => unremoved same.symm
      rw [next, Finmap.lookup_erase_ne apart]
      exact ⟨tab, linked⟩
  | drain => exact absurd trivial unremoved

theorem after_linked (linked : roster.lookup key = some (some link, tab))
    {later : List RegistryAction} (unremoved : ∀ action ∈ later, ¬ action.Removes key) :
    ∃ tab, (roster.after later).lookup key = some (some link, tab) := by
  induction later generalizing roster tab with
  | nil => exact ⟨tab, linked⟩
  | cons action rest ih =>
      obtain ⟨unremovedNow, unremovedThen⟩ := List.forall_mem_cons.1 unremoved
      obtain ⟨given, still⟩ := next_linked linked unremovedNow
      exact ih still unremovedThen

end Once

end Roster

/-! ## What a registry depicts -/

namespace Registry

section Requests
variable {registry : Registry} {key : String}

theorem perform_create_of_present (present : registry.contains key = true) (tab : Option Tab) :
    registry.perform (.create key tab) = (.created false, registry) := by
  simp [perform, create, present]

theorem attach_of_absent (absent : registry.find? key = none) (link : Link) :
    registry.attach key link = .error .notOpened := by
  simp [attach, absent]

theorem attach_of_linked {context : PageContext} {held : Link}
    (found : registry.find? key = some context) (linked : context.link = some held)
    (link : Link) : registry.attach key link = .error (.alreadyAttached held.id) := by
  simp [attach, found, linked]

theorem attach_of_unlinked {context : PageContext} (found : registry.find? key = some context)
    (unlinked : context.link = none) (link : Link) :
    registry.attach key link = .ok ({ context with link := some link },
      registry.put { context with link := some link }) := by
  simp [attach, found, unlinked]

theorem setTab_of_absent (absent : registry.find? key = none) (tab : Option Tab) :
    registry.setTab key tab = (false, registry) := by
  simp [setTab, absent]

theorem setTab_of_found {context : PageContext} (found : registry.find? key = some context)
    (tab : Option Tab) :
    registry.setTab key tab = (true, registry.put { context with tab := tab }) := by
  simp [setTab, found]

theorem perform_attach_of_refused {link : Link} {error : AttachError}
    (refused : registry.attach key link = .error error) :
    registry.perform (.attach key link) = (.attached (.error error), registry) := by
  simp [perform, refused]

theorem attach_succeeds_iff (link : Link) :
    (∃ context next, registry.attach key link = .ok (context, next)) ↔
      ∃ context, registry.find? key = some context ∧ context.link = none := by
  constructor
  · rintro ⟨attached, next, succeeded⟩
    cases found : registry.find? key with
    | none =>
        rw [attach_of_absent found] at succeeded
        cases succeeded
    | some context =>
        cases linked : context.link with
        | none => exact ⟨context, rfl, linked⟩
        | some held =>
            rw [attach_of_linked found linked] at succeeded
            cases succeeded
  · rintro ⟨context, found, unlinked⟩
    exact ⟨_, _, attach_of_unlinked found unlinked link⟩

end Requests

theorem pairwise_sorted (pages : List PageInfo) :
    (pages.mergeSort fun first second => first.key ≤ second.key).Pairwise
      fun first second => first.key ≤ second.key := by
  have sorted : (pages.mergeSort fun first second => first.key ≤ second.key).Pairwise
      fun first second => decide (first.key ≤ second.key) = true := by
    apply List.pairwise_mergeSort
    · intro first second third below above
      exact decide_eq_true ((of_decide_eq_true below).trans (of_decide_eq_true above))
    · intro first second
      simpa using le_total first.key second.key
  exact sorted.imp of_decide_eq_true

/-- A registry has exactly the pages of a roster, each in a context that repeats its key. -/
def Depicts (registry : Registry) (roster : Roster) : Prop :=
  ∀ key, registry.find? key = roster.context? key

theorem depicts_empty : Depicts {} ∅ := fun _ => rfl

section Depicts
variable {registry : Registry} {roster : Roster} (depicts : registry.Depicts roster)
include depicts

theorem Depicts.put (context : PageContext) :
    (registry.put context).Depicts
      (roster.insert context.key (context.link, context.tab)) := by
  intro key
  rw [find?_put, Roster.context?_insert, depicts key]

theorem Depicts.remove (key : String) : (registry.remove key).2.Depicts (roster.erase key) := by
  intro other
  rw [find?_remove, Roster.context?_erase, depicts other]

theorem Depicts.found {key : String} {link : Option Link} {tab : Option Tab}
    (held : roster.lookup key = some (link, tab)) :
    registry.find? key = some ⟨key, link, tab⟩ := by
  rw [depicts key]
  exact Roster.context?_eq_some.2 ⟨rfl, held⟩

theorem Depicts.absent {key : String} (missing : key ∉ roster) : registry.find? key = none := by
  rw [depicts key, Roster.context?, Finmap.lookup_eq_none.2 missing]
  rfl

theorem Depicts.contains_iff (key : String) : registry.contains key = true ↔ key ∈ roster := by
  rw [← Finmap.lookup_isSome]
  show (registry.find? key).isSome = true ↔ _
  rw [depicts key, Roster.context?, Option.isSome_map]

/-! ### What is told of all pages -/

theorem Depicts.keyed {key : String} {context : PageContext}
    (found : registry.find? key = some context) : context.key = key := by
  rw [depicts key] at found
  exact (Roster.context?_eq_some.1 found).1

theorem Depicts.mem_values {context : PageContext} :
    context ∈ registry.pages.values ↔ roster.context? context.key = some context := by
  rw [← depicts context.key]
  constructor
  · intro member
    obtain ⟨key, found⟩ := Table.find?_of_mem_values member
    rwa [depicts.keyed found]
  · intro found
    exact Table.mem_values_of_find? found

theorem Depicts.values_nodup : registry.pages.values.Nodup := by
  refine registry.pages.values_nodup ?_
  intro key other context found alsoFound
  exact (depicts.keyed found).symm.trans (depicts.keyed alsoFound)

theorem Depicts.values_eq : (registry.pages.values : Multiset PageContext) = roster.contexts := by
  refine (Multiset.Nodup.ext ?_ roster.contexts_nodup).2 ?_
  · exact Multiset.coe_nodup.2 depicts.values_nodup
  · intro context
    rw [Multiset.mem_coe, depicts.mem_values, Roster.mem_contexts]

theorem Depicts.size_eq : registry.size = roster.keys.card := by
  calc registry.size = registry.pages.values.length := Table.size_eq_length_values registry.pages
    _ = Multiset.card roster.contexts := by rw [← depicts.values_eq, Multiset.coe_card]
    _ = Multiset.card roster.entries := Multiset.card_map ..
    _ = roster.keys.card := (Multiset.card_map Sigma.fst roster.entries).symm

theorem Depicts.snapshot_increases :
    registry.snapshot.Pairwise fun first second => first.key < second.key := by
  -- The table orders the keys that contexts are filed under, a snapshot those that they repeat.
  have keyed : ∀ entry ∈ registry.pages.entries, entry.2.key = entry.1 := by
    intro entry member
    exact depicts.keyed (Table.findEntry_of_mem _ _ _ registry.pages.increasing member)
  rw [snapshot, List.pairwise_map, Table.values, List.pairwise_map]
  refine registry.pages.increasing.imp_of_mem ?_
  intro first second here there below
  rw [keyed first here, keyed second there]
  exact compare_lt_iff_lt.1 below

theorem Depicts.mem_snapshot (info : PageInfo) : info ∈ registry.snapshot ↔
    ∃ link, roster.lookup info.key = some (link, info.tab) ∧ info.connected = link.isSome := by
  rw [snapshot, List.mem_map]
  constructor
  · rintro ⟨context, member, rfl⟩
    have held := Roster.context?_eq_some.1 (depicts.mem_values.1 member)
    exact ⟨context.link, held.2, rfl⟩
  · obtain ⟨key, connected, tab⟩ := info
    rintro ⟨link, held, rfl⟩
    refine ⟨⟨key, link, tab⟩, ?_, rfl⟩
    exact depicts.mem_values.2 (Roster.context?_eq_some.2 ⟨rfl, held⟩)

theorem Depicts.snapshot_eq_of_key {first second : PageInfo} (here : first ∈ registry.snapshot)
    (there : second ∈ registry.snapshot) (same : first.key = second.key) : first = second := by
  obtain ⟨key, connected, tab⟩ := first
  obtain ⟨other, alsoConnected, given⟩ := second
  obtain ⟨link, held, rfl⟩ := (depicts.mem_snapshot _).1 here
  obtain ⟨alsoLink, alsoHeld, rfl⟩ := (depicts.mem_snapshot _).1 there
  simp only at same held alsoHeld
  subst same
  rw [held] at alsoHeld
  cases alsoHeld
  rfl

/-- However the contexts are listed, sorting what is told of them by key gives the snapshot. -/
theorem Depicts.sorted_eq {listing : List PageContext}
    (complete : (listing : Multiset PageContext) = roster.contexts) :
    (listing.map PageContext.info).mergeSort (fun first second => first.key ≤ second.key) =
      registry.snapshot := by
  have listed : (listing.map PageContext.info).Perm registry.snapshot := by
    refine List.Perm.map PageContext.info (Multiset.coe_eq_coe.1 ?_)
    rw [complete, depicts.values_eq]
  refine List.Perm.eq_of_pairwise ?_ (pairwise_sorted _)
    (depicts.snapshot_increases.imp le_of_lt) ((List.mergeSort_perm ..).trans listed)
  intro first second here there below above
  have member := listed.mem_iff.1 (List.mem_mergeSort.1 here)
  exact depicts.snapshot_eq_of_key member there (le_antisymm below above)

theorem Depicts.bears_of_named {id : Nat} {key : String}
    (named : registry.keyForLink? id = some key) : roster.Bears key id := by
  obtain ⟨context, found, rfl⟩ := Option.map_eq_some_iff.1 named
  have member := depicts.mem_values.1 (List.mem_of_find?_eq_some found)
  have held := (Roster.context?_eq_some.1 member).2
  have hasLink := List.find?_some found
  cases linked : context.link with
  | none => simp [PageContext.hasLink, linked] at hasLink
  | some link =>
      rw [linked] at held
      exact ⟨link, context.tab, held, by simpa [PageContext.hasLink, linked] using hasLink⟩

theorem Depicts.unborne_of_unnamed {id : Nat} (unnamed : registry.keyForLink? id = none)
    (key : String) : ¬ roster.Bears key id := by
  have nowhere : ∀ context ∈ registry.pages.values, ¬ context.hasLink id = true := by
    simpa [keyForLink?] using unnamed
  rintro ⟨link, tab, held, same⟩
  refine nowhere ⟨key, some link, tab⟩ ?_ (by simp [PageContext.hasLink, same])
  exact depicts.mem_values.2 (Roster.context?_eq_some.2 ⟨rfl, held⟩)

/-! ### Actions -/

/-- One action is answered as the roster says, and keeps registry and roster together. -/
theorem Depicts.perform (action : RegistryAction) :
    roster.Answers action (registry.perform action).1 ∧
      (registry.perform action).2.Depicts (roster.next action) := by
  cases action with
  | create key tab =>
      by_cases present : key ∈ roster
      · rw [perform_create_of_present ((depicts.contains_iff key).2 present), Roster.next,
          if_pos present]
        exact ⟨.alreadyCreated key tab present, depicts⟩
      · rw [Registry.perform, create_of_absent (depicts.absent present), Roster.next,
          if_neg present]
        exact ⟨.created key tab present, depicts.put { key, tab }⟩
  | attach key link =>
      cases held : roster.lookup key with
      | none =>
          have missing := Finmap.lookup_eq_none.1 held
          rw [perform_attach_of_refused (attach_of_absent (depicts.absent missing) link)]
          simp only [Roster.next, held]
          exact ⟨.notOpened key link missing, depicts⟩
      | some entry =>
          obtain ⟨attached, tab⟩ := entry
          have found := depicts.found held
          cases attached with
          | none =>
              simp only [Registry.perform, attach_of_unlinked found rfl link, Roster.next, held]
              exact ⟨.attached key link tab held, depicts.put ⟨key, some link, tab⟩⟩
          | some other =>
              rw [perform_attach_of_refused (attach_of_linked found rfl link)]
              simp only [Roster.next, held]
              exact ⟨.alreadyAttached key link other tab held, depicts⟩
  | setTab key tab =>
      cases held : roster.lookup key with
      | none =>
          have missing := Finmap.lookup_eq_none.1 held
          rw [Registry.perform, setTab_of_absent (depicts.absent missing)]
          simp only [Roster.next, held]
          exact ⟨.tabIgnored key tab missing, depicts⟩
      | some entry =>
          rw [Registry.perform, setTab_of_found (depicts.found held)]
          simp only [Roster.next, held]
          exact ⟨.tabSet key tab (Finmap.mem_of_lookup_eq_some held),
            depicts.put ⟨key, entry.1, tab⟩⟩
  | remove key =>
      have removed : (registry.remove key).1 = roster.context? key := depicts key
      rw [Registry.perform, removed]
      exact ⟨.removed key, depicts.remove key⟩
  | drain => exact ⟨.drained _ depicts.values_eq, depicts_empty⟩

/-- By induction on the actions, for every registry and roster that belong together. -/
theorem Depicts.after (actions : List RegistryAction) :
    (registry.after actions).Depicts (roster.after actions) := by
  induction actions generalizing registry roster with
  | nil => exact depicts
  | cons action rest ih => exact ih (depicts.perform action).2

theorem Depicts.keeps {key : String} {link : Link} {context : PageContext} {next : Registry}
    (attached : registry.attach key link = .ok (context, next)) {later : List RegistryAction}
    (unremoved : ∀ action ∈ later, ¬ action.Removes key) :
    ∃ tab, (next.after later).find? key = some ⟨key, some link, tab⟩ := by
  obtain ⟨held, found, unlinked⟩ := (attach_succeeds_iff link).1 ⟨context, next, attached⟩
  rw [attach_of_unlinked found unlinked] at attached
  cases attached
  have depictsNext := depicts.put { held with link := some link }
  have linked : (roster.insert held.key (some link, held.tab)).lookup key =
      some (some link, held.tab) := by
    rw [depicts.keyed found]
    exact Finmap.lookup_insert _
  obtain ⟨tab, still⟩ := Roster.after_linked linked unremoved
  exact ⟨tab, (depictsNext.after later).found still⟩

end Depicts

/-! ## The whole registry -/

/-- A registry that nobody can tell from a roster.  A page that is there is not created again, a
link that is refused leaves everything as it is, and nothing but a removal of its page takes or
changes a link.  The snapshot does not depend on how the pages are kept. -/
structure Faithful (registry : Registry) (roster : Roster) : Prop where
  found : ∀ key, registry.find? key = roster.context? key
  contains : ∀ key, registry.contains key = true ↔ key ∈ roster
  size : registry.size = roster.keys.card
  named : ∀ id key, registry.keyForLink? id = some key → roster.Bears key id
  unnamed : ∀ id, registry.keyForLink? id = none → ∀ key, ¬ roster.Bears key id
  answered : ∀ action, roster.Answers action (registry.perform action).1
  recreated : ∀ key tab, registry.contains key = true →
    registry.perform (.create key tab) = (.created false, registry)
  refused : ∀ key link error, registry.attach key link = .error error →
    registry.perform (.attach key link) = (.attached (.error error), registry)
  attaches : ∀ key link, (∃ context next, registry.attach key link = .ok (context, next)) ↔
    ∃ context, registry.find? key = some context ∧ context.link = none
  keeps : ∀ key link context next later, registry.attach key link = .ok (context, next) →
    (∀ action ∈ later, ¬ action.Removes key) →
    ∃ tab, (next.after later).find? key = some ⟨key, some link, tab⟩
  increases : registry.snapshot.Pairwise fun first second => first.key < second.key
  lists : ∀ info, info ∈ registry.snapshot ↔
    ∃ link, roster.lookup info.key = some (link, info.tab) ∧ info.connected = link.isSome
  length : registry.snapshot.length = registry.size
  sorted : ∀ listing : List PageContext, (listing : Multiset PageContext) = roster.contexts →
    (listing.map PageContext.info).mergeSort (fun first second => first.key ≤ second.key) =
      registry.snapshot

theorem acts_like_map (actions : List RegistryAction) :
    (after {} actions).Faithful (Roster.after ∅ actions) := by
  have depicts : (after {} actions).Depicts (Roster.after ∅ actions) :=
    depicts_empty.after actions
  exact {
    found := depicts
    contains := depicts.contains_iff
    size := depicts.size_eq
    named := fun id key named => depicts.bears_of_named named
    unnamed := fun id unnamed => depicts.unborne_of_unnamed unnamed
    answered := fun action => (depicts.perform action).1
    recreated := fun key tab present => perform_create_of_present present tab
    refused := fun key link error refused => perform_attach_of_refused refused
    attaches := fun key link => attach_succeeds_iff link
    keeps := fun key link context next later attached unremoved =>
      depicts.keeps attached unremoved
    increases := depicts.snapshot_increases
    lists := depicts.mem_snapshot
    length := by
      rw [snapshot, List.length_map]
      exact (Table.size_eq_length_values _).symm
    sorted := fun listing complete => depicts.sorted_eq complete }

example : (after {} [.create "tagsTree" none, .create "editTag-1" none,
    .attach "tagsTree" ⟨1, 0⟩, .attach "tagsTree" ⟨2, 1⟩]).snapshot =
    [⟨"editTag-1", false, none⟩, ⟨"tagsTree", true, none⟩] := by
  decide

end Registry

end BookmarkHub
