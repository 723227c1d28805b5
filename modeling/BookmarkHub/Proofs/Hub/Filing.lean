import BookmarkHub.Hub.Loop
import BookmarkHub.Proofs.Table

/-!
# What the hub files, and what its handlers post

Pages are filed under their keys, bridges under the numbers of their links, and
every link has the channel that it was given out with.  So a call that comes
through a link is answered through the same link.  Only a relayed call makes
the hub post an answer or hand a request to a client.
-/

set_option autoImplicit false

namespace BookmarkHub

/-- The link that the hub gives out under a number. -/
def Link.numbered (number : Nat) : Link := ⟨number, number - 1⟩

/-! ## Pages and links -/

namespace Registry

structure Filed (registry : Registry) : Prop where
  keys : ∀ key context, registry.find? key = some context → context.key = key
  links : ∀ key context link, registry.find? key = some context → context.link = some link →
    link = Link.numbered link.id

variable {registry : Registry}

theorem filed_empty : Filed {} where
  keys := fun _ _ found => by cases found
  links := fun _ _ _ found => by cases found

theorem find?_put (context : PageContext) (key : String) :
    (registry.put context).find? key =
      if key = context.key then some context else registry.find? key := by
  simp only [put, find?, Table.find?_insert, Std.LawfulEqOrd.compare_eq_iff_eq]

theorem find?_remove (removed key : String) :
    (registry.remove removed).2.find? key =
      if key = removed then none else registry.find? key := by
  simp only [remove, find?, Table.find?_erase, Std.LawfulEqOrd.compare_eq_iff_eq]

theorem remove_of_absent {key : String} (absent : registry.find? key = none) :
    (registry.remove key).2 = registry := by
  rw [remove, Table.erase_of_absent absent]

theorem create_of_absent {key : String} (absent : registry.find? key = none) (tab : Option Tab) :
    registry.create key tab = (true, registry.put { key, tab }) := by
  have fresh : registry.contains key = false := by
    rw [contains, Table.contains, ← find?, absent]
    rfl
  simp only [create, fresh, Bool.false_eq_true, if_false]

theorem remove_create {key : String} (absent : registry.find? key = none) (tab : Option Tab) :
    ((registry.create key tab).2.remove key).2 = registry := by
  rw [create_of_absent absent, remove, put, Table.erase_insert_of_absent _ absent]

theorem Filed.put (filed : Filed registry) (context : PageContext)
    (given : ∀ link, context.link = some link → link = Link.numbered link.id) :
    Filed (registry.put context) := by
  constructor
  · intro key found held
    rw [find?_put] at held
    split at held
    · rename_i same
      cases held
      exact same.symm
    · exact filed.keys key found held
  · intro key found link held attached
    rw [find?_put] at held
    split at held
    · cases held
      exact given link attached
    · exact filed.links key found link held attached

theorem Filed.create (filed : Filed registry) (key : String) (tab : Option Tab) :
    Filed (registry.create key tab).2 := by
  unfold Registry.create
  split
  · exact filed
  · exact filed.put _ fun link linked => by cases linked

theorem Filed.remove (filed : Filed registry) (key : String) : Filed (registry.remove key).2 := by
  constructor
  · intro other context held
    rw [find?_remove] at held
    split at held
    · cases held
    · exact filed.keys other context held
  · intro other context link held attached
    rw [find?_remove] at held
    split at held
    · cases held
    · exact filed.links other context link held attached

theorem Filed.link_of_key (filed : Filed registry) {number : Nat} {key : String}
    (attached : registry.keyForLink? number = some key) :
    (registry.find? key).bind PageContext.link = some (Link.numbered number) := by
  obtain ⟨context, found, rfl⟩ := Option.map_eq_some_iff.1 attached
  obtain ⟨other, held⟩ := Table.find?_of_mem_values (List.mem_of_find?_eq_some found)
  have key : context.key = other := filed.keys other context held
  have holds : registry.find? context.key = some context := by
    rw [key]
    exact held
  have hasLink := List.find?_some found
  rw [holds, Option.bind_some]
  cases linked : context.link with
  | none => simp [PageContext.hasLink, linked] at hasLink
  | some link =>
      have same : link.id = number := by simpa [PageContext.hasLink, linked] using hasLink
      rw [filed.links _ _ link holds linked, same]

end Registry

/-! ## Handlers -/

/-- An effect that answers no call and hands in no request. -/
def HubEffect.IsUnrelayed : HubEffect → Prop
  | .post _ (.answer _ _ _) | .submit _ _ _ => False
  | _ => True

namespace Hub

/-- What the hub has is filed where it belongs. -/
structure Filed (hub : Hub) : Prop where
  registry : hub.registry.Filed
  bridges : ∀ number link, hub.bridges.find? number = some link → link = Link.numbered number

theorem filed_initial : Filed {} where
  registry := Registry.filed_empty
  bridges := fun _ _ found => by cases found

structure Quiet (handled : Handled) : Prop where
  filed : Filed handled.hub
  unrelayed : ∀ effect ∈ handled.effects, effect.IsUnrelayed

section Handlers
variable {hub : Hub} (filed : Filed hub)
include filed

theorem quiet_idle (result : Except HubError Unit) : Quiet { result, hub } :=
  ⟨filed, by simp⟩

theorem setClient_quiet (client : Option ClientId) : Quiet (setClient client hub) := by
  refine ⟨⟨filed.registry, filed.bridges⟩, ?_⟩
  intro effect member
  obtain ⟨old, _, rfl⟩ := List.mem_map.1 member
  trivial

omit filed in
theorem refocus_unrelayed (context : PageContext) :
    ∀ effect ∈ refocus context, effect.IsUnrelayed := by
  intro effect member
  cases linked : context.link with
  | none => simp [refocus, linked] at member
  | some link =>
      simp only [refocus, linked, List.mem_append, List.mem_map, List.mem_singleton] at member
      rcases member with ⟨tab, _, rfl⟩ | rfl <;> trivial

theorem openOrRefocus_quiet (windowOpens : Bool) (key openParams : String) (tab : Option Tab) :
    Quiet (openOrRefocus windowOpens key openParams tab hub) := by
  unfold openOrRefocus
  split
  · rename_i context held
    refine ⟨⟨filed.registry.put _ fun link linked => ?_, filed.bridges⟩, ?_⟩
    · exact filed.registry.links key context link held linked
    · intro effect member
      rcases List.mem_append.1 member with refocused | focused
      · exact refocus_unrelayed _ effect refocused
      · cases List.mem_singleton.1 focused
        trivial
  · have created := filed.registry.create key tab
    dsimp only
    split
    · refine ⟨⟨created, filed.bridges⟩, ?_⟩
      intro effect member
      cases List.mem_singleton.1 member
      trivial
    · exact ⟨⟨created.remove key, filed.bridges⟩, by simp⟩

theorem openFromCommand_quiet (windowOpens : Bool) (command : SurfaceCommand) :
    Quiet (openFromCommand windowOpens command hub) := by
  unfold openFromCommand
  split
  · exact openOrRefocus_quiet filed windowOpens _ _ _
  · exact quiet_idle filed _

theorem closePage_quiet (key : String) : Quiet (closePage key hub) := by
  have removed := filed.registry.remove key
  unfold closePage
  dsimp only
  split
  · exact ⟨⟨removed, filed.bridges⟩, by simp⟩
  · refine ⟨⟨removed, filed.bridges⟩, ?_⟩
    intro effect member
    obtain ⟨link, _, rfl⟩ := List.mem_map.1 member
    trivial

theorem connectPage_quiet (key : String) {link : Link} (given : link = Link.numbered link.id) :
    Quiet (connectPage key link hub) := by
  unfold connectPage Registry.attach
  cases held : hub.registry.find? key with
  | none => exact quiet_idle filed _
  | some context =>
      cases attached : context.link with
      | some other =>
          simp only [attached]
          exact quiet_idle filed _
      | none =>
          simp only [attached]
          refine ⟨⟨filed.registry.put _ fun other linked => ?_, filed.bridges⟩, ?_⟩
          · cases linked
            exact given
          · intro effect member
            obtain ⟨tab, _, rfl⟩ := List.mem_map.1 member
            trivial

theorem connectBridge_quiet {link : Link} (given : link = Link.numbered link.id) :
    Quiet (connectBridge link hub) := by
  refine ⟨⟨filed.registry, fun number other found => ?_⟩, by simp [connectBridge]⟩
  simp only [connectBridge, Table.find?_insert, Nat.compare_eq_eq] at found
  split at found
  · rename_i same
    cases found
    rw [same]
    exact given
  · exact filed.bridges number other found

theorem disconnect_quiet (id : Nat) : Quiet (disconnect id hub) := by
  unfold disconnect
  split
  · refine ⟨⟨filed.registry, fun number link found => ?_⟩, by simp⟩
    simp only [Table.find?_erase] at found
    split at found
    · cases found
    · exact filed.bridges number link found
  · split
    · exact ⟨⟨filed.registry.remove _, filed.bridges⟩, by simp⟩
    · exact quiet_idle filed _

omit filed in
theorem shutdown_quiet : Quiet (shutdown hub) := by
  refine ⟨⟨Registry.filed_empty, fun _ _ found => by cases found⟩, ?_⟩
  intro effect member
  rcases List.mem_append.1 member with closed | client
  · obtain ⟨link, _, rfl⟩ := List.mem_map.1 closed
    trivial
  · obtain ⟨old, _, rfl⟩ := List.mem_map.1 client
    trivial

end Handlers

/-! ## Messages -/

def hears (number : Nat) (hub : Hub) : Bool :=
  hub.bridges.contains number || hub.registry.pages.values.any (·.hasLink number)

section Messages
variable {hub : Hub} {number : Nat} (windowOpens : Bool)

theorem keyForLink?_of_unheard (unheard : hub.hears number = false) :
    hub.bridges.contains number = false ∧ hub.registry.keyForLink? number = none := by
  simp only [hears, Bool.or_eq_false_iff, List.any_eq_false] at unheard
  refine ⟨unheard.1, ?_⟩
  rw [Registry.keyForLink?, List.find?_eq_none.2 unheard.2]
  rfl

theorem message_of_unheard (command : SurfaceCommand) (unheard : hub.hears number = false) :
    message windowOpens number command hub = { hub } := by
  obtain ⟨noBridge, noPage⟩ := keyForLink?_of_unheard unheard
  simp [message, noBridge, noPage]

theorem message_relay (filed : Filed hub) (heard : hub.hears number = true) (id : UInt64)
    (func : String) (args : List Json) :
    message windowOpens number (.relay id func args) hub =
      relayCall ⟨Link.numbered number, id⟩ func args hub := by
  unfold message
  split
  · rename_i bridge
    obtain ⟨link, found⟩ := Option.isSome_iff_exists.1 bridge
    have same := filed.bridges number link found
    simp only [bridgeMessage, found, same]
  · rename_i noBridge
    simp only [hears, noBridge, Bool.false_or, List.any_eq_true] at heard
    rw [← List.find?_isSome] at heard
    obtain ⟨found, first⟩ := Option.isSome_iff_exists.1 heard
    have key : hub.registry.keyForLink? number = some found.key := by
      rw [Registry.keyForLink?, first]
      rfl
    simp only [key, pageMessage, filed.registry.link_of_key key]

theorem message_quiet (filed : Filed hub) (command : SurfaceCommand)
    (other : ∀ id func args, command ≠ .relay id func args) :
    Quiet (message windowOpens number command hub) := by
  have opened := openFromCommand_quiet filed windowOpens command
  unfold message
  split
  · unfold bridgeMessage
    split
    · exact quiet_idle filed _
    · cases command with
      | relay id func args => exact absurd rfl (other id func args)
      | clearTab => exact quiet_idle filed _
      | _ => exact opened
  · split
    · cases command with
      | relay id func args => exact absurd rfl (other id func args)
      | clearTab => exact ⟨⟨filed.registry.remove _, filed.bridges⟩, by simp [pageMessage]⟩
      | _ => exact opened
    · exact quiet_idle filed _

variable (hub) in
theorem relayCall_cases (relay : Relay) (func : String) (args : List Json) :
    (hub.client = none ∧ (relayCall relay func args hub).effects =
      [.post relay.link (relay.refuse 401 "not authenticated")]) ∨
    (∃ client error, hub.client = some client ∧ Operation.ofCall func args = .error error ∧
      (relayCall relay func args hub).effects =
        [.post relay.link (relay.refuse 400 error.message)]) ∨
    ∃ client operation, hub.client = some client ∧ Operation.ofCall func args = .ok operation ∧
      (relayCall relay func args hub).effects = [.submit client relay operation] := by
  cases loggedIn : hub.client with
  | none =>
      left
      exact ⟨rfl, by simp [relayCall, loggedIn, Relay.notAuthenticated]⟩
  | some client =>
      right
      cases called : Operation.ofCall func args with
      | error error =>
          left
          exact ⟨client, error, rfl, rfl, by simp [relayCall, loggedIn, called, Relay.badRequest]⟩
      | ok operation =>
          right
          exact ⟨client, operation, rfl, rfl, by simp [relayCall, loggedIn, called]⟩

theorem relayCall_hub (relay : Relay) (func : String) (args : List Json) :
    (relayCall relay func args hub).hub = hub := by
  unfold relayCall
  split
  · rfl
  · split <;> rfl

end Messages

end Hub

end BookmarkHub
