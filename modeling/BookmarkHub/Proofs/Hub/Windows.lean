import BookmarkHub.Proofs.Hub.Ownership

/-!
# One window for a page

A page has a context from the moment its window was opened until it is cleared
by its surface, loses its surface, is closed, or the hub shuts down.  A window
is opened only for a page without a context; the window of any other comes to
the front.
-/

set_option autoImplicit false

namespace BookmarkHub

@[simp] def HubEffect.window? : HubEffect → Option WindowRequest
  | .window request => some request
  | _ => none

/-! ## What an event does about windows -/

namespace HubEvent

section Request
variable {hub : Hub} {event : HubEvent}

theorem handled_of_request (windowOpens : Bool) {page : Page} {tab : Option Tab}
    (asked : event.request? hub = some (page, tab)) :
    event.handled windowOpens hub = Hub.openPage windowOpens page tab hub := by
  cases event with
  | openPage =>
      cases asked
      rfl
  | message number command =>
      simp only [request?] at asked
      split at asked
      · rename_i heard
        exact Hub.opens_of_heard windowOpens number heard command asked
      · cases asked
  | _ => cases asked

theorem unremoved_of_request {page : Page} {tab : Option Tab}
    (asked : event.request? hub = some (page, tab)) (key : String) : ¬ event.Removes hub key := by
  intro removes
  cases removes with
  | clear number attached =>
      simp only [request?, Page.ofCommand?] at asked
      split at asked <;> cases asked
  | _ => cases asked

variable (unasked : event.request? hub = none)
include unasked

theorem handled_of_unasked : event.handled true hub = event.handled false hub := by
  cases event with
  | openPage => cases unasked
  | message number command =>
      cases heard : hub.hears number with
      | false =>
          have dropped (windowOpens : Bool) :=
            Hub.message_of_unheard windowOpens command heard
          rw [handled, handled, dropped true, dropped false]
      | true =>
          simp only [request?, heard, if_true] at unasked
          cases command with
          | clearTab | relay => rfl
          | _ => cases unasked
  | _ => rfl

theorem windowless_of_unasked (filed : hub.Filed) (windowOpens : Bool) :
    (event.handled windowOpens hub).effects.filterMap HubEffect.window? = [] := by
  refine List.filterMap_eq_nil_iff.2 fun effect member => ?_
  cases event with
  | connectPage key link =>
      simp only [handled, Hub.connectPage] at member
      split at member
      · cases member
      · obtain ⟨tab, _, rfl⟩ := List.mem_map.1 member
        rfl
  | message number command =>
      have received := Hub.message_receives windowOpens number filed command
      simp only [handled] at member
      generalize Hub.message windowOpens number command hub = handled at received member
      cases received with
      | drop | ignore | clear => cases member
      | opens _ page tab heard asked => simp [request?, heard, asked] at unasked
      | relay id func args heard =>
          rcases Hub.relayCall_cases hub ⟨Link.numbered number, id⟩ func args with
            ⟨_, done⟩ | ⟨_, _, _, _, done⟩ | ⟨_, _, _, _, done⟩ <;>
          · rw [done] at member
            rw [List.mem_singleton.1 member]
            rfl
  | disconnect number =>
      have forgotten := Hub.disconnect_forgets number filed
      simp only [handled] at member
      generalize Hub.disconnect number hub = handled at forgotten member
      cases forgotten <;> cases member
  | closePage caller key =>
      simp only [handled, Hub.closePage] at member
      split at member
      · cases member
      · obtain ⟨link, _, rfl⟩ := List.mem_map.1 member
        rfl
  | setClient client =>
      obtain ⟨old, _, rfl⟩ := List.mem_map.1 member
      rfl
  | shutdown =>
      rcases List.mem_append.1 member with closed | client
      · obtain ⟨link, _, rfl⟩ := List.mem_map.1 closed
        rfl
      · obtain ⟨old, _, rfl⟩ := List.mem_map.1 client
        rfl
  | openPage => cases unasked
  | connectBridge | openForActiveTab | listPages => cases member

end Request

end HubEvent

theorem Hub.refocus_windowless (context : PageContext) :
    (refocus context).filterMap HubEffect.window? = [] := by
  cases linked : context.link with
  | none => simp [refocus, linked]
  | some link => cases shown : context.tab <;> simp [refocus, linked, shown]

namespace HubLoop

def request? (loop : HubLoop) : Option (Page × Option Tab) :=
  loop.next?.bind (HubEvent.request? loop.hub)

/-- What the hub does about windows when it takes the next event. -/
def windows (windowOpens : Bool) (loop : HubLoop) : List WindowRequest :=
  ((loop.take windowOpens).2.filterMap HubLoopEffect.act?).filterMap HubEffect.window?

section Windows
variable {loop : HubLoop}

theorem take_of_request (windowOpens : Bool) {page : Page} {tab : Option Tab}
    (asked : loop.request? = some (page, tab)) :
    (loop.take windowOpens).1.hub = (Hub.openPage windowOpens page tab loop.hub).hub ∧
      loop.windows windowOpens =
        (Hub.openPage windowOpens page tab loop.hub).effects.filterMap HubEffect.window? := by
  obtain ⟨event, next, requested⟩ := Option.bind_eq_some_iff.1 asked
  have does := take_does windowOpens next
  rw [HubEvent.handled_of_request windowOpens requested] at does
  refine ⟨does.hub, ?_⟩
  rw [windows, does.acts]

theorem windows_of_unasked (filed : loop.Filed) (unasked : loop.request? = none)
    (windowOpens : Bool) : loop.windows windowOpens = [] := by
  cases next : loop.next? with
  | none => rw [windows, take_of_none windowOpens next]; rfl
  | some event =>
      rw [request?, next] at unasked
      rw [windows, (take_does windowOpens next).acts]
      exact HubEvent.windowless_of_unasked unasked filed.hub windowOpens

theorem handle_untried {event : HubEvent}
    (same : event.handled true loop.hub = event.handled false loop.hub) :
    handle true event loop = handle false event loop := by
  cases event with
  | message | openPage => exact congrArg loop.handled same
  | _ => rfl

theorem take_untried (settled : ∀ page tab, loop.request? = some (page, tab) →
    ∃ context, loop.hub.registry.find? page.key = some context) :
    loop.take true = loop.take false := by
  cases next : loop.next? with
  | none => rw [take_of_none true next, take_of_none false next]
  | some event =>
      rw [take_of_next true next, take_of_next false next]
      refine handle_untried ?_
      cases asked : event.request? loop.hub with
      | none => exact HubEvent.handled_of_unasked asked
      | some request =>
          obtain ⟨page, tab⟩ := request
          have requested : loop.request? = some (page, tab) := by
            rw [request?, next]
            exact asked
          obtain ⟨context, held⟩ := settled page tab requested
          have opened (windowOpens : Bool) :=
            HubEvent.handled_of_request windowOpens asked
          rw [opened true, opened false, Hub.openPage_of_context tab true held,
            Hub.openPage_of_context tab false held]

end Windows

end HubLoop

/-! ## The life of a page -/

namespace Switchboard

def Contains (key : String) (board : Switchboard) : Prop :=
  board.loop.hub.registry.contains key = true

/-- A page is asked for that has no context, and its window opens. -/
def Opens (key : String) (board : Switchboard) (move : HubMove) : Prop :=
  move = .take true ∧ ∃ page tab, board.loop.request? = some (page, tab) ∧ page.key = key ∧
    ¬ board.Contains key

/-- The page of a key is cleared by its surface, loses its surface, or is closed, or the
hub shuts down. -/
def Removes (key : String) (board : Switchboard) (move : HubMove) : Prop :=
  ∃ windowOpens event, move = .take windowOpens ∧ board.loop.next? = some event ∧
    event.Removes board.loop.hub key

section Contains
variable {options : ClientId → ConnectionOptions} {board : Switchboard} {key : String}

theorem contains_iff : board.Contains key ↔
    ∃ context, board.loop.hub.registry.find? key = some context :=
  Option.isSome_iff_exists

/-- What an event does to a page decides whether it is open. -/
theorem contains_of_changes {windowOpens : Bool} {event : HubEvent} {after : Switchboard}
    (next : board.loop.next? = some event)
    (changes : event.Changes windowOpens board.loop.hub key
      (after.loop.hub.registry.find? key)) :
    after.Contains key ↔ board.Opens key (.take windowOpens) ∨
      board.Contains key ∧ ¬ board.Removes key (.take windowOpens) := by
  have request : board.loop.request? = event.request? board.loop.hub := by
    rw [HubLoop.request?, next]
    rfl
  have removes : board.Removes key (.take windowOpens) ↔ event.Removes board.loop.hub key := by
    constructor
    · rintro ⟨_, taken, _, known, goes⟩
      rw [next] at known
      cases known
      exact goes
    · intro goes
      exact ⟨windowOpens, event, rfl, next, goes⟩
  rw [removes, contains_iff]
  generalize after.loop.hub.registry.find? key = result at changes
  cases changes with
  | same unopened unremoved =>
      rw [← contains_iff]
      constructor
      · intro held
        exact Or.inr ⟨held, unremoved⟩
      · rintro (⟨opens, page, tab, asked, named, _⟩ | ⟨held, _⟩)
        · cases opens
          rw [request] at asked
          obtain ⟨refused, _⟩ := unopened page tab asked named
          cases refused
        · exact held
  | opened page tab asked named absent opens =>
      have closed : ¬ board.Contains key := by
        rw [contains_iff, absent]
        simp
      rw [← request] at asked
      refine iff_of_true ⟨_, rfl⟩ (Or.inl ⟨?_, page, tab, asked, named, closed⟩)
      rw [opens]
  | refocused page tab context asked named held =>
      refine iff_of_true ⟨_, rfl⟩ (Or.inr ⟨contains_iff.2 ⟨context, held⟩, ?_⟩)
      exact HubEvent.unremoved_of_request asked key
  | connected link context connects held =>
      refine iff_of_true ⟨_, rfl⟩ (Or.inr ⟨contains_iff.2 ⟨context, held⟩, ?_⟩)
      rw [connects]
      exact nofun
  | removed goes =>
      refine iff_of_false (by simp) ?_
      rintro (⟨_, page, tab, asked, _, _⟩ | ⟨_, stays⟩)
      · rw [request] at asked
        exact HubEvent.unremoved_of_request asked key goes
      · exact stays goes

theorem step_contains (sound : Sound options board) (owned : board.loop.Owned) (move : HubMove) :
    (board.step move).Contains key ↔
      board.Opens key move ∨ board.Contains key ∧ ¬ board.Removes key move := by
  rcases board.step_hub move with ⟨windowOpens, event, rfl, next, taken⟩ | ⟨untaken, same⟩
  · refine contains_of_changes next ?_
    rw [taken]
    exact Hub.event_changes windowOpens key sound.filed.hub owned.exclusive event
  · have unopened : ¬ board.Opens key move := by
      rintro ⟨opens, page, tab, asked, _⟩
      obtain ⟨event, next, _⟩ := Option.bind_eq_some_iff.1 asked
      cases (untaken true opens).symm.trans next
    have unremoved : ¬ board.Removes key move := by
      rintro ⟨windowOpens, event, takes, next, _⟩
      cases (untaken windowOpens takes).symm.trans next
    simp only [Contains, same, unopened, unremoved, false_or, not_false_eq_true, and_true]

end Contains

/-- Nothing in the rest of a run removes the page of a key. -/
def Unremoved (options : ClientId → ConnectionOptions) (key : String)
    (moves later : List HubMove) : Prop :=
  ∀ before move after, later = before ++ move :: after →
    ¬ (run options (moves ++ before)).Removes key move

section Run
variable (options : ClientId → ConnectionOptions) (key : String)

theorem snoc_contains (moves : List HubMove) (move : HubMove) :
    (run options (moves ++ [move])).Contains key ↔ (run options moves).Opens key move ∨
      (run options moves).Contains key ∧ ¬ (run options moves).Removes key move := by
  rw [run_snoc]
  exact step_contains (run_sound options moves) (run_owned options moves) move

variable {options key} in
theorem unremoved_snoc {moves later : List HubMove} {move : HubMove} :
    Unremoved options key moves (later ++ [move]) ↔
      Unremoved options key moves later ∧ ¬ (run options (moves ++ later)).Removes key move := by
  constructor
  · intro unremoved
    refine ⟨fun before other after split => ?_, unremoved later move [] rfl⟩
    refine unremoved before other (after ++ [move]) ?_
    rw [split, List.append_assoc, List.cons_append]
  · rintro ⟨unremoved, stays⟩ before other after split
    rcases List.eq_nil_or_concat after with rfl | ⟨rest, last, rfl⟩
    · obtain ⟨rfl, same⟩ := List.append_inj' split rfl
      cases same
      exact stays
    · have longer : later ++ [move] = (before ++ other :: rest) ++ [last] := by
        rw [split, List.concat_eq_append, List.append_assoc, List.cons_append]
      exact unremoved before other rest (List.append_inj' longer rfl).1

theorem contains_since (moves : List HubMove) : (run options moves).Contains key ↔
    ∃ earlier move later, moves = earlier ++ move :: later ∧
      (run options earlier).Opens key move ∧
      Unremoved options key (earlier ++ [move]) later := by
  -- the last move opens the page, or leaves what was so before
  induction moves using List.reverseRecOn with
  | nil =>
      refine iff_of_false ?_ (by simp)
      intro held
      cases held
  | append_singleton moves last ih =>
      rw [snoc_contains, ih]
      constructor
      · rintro (opens | ⟨⟨earlier, move, later, rfl, opens, unremoved⟩, stays⟩)
        · refine ⟨moves, last, [], rfl, opens, ?_⟩
          intro before move after split
          simp at split
        · refine ⟨earlier, move, later ++ [last], by simp, opens, unremoved_snoc.2 ⟨unremoved, ?_⟩⟩
          rw [List.append_assoc, List.singleton_append]
          exact stays
      · rintro ⟨earlier, move, later, split, opens, unremoved⟩
        rcases List.eq_nil_or_concat later with rfl | ⟨rest, final, rfl⟩
        · obtain ⟨rfl, same⟩ := List.append_inj' split rfl
          cases same
          exact Or.inl opens
        · have longer : moves ++ [last] = (earlier ++ move :: rest) ++ [final] := by
            rw [split, List.concat_eq_append, List.append_assoc, List.cons_append]
          obtain ⟨rfl, same⟩ := List.append_inj' longer rfl
          cases same
          rw [List.concat_eq_append, unremoved_snoc] at unremoved
          obtain ⟨before, stays⟩ := unremoved
          rw [List.append_assoc, List.singleton_append] at stays
          exact Or.inr ⟨⟨earlier, move, rest, rfl, opens, before⟩, stays⟩

/-- A page that was open and is open no more was removed in between, when it was open. -/
theorem removed_between (earlier between : List HubMove)
    (held : (run options earlier).Contains key)
    (gone : ¬ (run options (earlier ++ between)).Contains key) :
    ∃ before move after, between = before ++ move :: after ∧
      (run options (earlier ++ before)).Contains key ∧
      (run options (earlier ++ before)).Removes key move := by
  induction between using List.reverseRecOn with
  | nil =>
      rw [List.append_nil] at gone
      exact absurd held gone
  | append_singleton between last ih =>
      -- either the page went with the last move, or it was gone before
      by_cases still : (run options (earlier ++ between)).Contains key
      · rw [← List.append_assoc, snoc_contains] at gone
        refine ⟨between, last, [], rfl, still, ?_⟩
        by_contra stays
        exact gone (Or.inr ⟨still, stays⟩)
      · obtain ⟨before, move, after, rfl, stillOpen, removes⟩ := ih still
        exact ⟨before, move, after ++ [last], by simp, stillOpen, removes⟩

end Run

/-- There is one window for a page: between two openings the page was removed.  Where a window
does not open, the next request finds the hub as it was. -/
structure Windowed (options : ClientId → ConnectionOptions) (moves : List HubMove) : Prop where
  lifetime : ∀ key, (run options moves).Contains key ↔
    ∃ earlier move later, moves = earlier ++ move :: later ∧
      (run options earlier).Opens key move ∧ Unremoved options key (earlier ++ [move]) later
  between : ∀ key earlier first between second later,
    moves = earlier ++ first :: (between ++ second :: later) →
    (run options earlier).Opens key first →
    (run options (earlier ++ first :: between)).Opens key second →
      ∃ before move after, between = before ++ move :: after ∧
        (run options (earlier ++ first :: before)).Contains key ∧
        (run options (earlier ++ first :: before)).Removes key move
  unasked : (run options moves).loop.request? = none →
    ∀ windowOpens, (run options moves).loop.windows windowOpens = []
  focused : ∀ page tab context, (run options moves).loop.request? = some (page, tab) →
    (run options moves).loop.hub.registry.find? page.key = some context →
      ∀ windowOpens, (run options moves).loop.windows windowOpens = [.focus page.key]
  opened : ∀ page tab, (run options moves).loop.request? = some (page, tab) →
    (run options moves).loop.hub.registry.find? page.key = none →
      (run options moves).loop.windows true =
        [.open (Page.windowUrl page.key page.openParams) (run options moves).loop.hub.window] ∧
      ((run options moves).loop.take true).1.hub.registry.find? page.key =
        some { key := page.key, tab }
  failed : ∀ page tab, (run options moves).loop.request? = some (page, tab) →
    (run options moves).loop.hub.registry.find? page.key = none →
      (run options moves).loop.windows false = [] ∧
      ((run options moves).loop.take false).1.hub = (run options moves).loop.hub
  untried : (∀ page tab, (run options moves).loop.request? = some (page, tab) →
      ∃ context, (run options moves).loop.hub.registry.find? page.key = some context) →
    (run options moves).loop.take true = (run options moves).loop.take false

/-- In every run of a hub there is one window for a page. -/
theorem run_windowed (options : ClientId → ConnectionOptions) (moves : List HubMove) :
    Windowed options moves where
  lifetime := fun key => contains_since options key moves
  between := by
    intro key earlier first between second later _ opens opensAgain
    have held : (run options (earlier ++ [first])).Contains key :=
      (snoc_contains options key earlier first).2 (Or.inl opens)
    obtain ⟨_, _, _, _, _, closed⟩ := opensAgain
    have removed := removed_between options key (earlier ++ [first]) between held
    simp only [List.append_assoc, List.singleton_append] at removed
    exact removed closed
  unasked := HubLoop.windows_of_unasked (run_sound options moves).filed
  focused := by
    intro page tab context asked held windowOpens
    rw [(HubLoop.take_of_request windowOpens asked).2, Hub.openPage_of_context tab windowOpens held,
      List.filterMap_append, Hub.refocus_windowless]
    rfl
  opened := by
    intro page tab asked absent
    obtain ⟨hub, windows⟩ := HubLoop.take_of_request true asked
    rw [Hub.openPage_of_absent tab absent] at hub windows
    refine ⟨windows, ?_⟩
    rw [hub, Registry.find?_put, if_pos rfl]
  failed := by
    intro page tab asked absent
    obtain ⟨hub, windows⟩ := HubLoop.take_of_request false asked
    rw [Hub.openPage_of_refused tab absent] at hub windows
    exact ⟨windows, hub⟩
  untried := HubLoop.take_untried

end Switchboard

end BookmarkHub
