import BookmarkHub.Proofs.Connection.Listeners

/-!
# What a listener is told

A listener has a label that is given to no other.  It is told of every socket
that is taken and kept, from when the connection has registered it, and if it
only listens once, of the first of them.  A socket that is taken while its
registration is in the mailbox passes it by, and so does one that is lost while
the queue goes out over it.
-/

set_option autoImplicit false

namespace BookmarkHub

def Unused (label : String) (moments : List Moment) : Prop :=
  ∀ moment ∈ moments, moment.happening.label? ≠ some label

namespace Listener

def under (label : String) (listeners : List Listener) : List Listener :=
  listeners.filter fun listener => decide (listener.label = label)

section Under
variable (label : String) (first second : List Listener)

@[simp] theorem under_append :
    under label (first ++ second) = under label first ++ under label second :=
  List.filter_append ..

theorem count_labels : (first.map Listener.label).count label = (under label first).length := by
  rw [under, ← List.countP_eq_length_filter, List.count_eq_countP, List.countP_map]
  refine List.countP_congr fun listener _ => ?_
  simp

theorem under_persistent :
    under label (first.filter (!·.once)) = (under label first).filter (!·.once) := by
  simp only [under, List.filter_filter, Bool.and_comm]

end Under

end Listener

theorem Endpoint.mem_unregistered {endpoint : Endpoint} {listener : Listener} :
    listener ∈ endpoint.unregistered ↔ .listen listener ∈ endpoint.mailbox := by
  rw [unregistered, List.mem_filterMap]
  constructor
  · rintro ⟨command, member, listens⟩
    cases command <;> cases listens
    exact member
  · intro member
    exact ⟨_, member, rfl⟩

namespace History

open Listener (under)

/-- A socket is taken, and is still there when the queue has gone out over it. -/
structure Keeps (history : History) (moment : Moment) : Prop where
  opens : history.Opens moment
  isOpen : (history.extend moment).connection.phase = .connected

/-- A listener is to be told of what happens at a moment. -/
structure Due (history : History) (listener : Listener) (moment : Moment) : Prop
    extends history.Keeps moment where
  registered : .listen listener ∉ history.endpoint.mailbox
  fresh : listener.once = true → listener.label ∉ history.trace.notices

/-! ## What happens under a label -/

inductive Passes (label : String) (history : History) (moment : Moment) : Prop where
  | tells (keeps : history.Keeps moment)
      (told : (history.deeds moment).notices.count label =
        (under label history.connection.listeners).length)
      (left : under label (history.extend moment).endpoint.audience =
        (under label history.connection.listeners).filter (!·.once) ++
          under label history.endpoint.unregistered)
  | quiet (unkept : ¬ history.Keeps moment)
      (silent : (history.deeds moment).notices.count label = 0)
      (same : (history.extend moment).connection.stopped = false →
        under label (history.extend moment).endpoint.audience =
          under label history.endpoint.audience)

section Passes
variable {history : History} {label : String} {moment : Moment}

theorem Keeps.running (keeps : history.Keeps moment) (orderly : Orderly history) :
    (history.extend moment).connection.stopped = false := by
  cases stopped : (history.extend moment).connection.stopped with
  | false => rfl
  | true =>
      obtain ⟨shut, _⟩ := (extend_orderly orderly moment).ending stopped
      rw [keeps.isOpen] at shut
      cases shut

theorem extend_passes (orderly : Orderly history)
    (other : moment.happening.label? ≠ some label) :
    Passes label history moment := by
  cases stopped : history.connection.stopped with
  | true =>
      have shut := (orderly.ending stopped).1
      refine .quiet ?_ ?_ fun running => ?_
      · rintro ⟨⟨connecting, _⟩, _⟩
        rw [shut] at connecting
        cases connecting
      · rw [silent_of_stopped orderly stopped moment]
        rfl
      · rw [running_of_extend running] at stopped
        cases stopped
  | false =>
      cases extend_hears (orderly.parts stopped) moment with
      | asks given once immediately asked unopened told same =>
          have apart : given ≠ label := by
            rintro rfl
            rw [asked] at other
            exact other rfl
          refine .quiet (fun keeps => unopened keeps.opens.2) ?_ fun _ => ?_
          · rw [told]
            split <;> simp [apart]
          · rw [same, Listener.under_append]
            split <;> simp [under, apart]
      | tells _ opens isOpen told left =>
          refine .tells ⟨opens, isOpen⟩ ?_ ?_
          · rw [told, Listener.count_labels]
          · rw [left, Listener.under_append, Listener.under_persistent]
      | quiet _ unkept silent same =>
          refine .quiet (fun keeps => unkept keeps.opens keeps.isOpen) ?_ fun running => ?_
          · rw [silent]
            rfl
          · rw [same running]

end Passes

/-! ## Before a listener is registered -/

/-- Nobody listens under a label, and nobody was told anything. -/
structure Vacant (label : String) (history : History) : Prop where
  audience : history.connection.stopped = false → under label history.endpoint.audience = []
  untold : history.trace.notices.count label = 0

section Vacant
variable {options : ConnectionOptions} {label : String}

theorem Vacant.extend {history : History} (vacant : Vacant label history)
    (orderly : Orderly history) {moment : Moment}
    (other : moment.happening.label? ≠ some label) : Vacant label (history.extend moment) := by
  have nobody (running : (history.extend moment).connection.stopped = false) :
      under label history.connection.listeners = [] ∧
        under label history.endpoint.unregistered = [] := by
    have empty := vacant.audience (running_of_extend running)
    rwa [Endpoint.audience, Listener.under_append, List.append_eq_nil_iff] at empty
  cases extend_passes orderly other with
  | tells keeps told left =>
      have running := keeps.running orderly
      obtain ⟨unheard, unread⟩ := nobody running
      refine ⟨fun _ => ?_, ?_⟩
      · rw [left, unheard, unread]
        rfl
      · rw [trace_deeds, Trace.notices_append, List.count_append, vacant.untold, told, unheard]
        rfl
  | quiet _ silent same =>
      refine ⟨fun running => ?_, ?_⟩
      · rw [same running]
        exact vacant.audience (running_of_extend running)
      · rw [trace_deeds, Trace.notices_append, List.count_append, vacant.untold, silent]

theorem unused_append {first second : List Moment} :
    Unused label (first ++ second) ↔ Unused label first ∧ Unused label second :=
  List.forall_mem_append

theorem unused_singleton {moment : Moment} :
    Unused label [moment] ↔ moment.happening.label? ≠ some label :=
  List.forall_mem_singleton

theorem vacant_run {moments : List Moment} (unused : Unused label moments) :
    Vacant label (run options moments) := by
  induction moments using List.reverseRecOn with
  | nil => exact ⟨fun _ => rfl, rfl⟩
  | append_singleton earlier moment ih =>
      obtain ⟨before, other⟩ := unused_append.1 unused
      rw [run_concat]
      exact (ih before).extend (orderly_run options earlier) (unused_singleton.1 other)

end Vacant

/-! ## After a listener is registered -/

/-- A listener is there, registered or still in the mailbox, unless it was told and only
listens once. -/
structure Enrolled (listener : Listener) (history : History) : Prop where
  place : history.connection.stopped = false →
    under listener.label history.endpoint.audience =
      if listener.once = true ∧ listener.label ∈ history.trace.notices then [] else [listener]
  most : listener.once = true → history.trace.notices.count listener.label ≤ 1

inductive Place (listener : Listener) (history : History) : Prop where
  | spent (once : listener.once = true) (told : listener.label ∈ history.trace.notices)
      (unlisted : under listener.label history.connection.listeners = [])
      (unread : under listener.label history.endpoint.unregistered = [])
  | waits (fresh : listener.once = true → listener.label ∉ history.trace.notices)
      (unlisted : under listener.label history.connection.listeners = [])
      (posted : under listener.label history.endpoint.unregistered = [listener])
  | listed (fresh : listener.once = true → listener.label ∉ history.trace.notices)
      (listed : under listener.label history.connection.listeners = [listener])
      (unread : under listener.label history.endpoint.unregistered = [])

section Enrolled
variable {listener : Listener} {history : History}

theorem Enrolled.placed (enrolled : Enrolled listener history)
    (running : history.connection.stopped = false) : Place listener history := by
  have place := enrolled.place running
  rw [Endpoint.audience, Listener.under_append] at place
  split at place
  · rename_i spent
    obtain ⟨unlisted, unread⟩ := List.append_eq_nil_iff.1 place
    exact .spent spent.1 spent.2 unlisted unread
  · rename_i unspent
    have fresh : listener.once = true → listener.label ∉ history.trace.notices :=
      fun once told => unspent ⟨once, told⟩
    rcases List.append_eq_singleton_iff.1 place with ⟨unlisted, posted⟩ | ⟨listed, unread⟩
    · exact .waits fresh unlisted posted
    · exact .listed fresh listed unread

theorem mem_under : listener ∈ under listener.label history.endpoint.unregistered ↔
    .listen listener ∈ history.endpoint.mailbox := by
  rw [← Endpoint.mem_unregistered]
  simp [under]

section Moment
variable {moment : Moment} (enrolled : Enrolled listener history) (orderly : Orderly history)
  (other : moment.happening.label? ≠ some listener.label)
include enrolled orderly other

theorem Enrolled.told_of_due (due : history.Due listener moment) :
    (history.deeds moment).notices.count listener.label = 1 := by
  have running := running_of_extend (due.toKeeps.running orderly)
  cases extend_passes orderly other with
  | tells _ told =>
      cases enrolled.placed running with
      | spent once alreadyTold => exact absurd alreadyTold (due.fresh once)
      | waits _ _ posted =>
          refine absurd (mem_under.1 ?_) due.registered
          rw [posted]
          exact List.mem_singleton_self listener
      | listed _ listed => rw [told, listed, List.length_singleton]
  | quiet unkept => exact absurd due.toKeeps unkept

theorem Enrolled.untold_of_undue (undue : ¬ history.Due listener moment) :
    (history.deeds moment).notices.count listener.label = 0 := by
  cases extend_passes orderly other with
  | tells keeps told =>
      cases enrolled.placed (running_of_extend (keeps.running orderly)) with
      | spent _ _ unlisted => rw [told, unlisted, List.length_nil]
      | waits _ unlisted => rw [told, unlisted, List.length_nil]
      | listed fresh _ unread =>
          refine absurd ⟨keeps, fun posted => ?_, fresh⟩ undue
          rw [← mem_under, unread] at posted
          cases posted
  | quiet _ silent => exact silent

theorem Enrolled.most_extend (once : listener.once = true) :
    (history.extend moment).trace.notices.count listener.label ≤ 1 := by
  have most := enrolled.most once
  rw [trace_deeds, Trace.notices_append, List.count_append]
  by_cases due : history.Due listener moment
  · have fresh := List.count_eq_zero.2 (due.fresh once)
    have told := enrolled.told_of_due orderly other due
    omega
  · have untold := enrolled.untold_of_undue orderly other due
    omega

theorem Enrolled.extend : Enrolled listener (history.extend moment) := by
  refine ⟨fun running => ?_, enrolled.most_extend orderly other⟩
  have placed := enrolled.placed (running_of_extend running)
  have mem_extend : listener.label ∈ (history.extend moment).trace.notices ↔
      listener.label ∈ history.trace.notices ∨
        0 < (history.deeds moment).notices.count listener.label := by
    rw [trace_deeds, Trace.notices_append, List.mem_append, List.count_pos_iff]
  cases extend_passes orderly other with
  | tells keeps told left =>
      rw [left]
      cases placed with
      | spent once alreadyTold unlisted unread =>
          rw [unlisted, unread, if_pos ⟨once, mem_extend.2 (Or.inl alreadyTold)⟩]
          rfl
      | waits fresh unlisted posted =>
          rw [unlisted] at told
          have still : ¬ (listener.once = true ∧
              listener.label ∈ (history.extend moment).trace.notices) := by
            rintro ⟨once, member⟩
            rcases mem_extend.1 member with before | now
            · exact fresh once before
            · simp [told] at now
          rw [unlisted, posted, if_neg still]
          rfl
      | listed fresh listed unread =>
          have member : listener.label ∈ (history.extend moment).trace.notices := by
            refine mem_extend.2 (Or.inr ?_)
            simp [told, listed]
          rw [listed, unread]
          cases once : listener.once <;> simp [once, member]
  | quiet _ silent same =>
      rw [same running, enrolled.place (running_of_extend running)]
      simp [mem_extend, silent]

end Moment

end Enrolled

/-! ## The call that registers a listener -/

section Call
variable {history : History} (orderly : Orderly history) (around : Surroundings)
  (listener : Listener) (immediately : Bool)
include orderly

theorem call_told :
    (history.deeds ⟨around, .listen listener.label listener.once immediately⟩).notices =
      if history.tellsInside immediately then [listener.label] else [] := by
  cases stopped : history.connection.stopped with
  | true =>
      have shut := (orderly.ending stopped).1
      rw [silent_of_stopped orderly stopped]
      simp [tellsInside, shut]
  | false =>
      cases extend_hears (orderly.parts stopped)
          ⟨around, .listen listener.label listener.once immediately⟩ with
      | asks label once wanted asked _ told =>
          cases asked
          exact told
      | tells unasked => cases unasked
      | quiet unasked => cases unasked

theorem Vacant.enroll (vacant : Vacant listener.label history) :
    Enrolled listener
      (history.extend ⟨around, .listen listener.label listener.once immediately⟩) := by
  have told := call_told orderly around listener immediately
  have untold := List.count_eq_zero.1 vacant.untold
  refine ⟨fun running => ?_, fun _ => ?_⟩
  · have before := running_of_extend running
    cases extend_hears (orderly.parts before)
        ⟨around, .listen listener.label listener.once immediately⟩ with
    | asks label once wanted asked _ _ same =>
        cases asked
        rw [same, Listener.under_append, vacant.audience before, trace_deeds,
          Trace.notices_append, told]
        -- a listener that only listens once is there or was told, and not both
        obtain ⟨label, once⟩ := listener
        cases history.tellsInside immediately <;> cases once <;> simp [under, untold]
    | tells unasked => cases unasked
    | quiet unasked => cases unasked
  · rw [trace_deeds, Trace.notices_append, List.count_append, vacant.untold, told]
    split <;> simp

end Call

/-! ## Over a run -/

/-- What a listener is told, when it is registered under a label that is given to no other.
Inside the call it is told if it asked for that and a socket is open. -/
structure Noticed (options : ConnectionOptions) (listener : Listener) (immediately : Bool)
    (earlier between : List Moment) (call : Moment) : Prop where
  inside : ((run options earlier).deeds call).notices =
    if (run options earlier).tellsInside immediately then [listener.label] else []
  due : ∀ moment, moment.happening.label? ≠ some listener.label →
    (run options (earlier ++ call :: between)).Due listener moment →
      ((run options (earlier ++ call :: between)).deeds moment).notices.count listener.label = 1
  undue : ∀ moment, moment.happening.label? ≠ some listener.label →
    ¬ (run options (earlier ++ call :: between)).Due listener moment →
      ((run options (earlier ++ call :: between)).deeds moment).notices.count listener.label = 0
  once : listener.once = true →
    (run options (earlier ++ call :: between)).trace.notices.count listener.label ≤ 1

section Run
variable (options : ConnectionOptions) (listener : Listener) (around : Surroundings)
  (immediately : Bool) {earlier between : List Moment}
  (unused : Unused listener.label (earlier ++ between))
include unused

theorem enrolled_run : Enrolled listener (run options
    (earlier ++ ⟨around, .listen listener.label listener.once immediately⟩ :: between)) := by
  obtain ⟨before, after⟩ := unused_append.1 unused
  clear unused
  induction between using List.reverseRecOn with
  | nil =>
      rw [run_concat]
      exact (vacant_run before).enroll (orderly_run options earlier) around listener immediately
  | append_singleton between moment ih =>
      obtain ⟨amid, other⟩ := unused_append.1 after
      rw [← List.cons_append, ← List.append_assoc, run_concat]
      exact (ih amid).extend (orderly_run options _) (unused_singleton.1 other)

/-- In every run a listener is told of what it is due, and of nothing else. -/
theorem run_noticed : Noticed options listener immediately earlier between
    ⟨around, .listen listener.label listener.once immediately⟩ := by
  have enrolled := enrolled_run options listener around immediately unused
  refine ⟨?_, ?_, ?_, ?_⟩
  · exact call_told (orderly_run options earlier) around listener immediately
  · intro moment other due
    exact enrolled.told_of_due (orderly_run options _) other due
  · intro moment other undue
    exact enrolled.untold_of_undue (orderly_run options _) other undue
  · exact enrolled.most

end Run

/-- The registration is in the mailbox when the socket is taken. -/
def lateListener : List Moment :=
  [.connect, .take, .listen "a" false false, .meet .opened].map
    fun happening => ⟨.timely 0 0 fun _ => true, happening⟩

theorem lateListener_noticed :
    Unused "a" (lateListener.take 2 ++ []) ∧
      Noticed {} ⟨"a", false⟩ false (lateListener.take 2) []
        ⟨.timely 0 0 fun _ => true, .listen "a" false false⟩ := by
  have unused : Unused "a" (lateListener.take 2 ++ []) := by
    simp [Unused, lateListener, Happening.label?]
  exact ⟨unused, run_noticed {} ⟨"a", false⟩ _ false unused⟩

/-- The socket is lost over the queue. -/
def lostQueue : List Moment :=
  [.listen "a" false false, .take, .send (.get "/tags"), .take, .meet .opened].map
    fun happening => ⟨.timely 0 0 fun _ => false, happening⟩

/-- Whoever listens is told once of every socket that is taken after the call. -/
def Punctual (options : ConnectionOptions) (moments : List Moment) : Prop :=
  ∀ earlier around label immediately between moment,
    moments = earlier ++ ⟨around, .listen label false immediately⟩ :: (between ++ [moment]) →
    Unused label (earlier ++ between ++ [moment]) →
    let before := run options (earlier ++ ⟨around, .listen label false immediately⟩ :: between)
    before.Opens moment → (before.deeds moment).notices.count label = 1

theorem lateListener_unpunctual : ¬ Punctual {} lateListener := by
  intro punctual
  have unused : Unused "a" (lateListener.take 2 ++ [] ++
      [⟨.timely 0 0 fun _ => true, .meet .opened⟩]) := by
    simp [Unused, lateListener, Happening.label?]
  have told := punctual (lateListener.take 2) _ "a" false [] _ rfl unused ⟨rfl, by decide⟩
  cases told

theorem lostQueue_unpunctual : ¬ Punctual {} lostQueue := by
  intro punctual
  have unused : Unused "a" ([] ++ (lostQueue.drop 1).take 3 ++
      [⟨.timely 0 0 fun _ => false, .meet .opened⟩]) := by
    simp [Unused, lostQueue, Happening.label?]
  have told := punctual [] _ "a" false ((lostQueue.drop 1).take 3) _ rfl unused ⟨rfl, by decide⟩
  cases told

end History

end BookmarkHub
