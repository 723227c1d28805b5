import BookmarkHub.Json.Record

/-!
# Values that are read back

A value that is handed from one side to the other without being a text is read
back as it is, if its objects stand in order all the way down.  A reader reads
a form back when it reads every value that was written in that form.
-/

set_option autoImplicit false

namespace BookmarkHub

namespace Table

universe u v

variable {Key : Type u} {Value : Type v} [Ord Key] [Std.TransOrd Key]

theorem insertEntry_last (key : Key) (value : Value) (entries : List (Key × Value))
    (above : ∀ entry ∈ entries, compare entry.1 key = .lt) :
    insertEntry key value entries = entries ++ [(key, value)] := by
  induction entries with
  | nil => rfl
  | cons head rest ih =>
      have below : compare key head.1 = .gt :=
        Std.OrientedCmp.gt_of_lt (above head (List.mem_cons_self ..))
      have inserted := ih fun entry member => above entry (List.mem_cons_of_mem _ member)
      simp only [insertEntry, below, inserted, List.cons_append]

end Table

namespace Json

/-! ## Values in order -/

mutual

/-- The names of every object in the value increase. -/
def IsOrdered : Json → Prop
  | .list items => AreOrdered items
  | .record members => KeysIncrease members ∧ HoldOrdered members
  | _ => True

def AreOrdered : List Json → Prop
  | [] => True
  | item :: rest => item.IsOrdered ∧ AreOrdered rest

def HoldOrdered : List (String × Json) → Prop
  | [] => True
  | (_, value) :: rest => value.IsOrdered ∧ HoldOrdered rest

end

theorem areOrdered_iff {items : List Json} :
    AreOrdered items ↔ ∀ item ∈ items, item.IsOrdered := by
  induction items with
  | nil => simp [AreOrdered]
  | cons item rest ih => simp [AreOrdered, ih]

theorem ofTexts_ordered (texts : List String) : (ofTexts texts).IsOrdered := by
  refine areOrdered_iff.2 fun item member => ?_
  obtain ⟨text, _, rfl⟩ := List.mem_map.1 member
  trivial

/-! ## Nesting -/

mutual

def depth : Json → Nat
  | .list items => itemDepth items + 1
  | .record members => memberDepth members + 1
  | _ => 0

def itemDepth : List Json → Nat
  | [] => 0
  | item :: rest => max item.depth (itemDepth rest)

def memberDepth : List (String × Json) → Nat
  | [] => 0
  | (_, value) :: rest => max value.depth (memberDepth rest)

end

def Origin.Allows : Origin → Nat → Prop
  | .text room, levels => levels ≤ room
  | _, _ => True

def Origin.IsRoomy (origin : Origin) : Prop := origin.enter = .ok origin

theorem Origin.IsRoomy.enter {origin : Origin} (roomy : origin.IsRoomy) :
    origin.enter = .ok origin := roomy

theorem Origin.IsRoomy.allows {origin : Origin} (roomy : origin.IsRoomy) (levels : Nat) :
    origin.Allows levels := by
  match origin with
  | .value | .frame => trivial
  | .text 0 => cases roomy
  | .text (room + 1) =>
      cases roomy

theorem Origin.Allows.enter {origin : Origin} {levels : Nat}
    (allows : origin.Allows (levels + 1)) :
    ∃ inner, origin.enter = .ok inner ∧ inner.Allows levels := by
  match origin with
  | .value | .frame => exact ⟨_, rfl, trivial⟩
  | .text 0 => exact absurd allows (Nat.not_succ_le_zero levels)
  | .text (room + 1) => exact ⟨_, rfl, Nat.le_of_succ_le_succ allows⟩

theorem Origin.Allows.of_enter {origin inner : Origin} {levels : Nat}
    (entered : origin.enter = .ok inner) (allows : inner.Allows levels) :
    origin.Allows (levels + 1) := by
  match origin with
  | .value | .frame => trivial
  | .text 0 => cases entered
  | .text (room + 1) =>
      cases entered
      exact Nat.succ_le_succ allows

theorem Origin.Allows.mono {origin : Origin} {levels more : Nat} (allows : origin.Allows more)
    (fewer : levels ≤ more) : origin.Allows levels := by
  match origin with
  | .value | .frame => trivial
  | .text room => exact Nat.le_trans fewer allows

/-! ## Reading values back -/

mutual

/-- A value in order is read back where it may nest as deep as it does. -/
theorem readJson_of_allows {origin : Origin} (value : Json) (ordered : value.IsOrdered)
    (allows : origin.Allows value.depth) :
    readJson origin (Document.ofJson value) = .ok value := by
  match value with
  | .null | .bool _ | .number _ | .text _ => rfl
  | .list items =>
      obtain ⟨inner, entered, allowed⟩ := Origin.Allows.enter allows
      have read := readJsonItems_of_allows items ordered allowed
      simp only [Document.ofJson, readJson, entered, bind, Except.bind, read]
      rfl
  | .record members =>
      obtain ⟨inner, entered, allowed⟩ := Origin.Allows.enter allows
      obtain ⟨table, read, same⟩ :=
        readJsonMembers_of_allows Table.empty members ordered.1 ordered.2 allowed
      simp only [Document.ofJson, readJson, entered, bind, Except.bind, read, Ending.check,
        object, same]
      rfl

theorem readJsonItems_of_allows {origin : Origin} (items : List Json)
    (ordered : AreOrdered items) (allows : origin.Allows (itemDepth items)) :
    readJsonItems origin (Document.ofItems items) = .ok items := by
  match items with
  | [] => rfl
  | item :: rest =>
      have first := readJson_of_allows item ordered.1 (allows.mono (Nat.le_max_left ..))
      have others := readJsonItems_of_allows rest ordered.2 (allows.mono (Nat.le_max_right ..))
      simp only [Document.ofItems, readJsonItems, first, others]
      rfl

theorem readJsonMembers_of_allows {origin : Origin} (held : Table String Json)
    (members : List (String × Json)) (increase : KeysIncrease (held.entries ++ members))
    (ordered : HoldOrdered members) (allows : origin.Allows (memberDepth members)) :
    ∃ table, readJsonMembers origin held (Document.ofMembers members) = .ok table ∧
      table.entries = held.entries ++ members := by
  match members with
  | [] => exact ⟨held, rfl, (List.append_nil _).symm⟩
  | (name, value) :: rest =>
      have first := readJson_of_allows value ordered.1 (allows.mono (Nat.le_max_left ..))
      have last : (held.insert name value).entries = held.entries ++ [(name, value)] :=
        Table.insertEntry_last name value held.entries fun entry member =>
          (List.pairwise_append.1 increase).2.2 entry member _ (List.mem_cons_self ..)
      have later : KeysIncrease ((held.insert name value).entries ++ rest) := by
        rwa [last, List.append_assoc]
      obtain ⟨table, read, same⟩ := readJsonMembers_of_allows (held.insert name value) rest later
        ordered.2 (allows.mono (Nat.le_max_right ..))
      refine ⟨table, ?_, by rw [same, last, List.append_assoc]; rfl⟩
      simp only [Document.ofMembers, readJsonMembers, first]
      exact read

end

theorem readJson_ofJson {origin : Origin} (roomy : origin.IsRoomy) (value : Json)
    (ordered : value.IsOrdered) :
    readJson origin (Document.ofJson value) = .ok value :=
  readJson_of_allows value ordered (roomy.allows _)

/-! ## Forms that are read back -/

/-- The reader reads whatever is written in the form. -/
def ReadsBack {Value : Type} (read : Reader Value) (write : Value → Json) : Prop :=
  ∀ origin value, origin.IsRoomy → read origin (Document.ofJson (write value)) = .ok value

theorem readText_back : ReadsBack readText .text := fun _ _ _ => rfl

theorem readBool_back : ReadsBack readBool .bool := fun _ _ _ => rfl

theorem readBelow_ofNat {bound value : Nat} (small : value < bound) (title : String)
    (origin : Origin) :
    readBelow bound title origin (Document.ofJson (ofNat value)) = .ok value := by
  have inRange : (0 : Int) ≤ value ∧ (value : Int) < bound :=
    ⟨Int.natCast_nonneg _, Int.ofNat_lt.2 small⟩
  simp only [ofNat, Document.ofJson, readBelow, if_pos inRange]
  rfl

theorem readWord64_ofWord (origin : Origin) (word : UInt64) :
    readWord64 origin (Document.ofJson (ofWord word)) = .ok word := by
  have read : readBelow UInt64.size "u64" origin (Document.ofJson (ofWord word)) =
    .ok word.toNat := readBelow_ofNat word.toNat_lt_size "u64" origin
  rw [readWord64, read, Except.map, UInt64.ofNat_toNat]

theorem readWord32_ofNat (origin : Origin) (word : UInt32) :
    readWord32 origin (Document.ofJson (ofNat word.toNat)) = .ok word := by
  have read := readBelow_ofNat word.toNat_lt_size "u32" origin
  rw [readWord32, read, Except.map, UInt32.ofNat_toNat]

theorem readWord16_ofNat (origin : Origin) (word : UInt16) :
    readWord16 origin (Document.ofJson (ofNat word.toNat)) = .ok word := by
  have read := readBelow_ofNat word.toNat_lt_size "u16" origin
  rw [readWord16, read, Except.map, UInt16.ofNat_toNat]

theorem readWord64_back : ReadsBack readWord64 ofWord := fun origin word _ =>
  readWord64_ofWord origin word

section Lists
variable {Value : Type} {read : Reader Value} {write : Value → Json} {origin : Origin}

theorem readItems_back {values : List Value}
    (each : ∀ value ∈ values, read origin (Document.ofJson (write value)) = .ok value) :
    readItems read origin (Document.ofItems (values.map write)) = .ok values := by
  induction values with
  | nil => rfl
  | cons value rest ih =>
      have first := each value (List.mem_cons_self ..)
      have others := ih fun other member => each other (List.mem_cons_of_mem _ member)
      simp only [List.map_cons, Document.ofItems, readItems, first, others]
      rfl

theorem readList_of_items (roomy : origin.IsRoomy) {items : List Json} {values : List Value}
    (reads : readItems read origin (Document.ofItems items) = .ok values) :
    readList read origin (Document.ofJson (.list items)) = .ok values := by
  simp only [Document.ofJson, readList, roomy.enter, bind, Except.bind, reads]
  rfl

theorem readList_back (back : ReadsBack read write) :
    ReadsBack (readList read) fun values => .list (values.map write) :=
  fun origin _ roomy => readList_of_items roomy (readItems_back fun value _ =>
    back origin value roomy)

theorem readJsons_back (roomy : origin.IsRoomy) {items : List Json} (ordered : AreOrdered items) :
    readList readJson origin (Document.ofJson (.list items)) = .ok items := by
  have each : ∀ item ∈ items, readJson origin (Document.ofJson (id item)) = .ok item :=
    fun item member => readJson_ofJson roomy item (areOrdered_iff.1 ordered item member)
  have reads := readItems_back each
  rw [List.map_id] at reads
  exact readList_of_items roomy reads

end Lists

theorem readTexts_back : ReadsBack (readList readText) ofTexts := readList_back readText_back

theorem readOption_back {Value : Type} {read : Reader Value} {write : Value → Json}
    (back : ReadsBack read write) (solid : ∀ value, Document.ofJson (write value) ≠ .null) :
    ReadsBack (readOption read) (ofOption write) := by
  intro origin option roomy
  cases option with
  | none => rfl
  | some value =>
      have reads := back origin value roomy
      simp only [ofOption, readOption]
      split
      · rename_i null
        exact absurd null (solid value)
      · rw [reads]
        rfl

theorem ofValue_back {Value : Type} {read : Reader Value} {write : Value → Json}
    (back : ReadsBack read write) (value : Value) : ofValue read (write value) = .ok value :=
  back .value value rfl

end Json

end BookmarkHub
