import BookmarkHub.Proofs.Json.Values

/-!
# What is read from a document

Whatever value a document is read as, its objects stand in order, it is no deeper
than its origin allows, and it has no number that the document has not.
-/

set_option autoImplicit false

namespace BookmarkHub

theorem ok_of_bind {Error First Second : Type} {first : Except Error First}
    {next : First → Except Error Second} {result : Second} (done : (first >>= next) = .ok result) :
    ∃ value, first = .ok value ∧ next value = .ok result := by
  cases first with
  | error error => cases done
  | ok value => exact ⟨value, rfl, done⟩

@[simp] theorem mapError_ok {First Second Value : Type} (change : First → Second) (value : Value) :
    (Except.ok value : Except First Value).mapError change = .ok value := rfl

@[simp] theorem mapError_error {First Second Value : Type} (change : First → Second)
    (error : First) :
    (Except.error error : Except First Value).mapError change = .error (change error) := rfl

theorem ok_of_mapError {First Second Value : Type} {change : First → Second}
    {attempt : Except First Value} {value : Value} (done : attempt.mapError change = .ok value) :
    attempt = .ok value := by
  cases attempt with
  | error error => cases done
  | ok other =>
      cases done
      rfl

namespace Json

/-! ## Numbers -/

mutual

def numbers : Json → List Number
  | .number value => [value]
  | .list items => itemNumbers items
  | .record members => memberNumbers members
  | _ => []

def itemNumbers : List Json → List Number
  | [] => []
  | item :: rest => item.numbers ++ itemNumbers rest

def memberNumbers : List (String × Json) → List Number
  | [] => []
  | (_, value) :: rest => value.numbers ++ memberNumbers rest

end

namespace Document

mutual

def numbers : Document → List Number
  | .number value => value.toList
  | .list items _ => itemNumbers items
  | .record members _ => memberNumbers members
  | _ => []

def itemNumbers : List Document → List Number
  | [] => []
  | item :: rest => item.numbers ++ itemNumbers rest

def memberNumbers : List (Option String × Document) → List Number
  | [] => []
  | (_, value) :: rest => value.numbers ++ memberNumbers rest

end

end Document

theorem itemNumbers_subset {items : List Json} {numbers : List Number} :
    itemNumbers items ⊆ numbers ↔ ∀ item ∈ items, item.numbers ⊆ numbers := by
  induction items with
  | nil => simp [itemNumbers]
  | cons item rest ih => simp [itemNumbers, ih]

theorem memberNumbers_subset {members : List (String × Json)} {numbers : List Number} :
    memberNumbers members ⊆ numbers ↔ ∀ entry ∈ members, entry.2.numbers ⊆ numbers := by
  induction members with
  | nil => simp [memberNumbers]
  | cons entry rest ih => simp [memberNumbers, ih]

theorem holdOrdered_iff {members : List (String × Json)} :
    HoldOrdered members ↔ ∀ entry ∈ members, entry.2.IsOrdered := by
  induction members with
  | nil => simp [HoldOrdered]
  | cons entry rest ih => simp [HoldOrdered, ih]

/-! ## Depths -/

theorem Origin.allows_max {origin : Origin} {first second : Nat} :
    origin.Allows (max first second) ↔ origin.Allows first ∧ origin.Allows second := by
  cases origin with
  | text room => exact Nat.max_le
  | value | frame => simp [Origin.Allows]

theorem Origin.allows_itemDepth {origin : Origin} {items : List Json}
    (each : ∀ item ∈ items, origin.Allows item.depth) : origin.Allows (itemDepth items) := by
  induction items with
  | nil => cases origin <;> simp [itemDepth, Origin.Allows]
  | cons item rest ih =>
      simp only [List.forall_mem_cons] at each
      exact Origin.allows_max.2 ⟨each.1, ih each.2⟩

theorem Origin.allows_memberDepth {origin : Origin} {members : List (String × Json)}
    (each : ∀ entry ∈ members, origin.Allows entry.2.depth) :
    origin.Allows (memberDepth members) := by
  induction members with
  | nil => cases origin <;> simp [memberDepth, Origin.Allows]
  | cons entry rest ih =>
      simp only [List.forall_mem_cons] at each
      exact Origin.allows_max.2 ⟨each.1, ih each.2⟩

theorem depth_le_memberDepth {members : List (String × Json)} {entry : String × Json}
    (member : entry ∈ members) : entry.2.depth ≤ memberDepth members := by
  induction members with
  | nil => cases member
  | cons head rest ih =>
      rcases List.mem_cons.1 member with rfl | later
      · exact Nat.le_max_left ..
      · exact Nat.le_trans (ih later) (Nat.le_max_right ..)

/-! ## Free-form values -/

/-- A value as it can be read where so many levels may be opened and these numbers stand. -/
structure IsReadable (origin : Origin) (numbers : List Number) (value : Json) : Prop where
  ordered : value.IsOrdered
  allowed : origin.Allows value.depth
  among : value.numbers ⊆ numbers

theorem IsReadable.mono {origin : Origin} {numbers more : List Number} {value : Json}
    (readable : IsReadable origin numbers value) (fewer : numbers ⊆ more) :
    IsReadable origin more value :=
  ⟨readable.ordered, readable.allowed, List.Subset.trans readable.among fewer⟩

section Nested
variable {origin inner : Origin} (entered : origin.enter = .ok inner) {numbers : List Number}
include entered

theorem readable_list {items : List Json} (each : ∀ item ∈ items, IsReadable inner numbers item) :
    IsReadable origin numbers (.list items) where
  ordered := areOrdered_iff.2 fun item member => (each item member).ordered
  allowed := Origin.Allows.of_enter entered
    (Origin.allows_itemDepth fun item member => (each item member).allowed)
  among := itemNumbers_subset.2 fun item member => (each item member).among

theorem readable_object {table : Table String Json}
    (each : ∀ entry ∈ table.entries, IsReadable inner numbers entry.2) :
    IsReadable origin numbers (.object table) where
  ordered := ⟨table.increasing, holdOrdered_iff.2 fun entry member => (each entry member).ordered⟩
  allowed := Origin.Allows.of_enter entered
    (Origin.allows_memberDepth fun entry member => (each entry member).allowed)
  among := memberNumbers_subset.2 fun entry member => (each entry member).among

end Nested

mutual

theorem readJson_readable {origin : Origin} (document : Document) {value : Json}
    (read : readJson origin document = .ok value) : IsReadable origin document.numbers value := by
  have flat : origin.Allows 0 := by cases origin <;> simp [Origin.Allows]
  match document with
  | .null | .bool _ | .text (some _) =>
      cases read
      exact ⟨trivial, flat, List.nil_subset _⟩
  | .number (some whole) =>
      cases read
      exact ⟨trivial, flat, List.Subset.refl _⟩
  | .list items ending =>
      rw [readJson] at read
      obtain ⟨inner, entered, read⟩ := ok_of_bind read
      obtain ⟨values, all, read⟩ := ok_of_bind read
      obtain ⟨_, _, done⟩ := ok_of_bind read
      cases done
      exact readable_list entered (readJsonItems_readable items all)
  | .record members ending =>
      rw [readJson] at read
      obtain ⟨inner, entered, read⟩ := ok_of_bind read
      obtain ⟨table, all, read⟩ := ok_of_bind read
      obtain ⟨_, _, done⟩ := ok_of_bind read
      cases done
      exact readable_object entered
        (readJsonMembers_readable Table.empty members all (List.Subset.refl _)
          (by simp [Table.empty]))
  | .number none | .text none | .cutText _ _ | .stray _ _ | .absent =>
      rw [readJson] at read
      cases read

theorem readJsonItems_readable {origin : Origin} (items : List Document) {values : List Json}
    (read : readJsonItems origin items = .ok values) :
    ∀ value ∈ values, IsReadable origin (Document.itemNumbers items) value := by
  match items with
  | [] =>
      cases read
      simp
  | item :: rest =>
      rw [readJsonItems] at read
      obtain ⟨value, first, read⟩ := ok_of_bind read
      obtain ⟨others, later, done⟩ := ok_of_bind read
      cases done
      refine List.forall_mem_cons.2 ⟨?_, fun other member => ?_⟩
      · exact (readJson_readable item first).mono (List.subset_append_left _ _)
      · exact (readJsonItems_readable rest later other member).mono (List.subset_append_right _ _)

theorem readJsonMembers_readable {origin : Origin} (held : Table String Json)
    (members : List (Option String × Document)) {table : Table String Json}
    (read : readJsonMembers origin held members = .ok table) {numbers : List Number}
    (fewer : Document.memberNumbers members ⊆ numbers)
    (before : ∀ entry ∈ held.entries, IsReadable origin numbers entry.2) :
    ∀ entry ∈ table.entries, IsReadable origin numbers entry.2 := by
  match members with
  | [] =>
      cases read
      exact before
  | (none, _) :: _ => cases read
  | (some name, document) :: rest =>
      rw [readJsonMembers] at read
      obtain ⟨value, first, later⟩ := ok_of_bind read
      rw [Document.memberNumbers, List.append_subset] at fewer
      refine readJsonMembers_readable _ rest later fewer.2 fun entry member => ?_
      rcases Table.mem_insertEntry member with rfl | old
      · exact (readJson_readable document first).mono fewer.1
      · exact before entry old

end

/-! ## Values that may be left out -/

/-- A value that is there: null stands for none. -/
def present? : Json → Option Json
  | .null => none
  | value => some value

theorem present?_of_ne {value : Json} (present : value ≠ .null) : value.present? = some value := by
  cases value with
  | null => exact absurd rfl present
  | _ => rfl

theorem readOption_present? {origin : Origin} {value : Json}
    (read : readJson origin (Document.ofJson value) = .ok value) :
    readOption readJson origin (Document.ofJson value) = .ok value.present? := by
  cases value with
  | null => rfl
  | bool | number | text => rfl
  | list items | record members =>
      show (readJson origin (Document.ofJson _)).map some = _
      rw [read]
      rfl

theorem null_of_readJson {origin : Origin} {document : Document}
    (read : readJson origin document = .ok .null) : document = .null := by
  cases document with
  | null => rfl
  | bool | cutText | stray | absent => cases read
  | number value | text value => cases value <;> cases read
  | list items ending =>
      rw [readJson] at read
      obtain ⟨_, _, read⟩ := ok_of_bind read
      obtain ⟨_, _, read⟩ := ok_of_bind read
      obtain ⟨_, _, done⟩ := ok_of_bind read
      cases done
  | record members ending =>
      rw [readJson] at read
      obtain ⟨_, _, read⟩ := ok_of_bind read
      obtain ⟨_, _, read⟩ := ok_of_bind read
      obtain ⟨_, _, done⟩ := ok_of_bind read
      cases done

theorem readJson_of_option {origin : Origin} {document : Document} {value : Json}
    (read : readOption readJson origin document = .ok (some value)) :
    readJson origin document = .ok value ∧ value ≠ .null := by
  unfold readOption at read
  split at read
  · cases read
  · rename_i present
    cases found : readJson origin document with
    | error wrong =>
        rw [found] at read
        cases read
    | ok other =>
        rw [found] at read
        cases read
        refine ⟨rfl, ?_⟩
        rintro rfl
        exact present (null_of_readJson found)

end Json

end BookmarkHub
