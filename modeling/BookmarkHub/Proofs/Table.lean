import BookmarkHub.Table
import Mathlib.Data.List.Perm.Basic

/-!
# The values of a table

An insertion under a fresh key adds one value, and an erasure takes away the
value that the key had; so erasing what was just inserted takes the insertion
back.
-/

set_option autoImplicit false

namespace BookmarkHub.Table

universe u v

variable {Key : Type u} {Value : Type v} [Ord Key] [Std.TransOrd Key]

omit [Std.TransOrd Key] in
theorem insertEntry_perm (key : Key) (value : Value) (entries : List (Key × Value))
    (fresh : findEntry key entries = none) :
    (insertEntry key value entries).Perm ((key, value) :: entries) := by
  induction entries with
  | nil => rfl
  | cons head rest ih =>
      obtain ⟨other, held⟩ := head
      simp only [findEntry] at fresh
      split at fresh
      · cases fresh
      · rename_i apart
        simp only [insertEntry]
        split
        · rfl
        · rename_i same
          exact absurd same apart
        · exact ((ih fresh).cons (other, held)).trans (List.Perm.swap ..)

omit [Std.TransOrd Key] in
theorem findEntry_mem (key : Key) (value : Value) (entries : List (Key × Value))
    (found : findEntry key entries = some value) :
    ∃ other, compare key other = .eq ∧ (other, value) ∈ entries := by
  induction entries with
  | nil => cases found
  | cons head rest ih =>
      obtain ⟨other, held⟩ := head
      simp only [findEntry] at found
      split at found
      · rename_i same
        cases found
        exact ⟨other, same, List.mem_cons_self ..⟩
      · obtain ⟨there, same, member⟩ := ih found
        exact ⟨there, same, List.mem_cons_of_mem _ member⟩

theorem findEntry_of_mem (key : Key) (value : Value) (entries : List (Key × Value))
    (increasing : KeysIncrease entries) (member : (key, value) ∈ entries) :
    findEntry key entries = some value := by
  induction entries with
  | nil => cases member
  | cons head rest ih =>
      obtain ⟨other, held⟩ := head
      have later := List.pairwise_cons.1 increasing
      rcases List.mem_cons.1 member with same | inRest
      · cases same
        simp [findEntry, Std.ReflCmp.compare_self]
      · have apart : compare key other ≠ .eq := by
          intro same
          have below : compare other key = .lt := later.1 _ inRest
          rw [Std.OrientedCmp.eq_comm.1 same] at below
          cases below
        rw [findEntry, if_neg apart]
        exact ih later.2 inRest

omit [Std.TransOrd Key] in
theorem eraseEntry_cons (key other : Key) (held : Value) (rest : List (Key × Value))
    (apart : compare key other ≠ .eq) :
    eraseEntry key ((other, held) :: rest) = (other, held) :: eraseEntry key rest :=
  List.filter_cons_of_pos (by simpa using apart)

theorem eraseEntry_perm (key : Key) (value : Value) (entries : List (Key × Value))
    (increasing : KeysIncrease entries) (found : findEntry key entries = some value) :
    (entries.map Prod.snd).Perm (value :: (eraseEntry key entries).map Prod.snd) := by
  induction entries with
  | nil => cases found
  | cons head rest ih =>
      obtain ⟨other, held⟩ := head
      have later := List.pairwise_cons.1 increasing
      simp only [findEntry] at found
      split at found
      · rename_i same
        cases found
        have kept : eraseEntry key rest = rest := by
          refine List.filter_eq_self.2 fun entry member => ?_
          have below : compare key entry.1 = .lt :=
            Std.TransCmp.lt_of_eq_of_lt same (later.1 entry member)
          simp [below]
        have dropped : eraseEntry key ((other, value) :: rest) = rest := by
          rw [eraseEntry, List.filter_cons_of_neg (by simp [same])]
          exact kept
        rw [dropped, List.map_cons]
      · rename_i apart
        rw [eraseEntry_cons key other held rest apart]
        exact ((ih later.2 found).cons held).trans (List.Perm.swap ..)

omit [Std.TransOrd Key] in
theorem eraseEntry_of_absent (key : Key) (entries : List (Key × Value))
    (absent : findEntry key entries = none) : eraseEntry key entries = entries := by
  induction entries with
  | nil => rfl
  | cons head rest ih =>
      obtain ⟨other, held⟩ := head
      simp only [findEntry] at absent
      split at absent
      · cases absent
      · rename_i apart
        rw [eraseEntry_cons key other held rest apart, ih absent]

theorem eraseEntry_insertEntry (key : Key) (value : Value) (entries : List (Key × Value))
    (absent : findEntry key entries = none) :
    eraseEntry key (insertEntry key value entries) = entries := by
  induction entries with
  | nil => simp [insertEntry, eraseEntry]
  | cons head rest ih =>
      obtain ⟨other, held⟩ := head
      have kept := eraseEntry_of_absent key _ absent
      simp only [findEntry] at absent
      split at absent
      · cases absent
      · rename_i apart
        simp only [insertEntry]
        split
        · rw [eraseEntry, List.filter_cons_of_neg (by simp)]
          exact kept
        · rename_i here
          exact absurd here apart
        · rw [eraseEntry_cons key other held _ apart, ih absent]

omit [Std.TransOrd Key] in
theorem erase_of_absent {table : Table Key Value} {key : Key}
    (absent : table.find? key = none) : table.erase key = table :=
  Table.ext (eraseEntry_of_absent key table.entries absent)

theorem erase_insert_of_absent {table : Table Key Value} {key : Key} (value : Value)
    (absent : table.find? key = none) : (table.insert key value).erase key = table :=
  Table.ext (eraseEntry_insertEntry key value table.entries absent)

theorem values_insert_perm (table : Table Key Value) (key : Key) (value : Value)
    (fresh : table.find? key = none) :
    (table.insert key value).values.Perm (value :: table.values) :=
  (insertEntry_perm key value table.entries fresh).map Prod.snd

theorem values_erase_perm (table : Table Key Value) (key : Key) (value : Value)
    (found : table.find? key = some value) :
    table.values.Perm (value :: (table.erase key).values) :=
  eraseEntry_perm key value table.entries table.increasing found

omit [Std.TransOrd Key] in
theorem mem_values_of_find? {table : Table Key Value} {key : Key} {value : Value}
    (found : table.find? key = some value) : value ∈ table.values := by
  obtain ⟨other, _, member⟩ := findEntry_mem key value table.entries found
  exact List.mem_map_of_mem member

theorem find?_of_mem_values {table : Table Key Value} {value : Value}
    (member : value ∈ table.values) : ∃ key, table.find? key = some value := by
  obtain ⟨entry, there, rfl⟩ := List.mem_map.1 member
  exact ⟨entry.1, findEntry_of_mem _ _ _ table.increasing there⟩

theorem values_nodup (table : Table Key Value)
    (single : ∀ key other value, table.find? key = some value → table.find? other = some value →
      key = other) : table.values.Nodup := by
  rw [values, List.Nodup, List.pairwise_map]
  refine table.increasing.imp_of_mem fun {first second} here there below same => ?_
  have found := findEntry_of_mem first.1 first.2 table.entries table.increasing here
  have alsoFound := findEntry_of_mem second.1 second.2 table.entries table.increasing there
  rw [← same] at alsoFound
  have equal : compare second.1 second.1 = .eq := Std.ReflCmp.compare_self
  rw [single _ _ _ found alsoFound, equal] at below
  cases below

omit [Std.TransOrd Key] in
@[simp] theorem values_empty : (empty : Table Key Value).values = [] := rfl

omit [Std.TransOrd Key] in
theorem size_eq_length_values (table : Table Key Value) : table.size = table.values.length :=
  (List.length_map Prod.snd).symm

end BookmarkHub.Table
