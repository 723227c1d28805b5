/-!
# Finite tables

A `Table` is a finite map whose entries stand in strictly increasing key
order.  The order is part of the type, so two tables with the same entries
are equal and listing a table needs no sorting.
-/

set_option autoImplicit false

namespace BookmarkHub

universe u v

/-- Entries whose keys strictly increase. -/
def KeysIncrease {Key : Type u} {Value : Type v} [Ord Key]
    (entries : List (Key × Value)) : Prop :=
  entries.Pairwise fun first second => compare first.1 second.1 = .lt

/-- A finite map, listed in strictly increasing key order. -/
structure Table (Key : Type u) (Value : Type v) [Ord Key] where
  entries : List (Key × Value)
  increasing : KeysIncrease entries

namespace Table

section Entries

variable {Key : Type u} {Value : Type v} [Ord Key]

/-- Puts a value under a key, replacing the value the key had. -/
def insertEntry (key : Key) (value : Value) :
    List (Key × Value) → List (Key × Value)
  | [] => [(key, value)]
  | (other, held) :: rest =>
      match compare key other with
      | .lt => (key, value) :: (other, held) :: rest
      | .eq => (key, value) :: rest
      | .gt => (other, held) :: insertEntry key value rest

def eraseEntry (key : Key) (entries : List (Key × Value)) :
    List (Key × Value) :=
  entries.filter fun entry => compare key entry.1 != .eq

def findEntry (key : Key) : List (Key × Value) → Option Value
  | [] => none
  | (other, held) :: rest =>
      if compare key other = .eq then some held else findEntry key rest

theorem mem_insertEntry {key : Key} {value : Value}
    {entries : List (Key × Value)} {entry : Key × Value}
    (member : entry ∈ insertEntry key value entries) :
    entry = (key, value) ∨ entry ∈ entries := by
  induction entries with
  | nil => simpa [insertEntry] using member
  | cons head rest ih =>
      obtain ⟨other, held⟩ := head
      simp only [insertEntry] at member
      split at member
      · simpa using member
      · rcases List.mem_cons.1 member with same | inRest
        · exact .inl same
        · exact .inr (List.mem_cons_of_mem _ inRest)
      · rcases List.mem_cons.1 member with same | inRest
        · exact .inr (by simp [same])
        · rcases ih inRest with same | old
          · exact .inl same
          · exact .inr (List.mem_cons_of_mem _ old)

theorem keysIncrease_insertEntry [Std.TransOrd Key] (key : Key) (value : Value)
    {entries : List (Key × Value)} (increasing : KeysIncrease entries) :
    KeysIncrease (insertEntry key value entries) := by
  induction entries with
  | nil => simp [insertEntry, KeysIncrease]
  | cons head rest ih =>
      obtain ⟨other, held⟩ := head
      have later := List.pairwise_cons.1 increasing
      simp only [insertEntry]
      split
      next below =>
        refine List.pairwise_cons.2 ⟨fun entry member => ?_, increasing⟩
        rcases List.mem_cons.1 member with same | inRest
        · simpa [same] using below
        · exact Std.TransCmp.lt_trans below (later.1 entry inRest)
      next same =>
        refine List.pairwise_cons.2 ⟨fun entry member => ?_, later.2⟩
        exact Std.TransCmp.lt_of_eq_of_lt same (later.1 entry member)
      next above =>
        refine List.pairwise_cons.2 ⟨fun entry member => ?_, ih later.2⟩
        rcases mem_insertEntry member with same | old
        · simpa [same] using Std.OrientedCmp.lt_of_gt above
        · exact later.1 entry old

theorem keysIncrease_eraseEntry (key : Key) {entries : List (Key × Value)}
    (increasing : KeysIncrease entries) : KeysIncrease (eraseEntry key entries) :=
  List.Pairwise.filter _ increasing

/-- After an insertion the new key has the new value, and every other key what
it had. -/
theorem findEntry_insertEntry [Std.TransOrd Key] (key other : Key) (value : Value)
    (entries : List (Key × Value)) :
    findEntry other (insertEntry key value entries) =
      if compare other key = .eq then some value else findEntry other entries := by
  induction entries with
  | nil => rfl
  | cons head rest ih =>
      obtain ⟨there, held⟩ := head
      simp only [insertEntry]
      split
      next => rfl
      next same =>
        have agree : compare other key = compare other there :=
          Std.TransCmp.congr_right same
        simp only [findEntry, agree]
        split <;> rfl
      next above =>
        simp only [findEntry, ih]
        split
        next here =>
          have apart : compare other key = .lt :=
            Std.TransCmp.lt_of_eq_of_lt here (Std.OrientedCmp.lt_of_gt above)
          simp [apart]
        next => rfl

/-- After an erasure the key has no value, and every other key what it had. -/
theorem findEntry_eraseEntry [Std.TransOrd Key] (key other : Key)
    (entries : List (Key × Value)) :
    findEntry other (eraseEntry key entries) =
      if compare other key = .eq then none else findEntry other entries := by
  induction entries with
  | nil => simp [eraseEntry, findEntry]
  | cons head rest ih =>
      obtain ⟨there, held⟩ := head
      simp only [eraseEntry] at ih
      simp only [eraseEntry, List.filter_cons, findEntry]
      by_cases same : compare key there = .eq
      · have agree : compare other key = compare other there :=
          Std.TransCmp.congr_right same
        rw [if_neg (by simp [same]), ih, agree]
        split <;> rfl
      · rw [if_pos (by simp [same]), findEntry, ih]
        by_cases here : compare other there = .eq
        · have apart : compare other key ≠ .eq := fun equal =>
            same (Std.TransCmp.eq_trans (Std.OrientedCmp.eq_symm equal) here)
          simp [here, apart]
        · simp [here]

end Entries

variable {Key : Type u} {Value : Type v} [Ord Key]

@[ext] theorem ext {first second : Table Key Value}
    (same : first.entries = second.entries) : first = second := by
  cases first
  cases second
  cases same
  rfl

instance [DecidableEq Key] [DecidableEq Value] : DecidableEq (Table Key Value) :=
  fun _ _ => decidable_of_iff _ Table.ext_iff.symm

def empty : Table Key Value := ⟨[], List.Pairwise.nil⟩

instance : Inhabited (Table Key Value) := ⟨empty⟩

def size (table : Table Key Value) : Nat := table.entries.length

def isEmpty (table : Table Key Value) : Bool := table.entries.isEmpty

def find? (table : Table Key Value) (key : Key) : Option Value :=
  findEntry key table.entries

def contains (table : Table Key Value) (key : Key) : Bool :=
  (table.find? key).isSome

def insert [Std.TransOrd Key] (table : Table Key Value) (key : Key) (value : Value) :
    Table Key Value :=
  ⟨insertEntry key value table.entries,
    keysIncrease_insertEntry key value table.increasing⟩

def erase (table : Table Key Value) (key : Key) : Table Key Value :=
  ⟨eraseEntry key table.entries, keysIncrease_eraseEntry key table.increasing⟩

@[simp] theorem find?_empty (key : Key) : (empty : Table Key Value).find? key = none := rfl

theorem find?_insert [Std.TransOrd Key] (table : Table Key Value) (key other : Key)
    (value : Value) :
    (table.insert key value).find? other =
      if compare other key = .eq then some value else table.find? other :=
  findEntry_insertEntry key other value table.entries

theorem find?_erase [Std.TransOrd Key] (table : Table Key Value) (key other : Key) :
    (table.erase key).find? other =
      if compare other key = .eq then none else table.find? other :=
  findEntry_eraseEntry key other table.entries

def keys (table : Table Key Value) : List Key := table.entries.map Prod.fst

def values (table : Table Key Value) : List Value := table.entries.map Prod.snd

/-- Collects pairs from left to right; of two values for a key the later stays. -/
def ofList [Std.TransOrd Key] (pairs : List (Key × Value)) : Table Key Value :=
  pairs.foldl (fun table pair => table.insert pair.1 pair.2) empty

end Table

end BookmarkHub
