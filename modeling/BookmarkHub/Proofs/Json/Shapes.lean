import BookmarkHub.Proofs.Json.Records
import Mathlib.Data.List.Nodup
import Mathlib.Data.Set.List

/-!
# Which values readers take

A plain value is taken if it is of the type that is read, and a list if each of
its items is taken.  A record is taken from an object if each of its names
stands there at most once, with a value that is taken, and is missing only if
it may be; from an array the same holds of its places.
-/

set_option autoImplicit false

namespace BookmarkHub.Json

variable {Draft Value : Type} {found : Json}

/-! ## Plain values -/

def IsText (found : Json) : Prop := ∃ text, found = .text text

def IsBool (found : Json) : Prop := ∃ value, found = .bool value

def IsWord (found : Json) : Prop := ∃ word, found = .ofWord word

def IsTexts (found : Json) : Prop := ∃ texts, found = .ofTexts texts

def IsWords (found : Json) : Prop := ∃ words : List UInt64, found = .list (words.map .ofWord)

theorem readText_iff : (∃ value, ofValue readText found = .ok value) ↔ IsText found := by
  cases found <;> simp [IsText, ofValue, Document.ofJson, readText]

theorem readBool_iff : (∃ value, ofValue readBool found = .ok value) ↔ IsBool found := by
  cases found <;> simp [IsBool, ofValue, Document.ofJson, readBool]

theorem readWord64_iff : (∃ value, ofValue readWord64 found = .ok value) ↔ IsWord found := by
  constructor
  · rintro ⟨value, read⟩
    cases found with
    | number number =>
        cases number with
        | whole whole =>
            simp only [ofValue, Document.ofJson, readWord64, readBelow] at read
            split at read
            · rename_i inRange
              refine ⟨UInt64.ofNat whole.toNat, ?_⟩
              have small : whole.toNat < UInt64.size := by omega
              rw [ofWord, UInt64.toNat_ofNat_of_lt' small, Int.toNat_of_nonneg inRange.1]
            · cases read
        | double => cases read
    | _ => cases read
  · rintro ⟨word, rfl⟩
    exact ⟨word, readWord64_ofWord .value word⟩

/-! ## Lists -/

theorem readList_iff (read : Reader Value) :
    (∃ values, ofValue (readList read) found = .ok values) ↔
      ∃ items, found = .list items ∧ ∀ item ∈ items, ∃ value, ofValue read item = .ok value := by
  have each (items : List Json) :
      (∃ values, readItems read .value (Document.ofItems items) = .ok values) ↔
        ∀ item ∈ items, ∃ value, ofValue read item = .ok value := by
    induction items with
    | nil => simp [Document.ofItems, readItems]
    | cons item rest ih =>
        rw [List.forall_mem_cons, ← ih]
        constructor
        · rintro ⟨values, done⟩
          obtain ⟨value, first, later⟩ := ok_of_bind done
          obtain ⟨others, all, _⟩ := ok_of_bind later
          exact ⟨⟨value, first⟩, others, all⟩
        · rintro ⟨⟨value, first⟩, others, all⟩
          refine ⟨value :: others, ?_⟩
          rw [ofValue] at first
          simp only [Document.ofItems, readItems, first, all]
          rfl
  constructor
  · rintro ⟨values, done⟩
    cases found with
    | list items =>
        obtain ⟨_, entered, later⟩ := ok_of_bind done
        cases entered
        obtain ⟨others, all, _⟩ := ok_of_bind later
        exact ⟨items, rfl, (each items).1 ⟨others, all⟩⟩
    | _ => cases done
  · rintro ⟨items, rfl, all⟩
    obtain ⟨values, done⟩ := (each items).2 all
    have roomy : Origin.value.IsRoomy := rfl
    exact ⟨values, readList_of_items roomy done⟩

theorem readList_iff_written {Item : Type} {read : Reader Value} {write : Item → Json}
    (each : ∀ item, (∃ value, ofValue read item = .ok value) ↔ ∃ written, item = write written) :
    (∃ values, ofValue (readList read) found = .ok values) ↔
      ∃ written : List Item, found = .list (written.map write) := by
  have among (items : List Json) : (∀ item ∈ items, ∃ written, item = write written) ↔
      ∃ written : List Item, items = written.map write := by
    have range := Set.ext_iff.1 (Set.range_list_map write) items
    simpa [eq_comm] using range.symm
  simp only [readList_iff, each, among]
  constructor
  · rintro ⟨_, rfl, written, rfl⟩
    exact ⟨written, rfl⟩
  · rintro ⟨written, rfl⟩
    exact ⟨_, rfl, written, rfl⟩

theorem readTexts_iff :
    (∃ value, ofValue (readList readText) found = .ok value) ↔ IsTexts found :=
  readList_iff_written fun _ => readText_iff

theorem readWords_iff :
    (∃ value, ofValue (readList readWord64) found = .ok value) ↔ IsWords found :=
  readList_iff_written fun _ => readWord64_iff

/-! ## Records -/

/-- A field of a record, as a caller sees it. -/
structure Slot where
  name : String
  Takes : Json → Prop
  optional : Bool

/-- What may be given for a field: one value that it takes, or none if it may be missing. -/
def Slot.Admits (slot : Slot) : List Json → Prop
  | [] => slot.optional = true
  | [value] => slot.Takes value
  | _ => False

def valuesOf (name : String) (members : List (String × Json)) : List Json :=
  (members.filter fun member => member.1 == name).map Prod.snd

/-- Which values are records with some fields: by name in an object, by place in an array. -/
def IsRecordOf (slots : List Slot) : Json → Prop
  | .record members => ∀ slot ∈ slots, slot.Admits (valuesOf slot.name members)
  | .list items => items.length ≤ slots.length ∧
      ∀ (index : Nat) (slot : Slot), slots[index]? = some slot → slot.Admits items[index]?.toList
  | _ => False

/-- A field takes what fills in some draft. -/
def Field.slot (field : Field Draft) : Slot where
  name := field.name
  Takes found := ∃ draft filled, field.fill draft .value (Document.ofJson found) = .ok filled
  optional := field.optional

/-- Whether a field is filled in is up to what is read alone, and no other field changes. -/
structure Field.IsLawful (field : Field Draft) (among : List (Field Draft)) : Prop where
  steady : ∀ draft found, field.slot.Takes found →
    ∃ filled, field.fill draft .value (Document.ofJson found) = .ok filled
  marks : ∀ draft found filled, field.fill draft .value (Document.ofJson found) = .ok filled →
    ∀ other ∈ among, other.filled filled = (other.name == field.name || other.filled draft)

structure Shape.IsLawful (shape : Shape Draft) : Prop where
  distinct : (shape.fields.map Field.name).Nodup
  each : ∀ field ∈ shape.fields, field.IsLawful shape.fields

theorem field_slot {name : String} {read : Reader Value} {get : Draft → Option Value}
    {set : Draft → Value → Draft} {optional : Bool} {Takes : Json → Prop} [Nonempty Draft]
    (takes : ∀ found, (∃ value, ofValue read found = .ok value) ↔ Takes found) :
    (field name read get set optional).slot = ⟨name, Takes, optional⟩ := by
  simp only [Field.slot, field, Slot.mk.injEq, true_and, and_true]
  funext found
  rw [← takes found, ofValue]
  cases read .value (Document.ofJson found) <;> simp [Except.map]

theorem field_lawful {name : String} {read : Reader Value} {get : Draft → Option Value}
    {set : Draft → Value → Draft} {optional : Bool} {among : List (Field Draft)}
    (sets : ∀ draft value, ∀ other ∈ among,
      other.filled (set draft value) = (other.name == name || other.filled draft)) :
    (field name read get set optional).IsLawful among where
  steady draft found takes := by
    obtain ⟨other, filled, fills⟩ := takes
    simp only [field] at fills ⊢
    cases reads : read .value (Document.ofJson found) with
    | error wrong =>
        rw [reads] at fills
        cases fills
    | ok value => exact ⟨set draft value, rfl⟩
  marks draft found filled fills := by
    simp only [field] at fills
    cases reads : read .value (Document.ofJson found) with
    | error wrong =>
        rw [reads] at fills
        cases fills
    | ok value =>
        rw [reads] at fills
        cases fills
        exact sets draft value

mutual

theorem skipFault_ofJson (value : Json) : (Document.ofJson value).skipFault? = none := by
  match value with
  | .null | .bool _ | .number _ | .text _ => rfl
  | .list items =>
      rw [Document.ofJson, Document.skipFault?, skipItems_ofItems items]
      rfl
  | .record members =>
      rw [Document.ofJson, Document.skipFault?, skipMembers_ofMembers members]
      rfl

theorem skipItems_ofItems (items : List Json) :
    Document.skipItems (Document.ofItems items) = none := by
  match items with
  | [] => rfl
  | item :: rest =>
      rw [Document.ofItems, Document.skipItems, skipFault_ofJson item, skipItems_ofItems rest]
      rfl

theorem skipMembers_ofMembers (members : List (String × Json)) :
    Document.skipMembers (Document.ofMembers members) = none := by
  match members with
  | [] => rfl
  | (name, value) :: rest =>
      rw [Document.ofMembers, Document.skipMembers, skipFault_ofJson value,
        skipMembers_ofMembers rest]
      rfl

end

/-! ## Records by name -/

/-- What a field admits once a draft is under way: nothing more after it is filled in. -/
def Field.Admits (field : Field Draft) (draft : Draft) : List Json → Prop
  | [] => field.optional = true ∨ field.filled draft = true
  | [value] => field.filled draft = false ∧ field.slot.Takes value
  | _ => False

def Shape.IsComplete (shape : Shape Draft) (draft : Draft) : Prop :=
  ∀ field ∈ shape.fields, field.optional = true ∨ field.filled draft = true

theorem valuesOf_cons (name : String) (member : String × Json) (rest : List (String × Json)) :
    valuesOf name (member :: rest) =
      if member.1 = name then member.2 :: valuesOf name rest else valuesOf name rest := by
  by_cases same : member.1 = name <;> simp [valuesOf, same]

section Lawful
variable {shape : Shape Draft} {field : Field Draft} {draft filled : Draft}

theorem admits_cons_iff (unfilled : field.filled draft = false)
    (marked : field.filled filled = true) (takes : field.slot.Takes found) (values : List Json) :
    field.Admits draft (found :: values) ↔ field.Admits filled values := by
  match values with
  | [] => simp [Field.Admits, unfilled, marked, takes]
  | [_] => simp [Field.Admits, marked]
  | _ :: _ :: _ => exact Iff.rfl

theorem not_admits_cons (values : List Json)
    (refused : field.filled draft = true ∨ ¬ field.slot.Takes found) :
    ¬ field.Admits draft (found :: values) := by
  cases values with
  | nil =>
      rintro ⟨unfilled, takes⟩
      simp [unfilled, takes] at refused
  | cons => exact id

theorem admits_congr (same : field.filled filled = field.filled draft) (values : List Json) :
    field.Admits draft values ↔ field.Admits filled values := by
  match values with
  | [] | [_] => simp only [Field.Admits, same]
  | _ :: _ :: _ => exact Iff.rfl

theorem admits_blank (blank : field.filled draft = false) (values : List Json) :
    field.Admits draft values ↔ field.slot.Admits values := by
  match values with
  | [] | [_] => simp [Field.Admits, Slot.Admits, Field.slot, blank]
  | _ :: _ :: _ => exact Iff.rfl

theorem admits_filled (lawful : shape.IsLawful) (among : field ∈ shape.fields)
    (unfilled : field.filled draft = false)
    (fills : field.fill draft .value (Document.ofJson found) = .ok filled)
    (rest : List (String × Json)) :
    (∀ other ∈ shape.fields,
        other.Admits draft (valuesOf other.name ((field.name, found) :: rest))) ↔
      ∀ other ∈ shape.fields, other.Admits filled (valuesOf other.name rest) := by
  have marks := (lawful.each field among).marks draft found filled fills
  refine forall₂_congr fun other member => ?_
  rw [valuesOf_cons]
  by_cases same : field.name = other.name
  · have equal : other = field := List.inj_on_of_nodup_map lawful.distinct member among same.symm
    subst equal
    have marked : other.filled filled = true := by simp [marks other member]
    rw [if_pos rfl]
    exact admits_cons_iff unfilled marked ⟨draft, filled, fills⟩ _
  · have apart : other.filled filled = other.filled draft := by
      simp [marks other member, Ne.symm same]
    rw [if_neg same]
    exact admits_congr apart _

theorem readNamed_iff (lawful : shape.IsLawful) (members : List (String × Json)) (draft : Draft) :
    (∃ filled, shape.readNamed .value draft (Document.ofMembers members) = .ok filled ∧
      shape.IsComplete filled) ↔
      ∀ field ∈ shape.fields, field.Admits draft (valuesOf field.name members) := by
  induction members generalizing draft with
  | nil => simp [Document.ofMembers, Shape.readNamed, valuesOf, Field.Admits, Shape.IsComplete]
  | cons member rest ih =>
      obtain ⟨name, value⟩ := member
      simp only [Document.ofMembers, Shape.readNamed]
      cases known : shape.fields.find? fun field => field.name == name with
      | none =>
          have passed : skip (Document.ofJson value) = .ok () := by rw [skip, skipFault_ofJson]
          simp only [passed, bind, Except.bind, ih]
          refine forall₂_congr fun field member => ?_
          have foreign : name ≠ field.name := by
            intro same
            simpa [same] using List.find?_eq_none.1 known field member
          rw [valuesOf_cons, if_neg foreign]
      | some field =>
          have among := List.mem_of_find?_eq_some known
          obtain rfl : field.name = name := by simpa using List.find?_some known
          have refused (cannot : field.filled draft = true ∨ ¬ field.slot.Takes value) :
              ¬ ∀ other ∈ shape.fields,
                other.Admits draft (valuesOf other.name ((field.name, value) :: rest)) := by
            intro all
            have admits := all field among
            rw [valuesOf_cons, if_pos rfl] at admits
            exact not_admits_cons _ cannot admits
          cases before : field.filled draft with
          | true => simp [refused (.inl before), before]
          | false =>
              cases fills : field.fill draft .value (Document.ofJson value) with
              | error wrong =>
                  have untaken : ¬ field.slot.Takes value := by
                    intro takes
                    obtain ⟨filled, taken⟩ := (lawful.each field among).steady draft value takes
                    cases fills.symm.trans taken
                  simp [refused (.inr untaken), before, fills, bind, Except.bind]
              | ok filled =>
                  simp only [before, fills, Bool.false_eq_true, if_false, bind, Except.bind, ih]
                  exact (admits_filled lawful among before fills rest).symm

/-! ## Records by place -/

theorem readPositions_iff (lawful : shape.IsLawful) {fields : List (Field Draft)}
    (among : fields ⊆ shape.fields) (items : List Json) (length place : Nat) (draft : Draft)
    (before : ∀ field ∈ shape.fields, field ∉ fields →
      field.optional = true ∨ field.filled draft = true) :
    (∃ filled, shape.readPositions .value .closed length place draft fields
        (Document.ofItems items) = .ok filled ∧ shape.IsComplete filled) ↔
      items.length ≤ fields.length ∧ ∀ (index : Nat) (field : Field Draft),
        fields[index]? = some field → field.slot.Admits items[index]?.toList := by
  induction fields generalizing items place draft with
  | nil =>
      cases items with
      | nil =>
          have complete : shape.IsComplete draft := fun field member => before field member nofun
          simp [Document.ofItems, Shape.readPositions, Ending.checkFull, bind, Except.bind, pure,
            Except.pure, complete]
      | cons => simp [Document.ofItems, Shape.readPositions]
  | cons field fields ih =>
      obtain ⟨member, others⟩ := List.cons_subset.1 among
      rw [← Nat.and_forall_add_one]
      cases items with
      | nil =>
          simp only [Document.ofItems, Shape.readPositions, Ending.check]
          cases optional : field.optional with
          | true =>
              have left : ∀ other ∈ shape.fields, other ∉ fields →
                  other.optional = true ∨ other.filled draft = true := by
                intro other present absent
                by_cases same : other = field
                · exact .inl (same ▸ optional)
                · exact before other present (by simp [same, absent])
              have rest := ih others [] (place + 1) draft left
              simpa [Slot.Admits, Field.slot, optional, bind, Except.bind, Document.ofItems]
                using rest
          | false => simp [Slot.Admits, Field.slot, optional, bind, Except.bind]
      | cons item items =>
          simp only [Document.ofItems, Shape.readPositions]
          cases fills : field.fill draft .value (Document.ofJson item) with
          | error wrong =>
              have untaken : ¬ field.slot.Takes item := by
                intro takes
                obtain ⟨filled, taken⟩ := (lawful.each field member).steady draft item takes
                cases fills.symm.trans taken
              simp [Slot.Admits, untaken, bind, Except.bind]
          | ok filled =>
              have taken : field.slot.Takes item := ⟨draft, filled, fills⟩
              have marks := (lawful.each field member).marks draft item filled fills
              have left : ∀ other ∈ shape.fields, other ∉ fields →
                  other.optional = true ∨ other.filled filled = true := by
                intro other present absent
                by_cases same : other = field
                · have marked := marks other present
                  exact .inr (by simpa [same] using marked)
                · have earlier := before other present (by simp [same, absent])
                  rw [marks other present]
                  exact earlier.imp_right fun full => by simp [full]
              have rest := ih others items (place + 1) filled left
              simpa [Slot.Admits, taken, bind, Except.bind] using rest

/-- A blank draft is filled in to a whole record by what is a record with the fields. -/
theorem readShape_iff (lawful : shape.IsLawful)
    (blank : ∀ field ∈ shape.fields, field.filled draft = false) :
    (∃ filled, shape.read draft .value (Document.ofJson found) = .ok filled ∧
      shape.IsComplete filled) ↔ IsRecordOf (shape.fields.map Field.slot) found := by
  cases found with
  | list items =>
      have nothing : ∀ field ∈ shape.fields, field ∉ shape.fields →
          field.optional = true ∨ field.filled draft = true :=
        fun _ present absent => absurd present absent
      have placed := readPositions_iff lawful (List.Subset.refl _) items
        (Document.ofItems items).length 0 draft nothing
      simp only [Document.ofJson, Shape.read, Origin.enter, bind, Except.bind, placed]
      simp [IsRecordOf]
  | record members =>
      have named := readNamed_iff lawful members draft
      have admitted : (∀ field ∈ shape.fields, field.Admits draft (valuesOf field.name members)) ↔
          IsRecordOf (shape.fields.map Field.slot) (.record members) := by
        rw [IsRecordOf, List.forall_mem_map]
        exact forall₂_congr fun field member => admits_blank (blank field member) _
      rw [← admitted, ← named]
      simp only [Document.ofJson, Shape.read, Origin.enter, bind, Except.bind]
      refine exists_congr fun filled => and_congr_left fun _ => ?_
      cases shape.readNamed .value draft (Document.ofMembers members) with
      | error => simp
      | ok => simp [Ending.check, pure, Except.pure]
  | _ => simp [Document.ofJson, Shape.read, IsRecordOf]

/-- A record is read exactly if it is one, where only a complete draft can be finished. -/
theorem readRecord_iff (lawful : shape.IsLawful)
    (blank : ∀ field ∈ shape.fields, field.filled draft = false) {slots : List Slot}
    (same : shape.fields.map Field.slot = slots) {finish : Draft → Except ReadError Value}
    (finishes : ∀ filled, (∃ value, finish filled = .ok value) ↔ shape.IsComplete filled) :
    (∃ value, (shape.read draft .value (Document.ofJson found) >>= finish) = .ok value) ↔
      IsRecordOf slots found := by
  rw [← same, ← readShape_iff lawful blank]
  constructor
  · rintro ⟨value, done⟩
    obtain ⟨filled, reads, finished⟩ := ok_of_bind done
    exact ⟨filled, reads, (finishes filled).1 ⟨value, finished⟩⟩
  · rintro ⟨filled, reads, complete⟩
    obtain ⟨value, finished⟩ := (finishes filled).2 complete
    exact ⟨value, by rw [reads]; exact finished⟩

end Lawful

end BookmarkHub.Json
