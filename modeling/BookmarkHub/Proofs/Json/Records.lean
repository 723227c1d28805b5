import BookmarkHub.Proofs.Json.Documents

/-!
# Records that are read

What the members of a record fill in one by one, and what every field that is
filled in keeps of the draft.
-/

set_option autoImplicit false

namespace BookmarkHub.Json

variable {Draft Value : Type} {shape : Shape Draft} {origin inner : Origin} {draft filled : Draft}

/-! ## Reading back -/

theorem readNamed_field {name : String} {document : Document} {read : Reader Value}
    {get : Draft → Option Value} {set : Draft → Value → Draft} {optional : Bool} {value : Value}
    {rest : List (Option String × Document)}
    (known : shape.fields.find? (fun field => field.name == name) =
      some (field name read get set optional))
    (missing : get draft = none) (reads : read origin document = .ok value) :
    shape.readNamed origin draft ((some name, document) :: rest) =
      shape.readNamed origin (set draft value) rest := by
  simp [Shape.readNamed, known, field, missing, reads, Except.map, bind, Except.bind]

theorem readNamed_append {first second : List (Option String × Document)}
    (reads : shape.readNamed origin draft first = .ok filled) :
    shape.readNamed origin draft (first ++ second) = shape.readNamed origin filled second := by
  induction first generalizing draft with
  | nil =>
      cases reads
      rfl
  | cons member rest ih =>
      obtain ⟨name, document⟩ := member
      cases name with
      | none => cases reads
      | some name =>
          rw [List.cons_append]
          simp only [Shape.readNamed] at reads ⊢
          split at reads
          · obtain ⟨_, skipped, later⟩ := ok_of_bind reads
            rw [skipped]
            exact ih later
          · split at reads
            · cases reads
            · rename_i unfilled
              obtain ⟨next, fills, later⟩ := ok_of_bind reads
              rw [if_neg unfilled, fills]
              exact ih later

theorem readRecord_back (entered : origin.enter = .ok inner) {members : List (String × Json)}
    (read : shape.readNamed inner draft (Document.ofMembers members) = .ok filled) :
    shape.read draft origin (Document.ofJson (.record members)) = .ok filled := by
  simp only [Document.ofJson, Shape.read, entered, bind, Except.bind, read]
  rfl

theorem ofMembers_append (first second : List (String × Json)) :
    Document.ofMembers (first ++ second) =
      Document.ofMembers first ++ Document.ofMembers second := by
  induction first with
  | nil => rfl
  | cons member rest ih => simp [Document.ofMembers, ih]

section Tables
variable {read : Reader Value} {write : Value → Json}

theorem readMembers_back (held : Table String Value) (members : List (String × Value))
    (increase : KeysIncrease (held.entries ++ members))
    (each : ∀ entry ∈ members, read origin (Document.ofJson (write entry.2)) = .ok entry.2) :
    ∃ table, readMembers read origin held
        (Document.ofMembers (members.map fun entry => (entry.1, write entry.2))) = .ok table ∧
      table.entries = held.entries ++ members := by
  induction members generalizing held with
  | nil => exact ⟨held, rfl, (List.append_nil _).symm⟩
  | cons member rest ih =>
      obtain ⟨name, value⟩ := member
      obtain ⟨first, others⟩ := List.forall_mem_cons.1 each
      have last : (held.insert name value).entries = held.entries ++ [(name, value)] :=
        Table.insertEntry_last name value held.entries fun entry member =>
          (List.pairwise_append.1 increase).2.2 entry member _ (List.mem_cons_self ..)
      have later : KeysIncrease ((held.insert name value).entries ++ rest) := by
        rwa [last, List.append_assoc]
      obtain ⟨table, reads, same⟩ := ih (held.insert name value) later others
      refine ⟨table, ?_, by rw [same, last, List.append_assoc]; rfl⟩
      rw [List.map_cons, Document.ofMembers, readMembers, first]
      exact reads

theorem readTable_back (entered : origin.enter = .ok inner) (table : Table String Value)
    (each : ∀ entry ∈ table.entries,
      read inner (Document.ofJson (write entry.2)) = .ok entry.2) :
    readTable read origin (Document.ofJson
      (.record (table.entries.map fun entry => (entry.1, write entry.2)))) = .ok table := by
  obtain ⟨result, reads, same⟩ := readMembers_back Table.empty table.entries table.increasing each
  have whole : result = table := Table.ext same
  subst whole
  simp only [Document.ofJson, readTable, entered, bind, Except.bind, reads]
  rfl

end Tables

/-! ## What reading keeps -/

theorem eq_of_require {name : String} {option : Option Value} {value : Value}
    (required : require name option = .ok value) : option = some value := by
  cases option with
  | none => cases required
  | some other =>
      cases required
      rfl

theorem readItems_all {read : Reader Value} {Holds : Value → Prop}
    (each : ∀ item value, read origin item = .ok value → Holds value) {items : List Document}
    {values : List Value} (reads : readItems read origin items = .ok values) :
    ∀ value ∈ values, Holds value := by
  induction items generalizing values with
  | nil =>
      cases reads
      exact nofun
  | cons item rest ih =>
      obtain ⟨value, first, reads⟩ := ok_of_bind reads
      obtain ⟨others, later, done⟩ := ok_of_bind reads
      cases done
      exact List.forall_mem_cons.2 ⟨each item value first, ih later⟩

theorem readList_all {read : Reader Value} {Holds : Value → Prop}
    (each : ∀ origin item value, read origin item = .ok value → Holds value)
    {document : Document} {values : List Value}
    (reads : readList read origin document = .ok values) : ∀ value ∈ values, Holds value := by
  cases document with
  | list items ending =>
      obtain ⟨inner, _, reads⟩ := ok_of_bind reads
      obtain ⟨others, reads, closed⟩ := ok_of_bind reads
      obtain ⟨_, _, done⟩ := ok_of_bind closed
      cases done
      exact readItems_all (each inner) reads
  | _ => cases reads

/-- The documents inside a document, one level down. -/
def Document.parts : Document → List Document
  | .list items _ => items
  | .record members _ => members.map Prod.snd
  | _ => []

theorem Document.Fits.part {document item : Document} (fits : document.Fits)
    (part : item ∈ document.parts) : item.Fits := by
  cases document with
  | list items ending => exact Document.fits_list.1 fits item part
  | record members ending =>
      obtain ⟨entry, member, rfl⟩ := List.mem_map.1 part
      exact Document.fits_record.1 fits entry member
  | _ => cases part

/-- A field that is read from one of the documents keeps what holds of a draft. -/
def Field.Keeps (field : Field Draft) (origin : Origin) (documents : List Document)
    (Holds : Draft → Prop) : Prop :=
  ∀ draft item filled, item ∈ documents → field.fill draft origin item = .ok filled →
    Holds draft → Holds filled

theorem field_keeps {name : String} {read : Reader Value} {get : Draft → Option Value}
    {set : Draft → Value → Draft} {optional : Bool} {documents : List Document}
    {Holds : Draft → Prop}
    (sets : ∀ draft item value, item ∈ documents → read origin item = .ok value →
      Holds draft → Holds (set draft value)) :
    (field name read get set optional).Keeps origin documents Holds := by
  intro draft item filled part fills before
  simp only [field] at fills
  cases reads : read origin item with
  | error wrong =>
      rw [reads] at fills
      cases fills
  | ok value =>
      rw [reads] at fills
      cases fills
      exact sets draft item value part reads before

section Keeps
variable {documents : List Document} {Holds : Draft → Prop}

theorem readPositions_keeps {fields : List (Field Draft)}
    (keeps : ∀ field ∈ fields, field.Keeps origin documents Holds) {items : List Document}
    (among : items ⊆ documents) {ending : Ending} {length place : Nat}
    (read : shape.readPositions origin ending length place draft fields items = .ok filled)
    (before : Holds draft) : Holds filled := by
  induction fields generalizing items place draft with
  | nil =>
      cases items with
      | nil =>
          obtain ⟨_, _, done⟩ := ok_of_bind read
          cases done
          exact before
      | cons item rest => cases read
  | cons field fields ih =>
      obtain ⟨first, others⟩ := List.forall_mem_cons.1 keeps
      cases items with
      | nil =>
          obtain ⟨_, _, later⟩ := ok_of_bind read
          split at later
          · exact ih others among later before
          · cases later
      | cons item rest =>
          obtain ⟨next, fills, later⟩ := ok_of_bind read
          obtain ⟨part, more⟩ := List.cons_subset.1 among
          exact ih others more later (first draft item next part fills before)

theorem readNamed_keeps (keeps : ∀ field ∈ shape.fields, field.Keeps origin documents Holds)
    {members : List (Option String × Document)} (among : members.map Prod.snd ⊆ documents)
    (read : shape.readNamed origin draft members = .ok filled) (before : Holds draft) :
    Holds filled := by
  induction members generalizing draft with
  | nil =>
      cases read
      exact before
  | cons member rest ih =>
      obtain ⟨name, document⟩ := member
      obtain ⟨part, more⟩ := List.cons_subset.1 among
      cases name with
      | none => cases read
      | some name =>
          simp only [Shape.readNamed] at read
          split at read
          · obtain ⟨_, _, later⟩ := ok_of_bind read
            exact ih more later before
          · rename_i field known
            split at read
            · cases read
            · obtain ⟨next, fills, later⟩ := ok_of_bind read
              have kept := keeps field (List.mem_of_find?_eq_some known)
              exact ih more later (kept draft document next part fills before)

/-- What every field keeps holds of the record that is read, from an object or an array. -/
theorem read_keeps {document : Document}
    (keeps : ∀ inner, origin.enter = .ok inner →
      ∀ field ∈ shape.fields, field.Keeps inner document.parts Holds)
    (read : shape.read draft origin document = .ok filled) (before : Holds draft) :
    Holds filled := by
  cases document with
  | list items ending =>
      obtain ⟨inner, entered, later⟩ := ok_of_bind read
      exact readPositions_keeps (keeps inner entered) (List.Subset.refl _) later before
  | record members ending =>
      obtain ⟨inner, entered, later⟩ := ok_of_bind read
      obtain ⟨result, reads, later⟩ := ok_of_bind later
      obtain ⟨_, _, done⟩ := ok_of_bind later
      cases done
      exact readNamed_keeps (keeps inner entered) (List.Subset.refl _) reads before
  | _ => cases read

end Keeps

end BookmarkHub.Json
