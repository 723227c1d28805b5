import BookmarkHub.Proofs.Json.Shapes
import BookmarkHub.Proofs.Operation.Calls
import Mathlib.Order.Bounds.Basic

/-!
# What calls are read

Each operation takes arguments of certain kinds.  A call is read exactly if its
name is the name of an operation and every argument of the operation is of its
kind; otherwise the first that is not is to blame.  No argument behind those
changes what is read, or which one is to blame.
-/

set_option autoImplicit false

namespace BookmarkHub.Operation

open Json

/-! ## Kinds of arguments -/

/-- What an argument stands for. -/
inductive Kind where
  | tag
  | text
  | flag
  | word
  | words
  | policy
  | newTag
  | tagUpdate
  | bookmark
  deriving DecidableEq, Repr

def newTagSlots : List Slot :=
  [⟨"names", IsTexts, false⟩, ⟨"description", IsText, true⟩,
    ⟨"createIntermediary", IsBool, true⟩]

def tagUpdateSlots : List Slot :=
  [⟨"names", IsTexts, false⟩, ⟨"description", IsText, true⟩, ⟨"parentTagID", IsWord, false⟩]

def bookmarkSlots : List Slot :=
  [⟨"url", IsText, false⟩, ⟨"title", IsText, true⟩, ⟨"comment", IsText, true⟩,
    ⟨"tagIDs", IsWords, true⟩]

/-- Which arguments are of a kind.  Only a flag may be missing. -/
def Kind.Suits : Kind → Option Json → Prop
  | .flag, none => True
  | _, none => False
  | .tag, some found =>
      (∃ tag, tag ≠ "" ∧ found = .text tag) ∨ ∃ number, found = .number number
  | .text, some found => IsText found
  | .flag, some found => found = .null ∨ IsBool found
  | .word, some found => IsWord found
  | .words, some found => IsWords found
  | .policy, some found => ∃ policy : LeafPolicy,
      found = .text policy.name ∨ found = .record [(policy.name, .null)]
  | .newTag, some found => IsRecordOf newTagSlots found
  | .tagUpdate, some found => IsRecordOf tagUpdateSlots found
  | .bookmark, some found => IsRecordOf bookmarkSlots found

/-- The twelve operations by name, with what they take. -/
def signatures : List (String × List Kind) :=
  [("getTagsTree", []),
    ("getTag", [.tag]),
    ("getTagsByPattern", [.text, .flag]),
    ("addTag", [.tag, .newTag]),
    ("updateTag", [.tag, .tagUpdate]),
    ("deleteTag", [.tag, .policy]),
    ("getTaggedBookmarks", [.words]),
    ("getBookmarksByURL", [.text]),
    ("getBookmarkByID", [.word]),
    ("addBookmark", [.bookmark]),
    ("updateBookmark", [.word, .bookmark]),
    ("deleteBookmark", [.word])]

/-! ## What readers take -/

section Readers
variable {found : Json}

theorem choosePolicy_iff {name : String} :
    (∃ policy, chooseVariant LeafPolicy.known name = .ok policy) ↔
      ∃ policy : LeafPolicy, name = policy.name := by
  constructor
  · rintro ⟨policy, chosen⟩
    unfold chooseVariant at chosen
    split at chosen
    · rename_i value looked
      obtain ⟨before, after, split, _⟩ := List.lookup_eq_some_iff.1 looked
      have member : (name, value) ∈ LeafPolicy.known := by simp [split]
      refine ⟨value, ?_⟩
      simp only [LeafPolicy.known, List.mem_cons, Prod.mk.injEq, List.not_mem_nil, or_false]
        at member
      rcases member with ⟨rfl, rfl⟩ | ⟨rfl, rfl⟩ <;> rfl
    · cases chosen
  · rintro ⟨policy, rfl⟩
    exact ⟨policy, by cases policy <;> rfl⟩

theorem readPolicy_iff :
    (∃ policy, ofValue LeafPolicy.read found = .ok policy) ↔ Kind.policy.Suits found := by
  cases found with
  | text name =>
      refine choosePolicy_iff.trans (exists_congr fun policy => ?_)
      simp
  | record members =>
      constructor
      · rintro ⟨policy, read⟩
        match members, read with
        | [(name, value)], read =>
            obtain ⟨choice, chosen, later⟩ := ok_of_bind read
            obtain ⟨other, rfl⟩ := choosePolicy_iff.1 ⟨choice, chosen⟩
            obtain ⟨_, empty, _⟩ := ok_of_bind later
            cases value with
            | null => exact ⟨other, .inr rfl⟩
            | _ => cases empty
        | [], read => cases read
        | _ :: _ :: _, read => cases read
      · rintro ⟨policy, named | named⟩
        · cases named
        · cases named
          exact ⟨policy, by cases policy <;> rfl⟩
  | _ =>
      constructor
      · rintro ⟨policy, read⟩
        cases read
      · rintro ⟨policy, named | named⟩ <;> cases named

theorem newTag_lawful : NewTag.shape.IsLawful := by
  refine ⟨by decide, ?_⟩
  simp only [NewTag.shape, List.forall_mem_cons]
  refine ⟨field_lawful ?_, field_lawful ?_, field_lawful ?_, nofun⟩ <;> simp [field]

theorem readNewTag_iff :
    (∃ tag, ofValue NewTag.read found = .ok tag) ↔ IsRecordOf newTagSlots found := by
  have slots : NewTag.shape.fields.map Field.slot = newTagSlots := by
    have : Nonempty NewTag.Draft := ⟨{}⟩
    simp only [NewTag.shape, List.map_cons, List.map_nil, newTagSlots,
      field_slot fun _ => readTexts_iff, field_slot fun _ => readText_iff,
      field_slot fun _ => readBool_iff]
  refine readRecord_iff newTag_lawful (by simp [NewTag.shape, field]) slots fun filled => ?_
  cases names : filled.names <;>
    simp [Shape.IsComplete, NewTag.shape, field, names, require, bind, Except.bind, pure,
      Except.pure]

theorem tagUpdate_lawful : TagUpdate.shape.IsLawful := by
  refine ⟨by decide, ?_⟩
  simp only [TagUpdate.shape, List.forall_mem_cons]
  refine ⟨field_lawful ?_, field_lawful ?_, field_lawful ?_, nofun⟩ <;> simp [field]

theorem readTagUpdate_iff :
    (∃ update, ofValue TagUpdate.read found = .ok update) ↔ IsRecordOf tagUpdateSlots found := by
  have slots : TagUpdate.shape.fields.map Field.slot = tagUpdateSlots := by
    have : Nonempty TagUpdate.Draft := ⟨{}⟩
    simp only [TagUpdate.shape, List.map_cons, List.map_nil, tagUpdateSlots,
      field_slot fun _ => readTexts_iff, field_slot fun _ => readText_iff,
      field_slot fun _ => readWord64_iff]
  refine readRecord_iff tagUpdate_lawful (by simp [TagUpdate.shape, field]) slots fun filled => ?_
  cases names : filled.names <;> cases parent : filled.parent <;>
    simp [Shape.IsComplete, TagUpdate.shape, field, names, parent, require, bind, Except.bind,
      pure, Except.pure]

theorem bookmark_lawful : Bookmark.shape.IsLawful := by
  refine ⟨by decide, ?_⟩
  simp only [Bookmark.shape, List.forall_mem_cons]
  refine ⟨field_lawful ?_, field_lawful ?_, field_lawful ?_, field_lawful ?_, nofun⟩ <;>
    simp [field]

theorem readBookmark_iff :
    (∃ bookmark, ofValue Bookmark.read found = .ok bookmark) ↔
      IsRecordOf bookmarkSlots found := by
  have slots : Bookmark.shape.fields.map Field.slot = bookmarkSlots := by
    have : Nonempty Bookmark.Draft := ⟨{}⟩
    simp only [Bookmark.shape, List.map_cons, List.map_nil, bookmarkSlots,
      field_slot fun _ => readText_iff, field_slot fun _ => readWords_iff]
  refine readRecord_iff bookmark_lawful (by simp [Bookmark.shape, field]) slots fun filled => ?_
  cases url : filled.url <;>
    simp [Shape.IsComplete, Bookmark.shape, field, url, require, bind, Except.bind, pure,
      Except.pure]

end Readers

/-! ## One argument -/

/-- Why an argument is refused: it is missing, or it is there and of another kind. -/
inductive Explains : Option Json → ArgumentError → Prop where
  | missing : Explains none .missing
  | notATag (found : Json) : Explains (some found) (.notATag found)
  | unreadable (found : Json) (error : ReadError) : Explains (some found) (.unreadable error)

/-- The argument at an index is taken exactly if it is of a kind, whatever the others are. -/
structure Judges {Value : Type} (kind : Kind) (index : Nat)
    (taken : List Json → Taken Value) : Prop where
  accepts : ∀ args, (∃ value, taken args = .ok value) ↔ kind.Suits args[index]?
  blames : ∀ args blamed, taken args = .error blamed →
    blamed.1 = index ∧ Explains args[index]? blamed.2
  alone : ∀ args others : List Json, args[index]? = others[index]? → taken args = taken others

section Judges
variable (index : Nat)

theorem take_blames {Value : Type} {read : Reader Value} {args : List Json}
    {blamed : Nat × ArgumentError} (refused : take read args index = .error blamed) :
    blamed.1 = index ∧ Explains args[index]? blamed.2 := by
  cases there : args[index]? with
  | none =>
      simp only [take, there] at refused
      cases refused
      exact ⟨rfl, .missing⟩
  | some found =>
      cases done : ofValue read found with
      | ok value =>
          simp only [take, there, done] at refused
          cases refused
      | error error =>
          simp only [take, there, done] at refused
          cases refused
          exact ⟨rfl, .unreadable found error⟩

theorem take_judges {Value : Type} {read : Reader Value} {kind : Kind}
    (needed : ¬ kind.Suits none)
    (suits : ∀ found, (∃ value, ofValue read found = .ok value) ↔ kind.Suits (some found)) :
    Judges kind index fun args => take read args index where
  accepts args := by
    cases there : args[index]? with
    | none => simp [take, there, needed]
    | some found =>
        rw [← suits found]
        cases done : ofValue read found <;> simp [take, there, done]
  blames _ _ := take_blames index
  alone args others same := by simp only [take, same]

theorem takeTag_judges : Judges .tag index fun args => takeTag args index where
  accepts args := by
    cases there : args[index]? with
    | none => simp [takeTag, there, Kind.Suits]
    | some found =>
        cases found with
        | text tag => by_cases empty : tag = "" <;> simp [takeTag, there, Kind.Suits, empty]
        | _ => simp [takeTag, there, Kind.Suits]
  blames args blamed refused := by
    unfold takeTag at refused
    split at refused <;> rename_i there
    · cases refused
      exact ⟨rfl, there ▸ .missing⟩
    · cases refused
      exact ⟨rfl, there ▸ .notATag _⟩
    · cases refused
    · cases refused
    · cases refused
      exact ⟨rfl, there ▸ .notATag _⟩
  alone args others same := by simp only [takeTag, same]

theorem takeFlag_judges :
    Judges .flag index fun args => takeOptional readBool false args index where
  accepts args := by
    cases there : args[index]? with
    | none => simp [takeOptional, there, Kind.Suits]
    | some found =>
        cases found with
        | null => simp [takeOptional, there, Kind.Suits]
        | _ => simp [takeOptional, take, there, Kind.Suits, IsBool, ofValue, Document.ofJson,
            readBool]
  blames args blamed refused := by
    unfold takeOptional at refused
    split at refused
    · cases refused
    · cases refused
    · exact take_blames index refused
  alone args others same := by simp only [takeOptional, take, same]

end Judges

/-! ## All arguments -/

/-- Operations are read from the arguments at some places, each of its kind, looked at in turn. -/
structure Reads (places : List (Kind × Nat)) (read : List Json → Taken Operation) : Prop where
  accepts : ∀ args, (∃ operation, read args = .ok operation) ↔
    ∀ place ∈ places, place.1.Suits args[place.2]?
  blames : ∀ args blamed, read args = .error blamed → Explains args[blamed.1]? blamed.2 ∧
    (∃ kind, (kind, blamed.1) ∈ places ∧ ¬ kind.Suits args[blamed.1]?) ∧
    ∀ place ∈ places, place.2 < blamed.1 → place.1.Suits args[place.2]?
  alone : ∀ args others : List Json, (∀ place ∈ places, args[place.2]? = others[place.2]?) →
    read args = read others

theorem reads_nil (operation : Operation) : Reads [] fun _ => .ok operation where
  accepts _ := by simp
  blames _ _ refused := by cases refused
  alone _ _ _ := rfl

theorem reads_cons {Value : Type} {kind : Kind} {index : Nat} {places : List (Kind × Nat)}
    {taken : List Json → Taken Value} {next : Value → List Json → Taken Operation}
    (judges : Judges kind index taken) (behind : ∀ place ∈ places, index < place.2)
    (reads : ∀ value, Reads places (next value)) :
    Reads ((kind, index) :: places) fun args => taken args >>= fun value => next value args where
  accepts args := by
    rw [List.forall_mem_cons, ← judges.accepts args]
    constructor
    · rintro ⟨operation, done⟩
      obtain ⟨value, first, later⟩ := ok_of_bind done
      exact ⟨⟨value, first⟩, ((reads value).accepts args).1 ⟨operation, later⟩⟩
    · rintro ⟨⟨value, first⟩, others⟩
      obtain ⟨operation, later⟩ := ((reads value).accepts args).2 others
      exact ⟨operation, by rw [first]; exact later⟩
  blames args blamed refused := by
    have decided := judges.accepts args
    cases first : taken args with
    | error early =>
        rw [first] at refused decided
        have same : early = blamed := Except.error.inj refused
        obtain ⟨here, why⟩ := judges.blames args blamed (same ▸ first)
        have unfit : ¬ kind.Suits args[index]? := by
          rw [← decided]
          rintro ⟨value, done⟩
          cases done
        rw [here]
        refine ⟨why, ⟨kind, List.mem_cons_self .., unfit⟩, ?_⟩
        intro place member earlier
        rcases List.mem_cons.1 member with rfl | later
        · omega
        · have := behind place later
          omega
    | ok value =>
        rw [first] at refused
        obtain ⟨why, ⟨other, member, unfit⟩, earlier⟩ := (reads value).blames args blamed refused
        refine ⟨why, ⟨other, List.mem_cons_of_mem _ member, unfit⟩, ?_⟩
        exact List.forall_mem_cons.2 ⟨fun _ => decided.1 ⟨value, first⟩, earlier⟩
  alone args others same := by
    rw [List.forall_mem_cons] at same
    have first := judges.alone args others same.1
    have later : (fun value => next value args) = fun value => next value others :=
      funext fun value => (reads value).alone args others same.2
    simp only [first, later]

theorem reads_one {Value : Type} {kind : Kind} {taken : List Json → Taken Value}
    (judges : Judges kind 0 taken) (finish : Value → Operation) :
    Reads [(kind, 0)] fun args => taken args >>= fun value => .ok (finish value) :=
  reads_cons judges (by simp) fun value => reads_nil (finish value)

theorem reads_two {Value Other : Type} {kind other : Kind} {taken : List Json → Taken Value}
    {takenNext : List Json → Taken Other} (judges : Judges kind 0 taken)
    (judgesNext : Judges other 1 takenNext) (finish : Value → Other → Operation) :
    Reads [(kind, 0), (other, 1)] fun args =>
      taken args >>= fun value => takenNext args >>= fun next => .ok (finish value next) :=
  reads_cons judges (by simp) fun value =>
    reads_cons judgesNext (by simp) fun next => reads_nil (finish value next)

theorem signature_reads : ∀ entry ∈ signatures, ∃ read, known.lookup entry.1 = some read ∧
    Reads entry.2.zipIdx read := by
  have tag := takeTag_judges 0
  have flag := takeFlag_judges 1
  have text : Judges .text 0 fun args => take readText args 0 :=
    take_judges 0 id fun _ => readText_iff
  have word : Judges .word 0 fun args => take readWord64 args 0 :=
    take_judges 0 id fun _ => readWord64_iff
  have words : Judges .words 0 fun args => take (readList readWord64) args 0 :=
    take_judges 0 id fun _ => readWords_iff
  have policy : Judges .policy 1 fun args => take LeafPolicy.read args 1 :=
    take_judges 1 id fun _ => readPolicy_iff
  have newTag : Judges .newTag 1 fun args => take NewTag.read args 1 :=
    take_judges 1 id fun _ => readNewTag_iff
  have update : Judges .tagUpdate 1 fun args => take TagUpdate.read args 1 :=
    take_judges 1 id fun _ => readTagUpdate_iff
  have bookmark (index : Nat) : Judges .bookmark index fun args => take Bookmark.read args index :=
    take_judges index id fun _ => readBookmark_iff
  simp only [signatures, List.forall_mem_cons]
  refine ⟨?tagTree, ?oneTag, ?tagsByPattern, ?addTag, ?updateTag, ?deleteTag, ?taggedBookmarks,
    ?bookmarksByUrl, ?oneBookmark, ?addBookmark, ?updateBookmark, ?deleteBookmark, by simp⟩
  case tagTree => exact ⟨_, rfl, reads_nil .tagTree⟩
  case oneTag => exact ⟨_, rfl, reads_one tag .oneTag⟩
  case tagsByPattern => exact ⟨_, rfl, reads_two text flag .tagsByPattern⟩
  case addTag => exact ⟨_, rfl, reads_two tag newTag .addTag⟩
  case updateTag => exact ⟨_, rfl, reads_two tag update .updateTag⟩
  case deleteTag => exact ⟨_, rfl, reads_two tag policy .deleteTag⟩
  case taggedBookmarks => exact ⟨_, rfl, reads_one words .taggedBookmarks⟩
  case bookmarksByUrl => exact ⟨_, rfl, reads_one text .bookmarksByUrl⟩
  case oneBookmark => exact ⟨_, rfl, reads_one word .oneBookmark⟩
  case addBookmark => exact ⟨_, rfl, reads_one (bookmark 0) .addBookmark⟩
  case updateBookmark => exact ⟨_, rfl, reads_two word (bookmark 1) .updateBookmark⟩
  case deleteBookmark => exact ⟨_, rfl, reads_one word .deleteBookmark⟩

/-! ## Calls -/

/-- An argument that an operation needs is missing, or one that it takes is of another kind. -/
def Unfit (kinds : List Kind) (args : List Json) (index : Nat) : Prop :=
  ∃ kind, kinds[index]? = some kind ∧ ¬ kind.Suits args[index]?

def Tells (index : Nat) (said : String) : Option Json → Prop
  | none => said = "missing argument " ++ Decimal.ofNat index
  | some _ => ∃ reason, said = "argument " ++ Decimal.ofNat index ++ ": " ++ reason

/-- A call is read if it has a known name and fitting arguments, else its first fault is told. -/
structure Judged (method : String) (args : List Json) : Prop where
  unknown : ofCall method args = .error (.unknownMethod method) ↔
    method ∉ signatures.map Prod.fst
  accepted : ∀ kinds, (method, kinds) ∈ signatures →
    ((∃ operation, ofCall method args = .ok operation) ↔ ∀ index, ¬ Unfit kinds args index)
  blamed : ∀ kinds, (method, kinds) ∈ signatures → ∀ index,
    ((∃ error, ofCall method args = .error (.invalidArgument method index error)) ↔
      IsLeast {index | Unfit kinds args index} index)
  named : ∀ error, ofCall method args = .error error →
    error = .unknownMethod method ∨ ∃ index why, error = .invalidArgument method index why
  told : ∀ index error, ofCall method args = .error (.invalidArgument method index error) →
    ∃ said, CallError.message (.invalidArgument method index error) =
      "invalid arguments for " ++ method ++ ": " ++ said ∧ Tells index said args[index]?
  limited : ∀ kinds, (method, kinds) ∈ signatures → ∀ others : List Json,
    others.take kinds.length = args.take kinds.length → ofCall method others = ofCall method args
  referable : ∀ operation, ofCall method args = .ok operation →
    operation.name = method ∧ operation.IsReferable

section Calls
variable {method : String} {kinds : List Kind} {args : List Json}

theorem forall_place_iff :
    (∀ place ∈ kinds.zipIdx, place.1.Suits args[place.2]?) ↔ ∀ index, ¬ Unfit kinds args index := by
  constructor
  · rintro all index ⟨kind, there, unfit⟩
    exact unfit (all (kind, index) (List.mk_mem_zipIdx_iff_getElem?.2 there))
  · intro fit place member
    have there := List.mk_mem_zipIdx_iff_getElem?.1 member
    by_contra unfit
    exact fit place.2 ⟨place.1, there, unfit⟩

theorem Explains.tells {index : Nat} {found : Option Json} {error : ArgumentError}
    (why : Explains found error) : Tells index (error.message index) found := by
  cases why with
  | missing => rfl
  | notATag found =>
      have told : ": expected tag path or id, got " = ": " ++ "expected tag path or id, got " := by
        decide
      refine ⟨"expected tag path or id, got " ++ found.toText, ?_⟩
      calc "argument " ++ Decimal.ofNat index ++ ": expected tag path or id, got " ++ found.toText
        _ = "argument " ++ Decimal.ofNat index ++ (": " ++ "expected tag path or id, got ") ++
              found.toText :=
          congrArg ("argument " ++ Decimal.ofNat index ++ · ++ found.toText) told
        _ = _ := by simp only [String.append_assoc]
  | unreadable found error => exact ⟨error.message, rfl⟩

/-- The first argument that is unfit is to blame. -/
theorem Reads.isLeast {read : List Json → Taken Operation} (reads : Reads kinds.zipIdx read)
    {blamed : Nat × ArgumentError} (refused : read args = .error blamed) :
    IsLeast {index | Unfit kinds args index} blamed.1 := by
  obtain ⟨_, ⟨kind, member, unfit⟩, earlier⟩ := reads.blames args blamed refused
  refine ⟨⟨kind, List.mk_mem_zipIdx_iff_getElem?.1 member, unfit⟩, ?_⟩
  rintro index ⟨other, there, faulty⟩
  by_contra less
  exact faulty (earlier (other, index) (List.mk_mem_zipIdx_iff_getElem?.2 there) (by omega))

end Calls

theorem ofCall_unknown {method : String} {args : List Json}
    (absent : method ∉ signatures.map Prod.fst) :
    ofCall method args = .error (.unknownMethod method) := by
  have names : known.map Prod.fst = signatures.map Prod.fst := rfl
  have none : known.lookup method = none := by
    rw [List.lookup_eq_none_iff]
    intro entry member
    have differs : method ≠ entry.1 := fun same =>
      absent (names ▸ same ▸ List.mem_map_of_mem member)
    simpa using differs
  simp only [ofCall, none]

theorem ofCall_known {method : String} {kinds : List Kind}
    (member : (method, kinds) ∈ signatures) : ∃ read, Reads kinds.zipIdx read ∧
      ∀ args, ofCall method args = (read args).mapError fun blamed =>
        .invalidArgument method blamed.1 blamed.2 := by
  obtain ⟨read, looked, reads⟩ := signature_reads (method, kinds) member
  refine ⟨read, reads, ?_⟩
  intro args
  simp only [ofCall, looked]

theorem ofCall_cases {method : String} {kinds : List Kind} (args : List Json)
    (member : (method, kinds) ∈ signatures) :
    (∃ operation, ofCall method args = .ok operation ∧ ∀ index, ¬ Unfit kinds args index) ∨
      ∃ index why, ofCall method args = .error (.invalidArgument method index why) ∧
        IsLeast {index | Unfit kinds args index} index ∧ Explains args[index]? why := by
  obtain ⟨read, reads, same⟩ := ofCall_known member
  rw [same args]
  cases done : read args with
  | ok operation =>
      refine .inl ⟨operation, rfl, ?_⟩
      exact forall_place_iff.1 ((reads.accepts args).1 ⟨operation, done⟩)
  | error blamed =>
      refine .inr ⟨blamed.1, blamed.2, rfl, reads.isLeast done, ?_⟩
      exact (reads.blames args blamed done).1

/-- Which calls are read, what refused ones are told, and how much of a call matters. -/
theorem calls_judged (method : String) (args : List Json) : Judged method args where
  unknown := by
    refine ⟨?_, ofCall_unknown⟩
    intro refused known
    obtain ⟨⟨_, kinds⟩, member, rfl⟩ := List.mem_map.1 known
    rcases ofCall_cases args member with ⟨_, done, _⟩ | ⟨_, _, done, _, _⟩
    · cases done.symm.trans refused
    · cases done.symm.trans refused
  accepted kinds member := by
    rcases ofCall_cases args member with ⟨operation, done, fit⟩ | ⟨index, _, done, least, _⟩
    · exact ⟨fun _ => fit, fun _ => ⟨operation, done⟩⟩
    · constructor
      · rintro ⟨operation, accepted⟩
        cases done.symm.trans accepted
      · intro fit
        exact absurd least.1 (fit index)
  blamed kinds member index := by
    rcases ofCall_cases args member with ⟨_, done, fit⟩ | ⟨first, why, done, least, _⟩
    · constructor
      · rintro ⟨_, refused⟩
        cases done.symm.trans refused
      · intro least
        exact absurd least.1 (fit index)
    · constructor
      · rintro ⟨_, refused⟩
        cases done.symm.trans refused
        exact least
      · intro other
        exact ⟨why, other.unique least ▸ done⟩
  named error refused := by
    by_cases known : method ∈ signatures.map Prod.fst
    · obtain ⟨⟨_, kinds⟩, member, rfl⟩ := List.mem_map.1 known
      rcases ofCall_cases args member with ⟨_, done, _⟩ | ⟨index, why, done, _, _⟩
      · cases done.symm.trans refused
      · cases done.symm.trans refused
        exact .inr ⟨index, why, rfl⟩
    · cases (ofCall_unknown known).symm.trans refused
      exact .inl rfl
  told index error refused := by
    refine ⟨error.message index, rfl, Explains.tells ?_⟩
    by_cases known : method ∈ signatures.map Prod.fst
    · obtain ⟨⟨_, kinds⟩, member, rfl⟩ := List.mem_map.1 known
      rcases ofCall_cases args member with ⟨_, done, _⟩ | ⟨_, _, done, _, why⟩
      · cases done.symm.trans refused
      · cases done.symm.trans refused
        exact why
    · cases (ofCall_unknown known).symm.trans refused
  limited kinds member others same := by
    obtain ⟨read, reads, called⟩ := ofCall_known member
    have equal : read others = read args := by
      refine reads.alone others args fun place within => ?_
      have there := List.mk_mem_zipIdx_iff_getElem?.1 within
      have bound := (List.getElem?_eq_some_iff.1 there).1
      have looked := congrArg (·[place.2]?) same
      simpa only [List.getElem?_take, bound, if_true] using looked
    rw [called, called, equal]
  referable _ accepted := ofCall_accepts accepted

-- A number refers to a tag, and an array leaves out the defaults at its end.
example : ofCall "addTag" [.number (.whole 3), .list [.ofTexts ["new"]]] =
    .ok (.addTag "3" { names := ["new"] }) := by rfl

end BookmarkHub.Operation
