import BookmarkHub.Proofs.Operation.Data
import Mathlib.Tactic.SplitIfs

/-!
# Operations called by name

An operation that is written as a call is read back from it.  Only a tag is
never referred to by the empty text.
Whatever call is read, the operation that it stands for has the name that was
called.
-/

set_option autoImplicit false

namespace BookmarkHub

open Json

/-! ## Numbers as references -/

theorem Decimal.digits_ne_nil (number : Nat) : digits number ≠ [] := Nat.toDigits_ne_nil

theorem Double.layOut_ne_nil (layout : Layout) (marks : List Char) (power : Int) :
    layOut layout marks power ≠ [] := by
  simp only [layOut, ne_eq]
  split_ifs <;> simp

theorem Json.number_toText_ne_empty (number : Number) : (Json.number number).toText ≠ "" := by
  have marks : compact (.number number) ≠ [] := by
    cases number with
    | whole value =>
        cases value with
        | ofNat value => exact Decimal.digits_ne_nil value
        | negSucc value => exact List.cons_ne_nil _ _
    | double value =>
        have body := Double.layOut_ne_nil Double.layout
        simp only [compact, writeNumber, Double.toText]
        split
        · exact List.cons_ne_nil _ _
        · exact body _ _
  intro empty
  exact marks (String.ofList_eq_empty_iff.1 empty)

/-! ## Reading one argument -/

namespace Operation

section Arguments
variable {args : List Json} {index : Nat}

theorem take_back {Value : Type} {read : Reader Value} {write : Value → Json}
    (back : ReadsBack read write) {value : Value} (found : args[index]? = some (write value)) :
    take read args index = .ok value := by
  simp [take, found, ofValue_back back]

theorem takeOptional_bool (otherwise value : Bool) (found : args[index]? = some (.bool value)) :
    takeOptional readBool otherwise args index = .ok value := by
  have taken := take_back readBool_back found
  simp [takeOptional, found, taken]

theorem takeTag_of_text {tag : String} (referable : tag ≠ "")
    (found : args[index]? = some (.text tag)) : takeTag args index = .ok tag := by
  simp [takeTag, found]

theorem ne_empty_of_takeTag {tag : String} (taken : takeTag args index = .ok tag) : tag ≠ "" := by
  unfold takeTag at taken
  split at taken
  · cases taken
  · cases taken
  · rename_i text nonempty _
    cases taken
    rintro rfl
    exact nonempty rfl
  · rename_i number _
    cases taken
    exact number_toText_ne_empty number
  · cases taken

end Arguments

/-! ## Reading calls -/

def reference? : Operation → Option String
  | .oneTag tag | .updateTag tag _ | .deleteTag tag _ => some tag
  | .addTag parent _ => some parent
  | _ => none

def IsReferable (operation : Operation) : Prop := operation.reference? ≠ some ""

instance (operation : Operation) : Decidable operation.IsReferable :=
  inferInstanceAs (Decidable (operation.reference? ≠ some ""))

theorem args_ordered (operation : Operation) : AreOrdered operation.args := by
  cases operation with
  | tagTree => trivial
  | oneTag | tagsByPattern | deleteTag | bookmarksByUrl | oneBookmark | deleteBookmark =>
      exact areOrdered_iff.2 (by simp [args, IsOrdered, ofWord])
  | addTag parent data => exact ⟨trivial, data.toJson_ordered, trivial⟩
  | updateTag tag data => exact ⟨trivial, data.toJson_ordered, trivial⟩
  | taggedBookmarks tags => exact ⟨wordsJson_ordered tags, trivial⟩
  | addBookmark data => exact ⟨data.toJson_ordered, trivial⟩
  | updateBookmark id data => exact ⟨trivial, data.toJson_ordered, trivial⟩

theorem ofCall_of_known {method : String} {read : List Json → Taken Operation}
    (known : Operation.known.lookup method = some read) {args : List Json}
    {operation : Operation} (reads : read args = .ok operation) :
    ofCall method args = .ok operation := by
  simp [ofCall, known, reads]

theorem ofCall_args (operation : Operation) (referable : operation.IsReferable) :
    ofCall operation.name operation.args = .ok operation := by
  have tagged : ∀ tag rest, operation.reference? = some tag →
      takeTag (.text tag :: rest) 0 = .ok tag := fun tag rest refers =>
    takeTag_of_text (fun empty => referable (by rw [refers, empty])) rfl
  have numbered : ∀ id rest, take readWord64 (.ofWord id :: rest) 0 = .ok id :=
    fun id rest => take_back readWord64_back rfl
  cases operation with
  | tagTree => rfl
  | oneTag tag => exact ofCall_of_known rfl (by rw [args, tagged tag [] rfl]; rfl)
  | tagsByPattern pattern allowNew =>
      have text : take readText [.text pattern, .bool allowNew] 0 = .ok pattern :=
        take_back readText_back rfl
      have flag : takeOptional readBool false [.text pattern, .bool allowNew] 1 = .ok allowNew :=
        takeOptional_bool false allowNew rfl
      exact ofCall_of_known rfl (by rw [args, text, flag]; rfl)
  | addTag parent data =>
      have new : take NewTag.read [.text parent, data.toJson] 1 = .ok data :=
        take_back NewTag.read_back rfl
      exact ofCall_of_known rfl (by rw [args, tagged parent _ rfl, new]; rfl)
  | updateTag tag data =>
      have update : take TagUpdate.read [.text tag, data.toJson] 1 = .ok data :=
        take_back TagUpdate.read_back rfl
      exact ofCall_of_known rfl (by rw [args, tagged tag _ rfl, update]; rfl)
  | deleteTag tag policy =>
      have leaves : take LeafPolicy.read [.text tag, .text policy.name] 1 = .ok policy :=
        take_back LeafPolicy.read_back rfl
      exact ofCall_of_known rfl (by rw [args, tagged tag _ rfl, leaves]; rfl)
  | taggedBookmarks tags =>
      have words : take (readList readWord64) [wordsJson tags] 0 = .ok tags :=
        take_back readWords_back rfl
      exact ofCall_of_known rfl (by rw [args, words]; rfl)
  | bookmarksByUrl url =>
      have text : take readText [.text url] 0 = .ok url := take_back readText_back rfl
      exact ofCall_of_known rfl (by rw [args, text]; rfl)
  | oneBookmark id | deleteBookmark id =>
      exact ofCall_of_known rfl (by rw [args, numbered id []]; rfl)
  | addBookmark data =>
      have bookmark : take Bookmark.read [data.toJson] 0 = .ok data :=
        take_back Bookmark.read_back rfl
      exact ofCall_of_known rfl (by rw [args, bookmark]; rfl)
  | updateBookmark id data =>
      have bookmark : take Bookmark.read [.ofWord id, data.toJson] 1 = .ok data :=
        take_back Bookmark.read_back rfl
      exact ofCall_of_known rfl (by rw [args, numbered id _, bookmark]; rfl)

theorem ofCall_args_empty (operation : Operation) (refers : operation.reference? = some "") :
    ofCall operation.name operation.args =
      .error (.invalidArgument operation.name 0 (.notATag (.text ""))) := by
  cases operation with
  | oneTag | addTag | updateTag | deleteTag =>
      cases refers
      rfl
  | _ => cases refers

/-- Whatever is read under a name has that name, and refers to no tag by the empty text. -/
theorem known_accepts : ∀ entry ∈ known, ∀ args operation, entry.2 args = .ok operation →
    operation.name = entry.1 ∧ operation.IsReferable := by
  have tagged : ∀ {args tag} {operation : Operation}, takeTag args 0 = .ok tag →
      operation.reference? = some tag → operation.IsReferable := fun taken refers empty =>
    ne_empty_of_takeTag taken (Option.some.inj (refers.symm.trans empty))
  simp only [known, List.forall_mem_cons]
  refine ⟨?tagTree, ?oneTag, ?tagsByPattern, ?addTag, ?updateTag, ?deleteTag, ?taggedBookmarks,
    ?bookmarksByUrl, ?oneBookmark, ?addBookmark, ?updateBookmark, ?deleteBookmark, by simp⟩
  all_goals intro args operation accepted
  case tagTree =>
    cases accepted
    exact ⟨rfl, nofun⟩
  case oneTag =>
    obtain ⟨tag, taken, done⟩ := ok_of_bind accepted
    cases done
    exact ⟨rfl, tagged taken rfl⟩
  case addTag | updateTag | deleteTag =>
    obtain ⟨tag, taken, later⟩ := ok_of_bind accepted
    obtain ⟨data, _, done⟩ := ok_of_bind later
    cases done
    exact ⟨rfl, tagged taken rfl⟩
  case tagsByPattern | updateBookmark =>
    obtain ⟨_, _, later⟩ := ok_of_bind accepted
    obtain ⟨_, _, done⟩ := ok_of_bind later
    cases done
    exact ⟨rfl, nofun⟩
  case taggedBookmarks | bookmarksByUrl | oneBookmark | addBookmark | deleteBookmark =>
    obtain ⟨_, _, done⟩ := ok_of_bind accepted
    cases done
    exact ⟨rfl, nofun⟩

theorem ofCall_accepts {method : String} {args : List Json} {operation : Operation}
    (accepted : ofCall method args = .ok operation) :
    operation.name = method ∧ operation.IsReferable := by
  unfold ofCall at accepted
  split at accepted
  · cases accepted
  · rename_i read named
    obtain ⟨before, later, split, _⟩ := List.lookup_eq_some_iff.1 named
    have member : (method, read) ∈ known := by simp [split]
    cases reads : read args with
    | error blamed =>
        rw [reads] at accepted
        cases accepted
    | ok other =>
        rw [reads] at accepted
        cases accepted
        exact known_accepts _ member args operation reads

end Operation

end BookmarkHub
