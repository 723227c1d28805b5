import BookmarkHub.Proofs.Operation.Calls
import BookmarkHub.Proofs.Wire.Envelopes
import Mathlib.Data.List.DropRight

/-!
# Requests that are told apart

Many operations share a path or a method, but no two of them share a request.
Whoever receives a request finds out which operation it is: from what the path
refers to, the method, and the names of the query values.  The arguments stand
in the path, the values and the body, and are read from there; only the slashes
that lead the reference to a tag are gone.
-/

set_option autoImplicit false

namespace BookmarkHub

open Json

namespace Decimal

theorem readWord?_ofNat (word : UInt64) : readWord? (ofNat word.toNat) = some word := by
  have digital : (digits word.toNat).all Char.isDigit = true :=
    List.all_eq_true.2 fun _ member => isDigit_of_mem_digits member
  have any : (digits word.toNat).isEmpty = false :=
    List.isEmpty_eq_false_iff.2 (digits_ne_nil word.toNat)
  simp only [readWord?, ofNat, String.toList_ofList]
  split
  · rename_i rest signed
    rw [signed] at digital
    cases digital
  · simp only [digital, any, valueOf_digits, word.toNat_lt_size, Bool.not_true, Bool.or_self,
      Bool.false_eq_true, if_false, if_true, UInt64.ofNat_toNat]

theorem readWords?_ofNats (words : List UInt64) :
    (words.map fun word => ofNat word.toNat).mapM readWord? = some words := by
  induction words with
  | nil => rfl
  | cons word rest ih =>
      rw [List.map_cons, List.mapM_cons, readWord?_ofNat, ih]
      rfl

end Decimal

namespace Operation

/-! ## References to tags -/

def dropSlashes (tag : String) : String := String.ofList (tag.toList.dropWhile (· == '/'))

/-- The operation with no slash at the head of its reference to a tag. -/
def trimmed : Operation → Operation
  | .oneTag tag => .oneTag (dropSlashes tag)
  | .addTag parent data => .addTag (dropSlashes parent) data
  | .updateTag tag data => .updateTag (dropSlashes tag) data
  | .deleteTag tag policy => .deleteTag (dropSlashes tag) policy
  | operation => operation

theorem tagPath_eq (tag : String) :
    tagPath tag = String.ofList ("/tags/".toList ++ tag.toList.dropWhile (· == '/')) := rfl

theorem tagPath_dropSlashes (tag : String) : tagPath (dropSlashes tag) = tagPath tag := by
  have once : (dropSlashes tag).toList = tag.toList.dropWhile (· == '/') := String.toList_ofList
  rw [tagPath_eq, once, List.dropWhile_idempotent]
  exact (tagPath_eq tag).symm

theorem toRequest_trimmed (operation : Operation) :
    operation.trimmed.toRequest = operation.toRequest := by
  cases operation with
  | oneTag | addTag | updateTag | deleteTag => simp only [trimmed, toRequest, tagPath_dropSlashes]
  | _ => rfl

/-! ## What a path refers to -/

inductive Place where
  | tags
  | tag (reference : String)
  | bookmarks
  | bookmark (id : UInt64)

def Place.ofPath? (path : String) : Option Place :=
  if path = "/tags" then some .tags
  else if path = "/bookmarks" then some .bookmarks
  else
    match "/tags/".toList.isPrefixOf? path.toList with
    | some reference => some (.tag (String.ofList reference))
    | none => do
        let marks ← "/bookmarks/".toList.isPrefixOf? path.toList
        let id ← Decimal.readWord? (String.ofList marks)
        return .bookmark id

theorem Place.ofPath?_tagPath (tag : String) :
    ofPath? (tagPath tag) = some (.tag (dropSlashes tag)) := by
  have marks : (tagPath tag).toList =
      "/tags/".toList ++ tag.toList.dropWhile (· == '/') := String.toList_ofList
  have further : "/tags/".toList.isPrefixOf? (tagPath tag).toList =
      some (tag.toList.dropWhile (· == '/')) :=
    List.isPrefixOf?_eq_some_iff_append_eq.2 marks.symm
  have noTags : tagPath tag ≠ "/tags" := by
    intro same
    simp [same] at marks
  have noBookmarks : tagPath tag ≠ "/bookmarks" := by
    intro same
    simp [same] at marks
  simp only [ofPath?, noTags, noBookmarks, if_false, further, dropSlashes]

theorem Place.ofPath?_bookmarkPath (id : UInt64) :
    ofPath? (bookmarkPath id) = some (.bookmark id) := by
  have marks : (bookmarkPath id).toList =
      "/bookmarks/".toList ++ (Decimal.ofNat id.toNat).toList := String.toList_append
  have further : "/bookmarks/".toList.isPrefixOf? (bookmarkPath id).toList =
      some (Decimal.ofNat id.toNat).toList :=
    List.isPrefixOf?_eq_some_iff_append_eq.2 marks.symm
  have noTags : bookmarkPath id ≠ "/tags" := by
    intro same
    simp [same] at marks
  have noBookmarks : bookmarkPath id ≠ "/bookmarks" := by
    intro same
    simp [same] at marks
  have noTag : "/tags/".toList.isPrefixOf? (bookmarkPath id).toList = none := by
    rw [marks]
    rfl
  simp only [ofPath?, noTags, noBookmarks, if_false, noTag, further, String.ofList_toList,
    Decimal.readWord?_ofNat, bind, Option.bind, pure]

/-! ## The receiver of a request -/

def bodyOf? {Data : Type} (read : Reader Data) (request : Request) : Option Data :=
  request.body.bind fun body => (ofValue read body).toOption

def policyOf? (request : Request) : Option LeafPolicy :=
  match request.values.find? "new_leaf_policy" with
  | some (.one name) => LeafPolicy.known.lookup name
  | _ => none

def tagsFor? (request : Request) : Option Operation :=
  match request.values.find? "pattern" with
  | some (.one pattern) => some (.tagsByPattern pattern (request.values.contains "allow_new"))
  | some (.many _) => none
  | none => some .tagTree

def bookmarksFor? (request : Request) : Option Operation :=
  match request.values.find? "tag_id", request.values.find? "url" with
  | some (.many tags), none => (tags.mapM Decimal.readWord?).map .taggedBookmarks
  | none, some (.many [url]) => some (.bookmarksByUrl url)
  | _, _ => none

def ofPlace? (request : Request) (place : Place) : Option Operation :=
  match place, request.method with
  | .tags, .get => tagsFor? request
  | .tag reference, .get => some (.oneTag reference)
  | .tag parent, .post => (bodyOf? NewTag.read request).map (.addTag parent)
  | .tag reference, .put => (bodyOf? TagUpdate.read request).map (.updateTag reference)
  | .tag reference, .delete => (policyOf? request).map (.deleteTag reference)
  | .bookmarks, .get => bookmarksFor? request
  | .bookmarks, .post => (bodyOf? Bookmark.read request).map .addBookmark
  | .bookmark id, .get => some (.oneBookmark id)
  | .bookmark id, .put => (bodyOf? Bookmark.read request).map (.updateBookmark id)
  | .bookmark id, .delete => some (.deleteBookmark id)
  | _, _ => none

/-- The operation that a request is. -/
def ofRequest? (request : Request) : Option Operation :=
  (Place.ofPath? request.path).bind (ofPlace? request)

theorem bodyOf?_of_back {Data : Type} {read : Reader Data} {write : Data → Json}
    (back : ReadsBack read write) {request : Request} {data : Data}
    (body : request.body = some (write data)) : bodyOf? read request = some data := by
  rw [bodyOf?, body, Option.bind_some, ofValue_back back data]
  rfl

theorem ofRequest?_of_tag {request : Request} {tag : String} (path : request.path = tagPath tag) :
    ofRequest? request = ofPlace? request (.tag (dropSlashes tag)) := by
  rw [ofRequest?, path, Place.ofPath?_tagPath, Option.bind_some]

theorem ofRequest?_of_bookmark {request : Request} {id : UInt64}
    (path : request.path = bookmarkPath id) :
    ofRequest? request = ofPlace? request (.bookmark id) := by
  rw [ofRequest?, path, Place.ofPath?_bookmarkPath, Option.bind_some]

/-- Whoever receives the request of an operation knows the operation. -/
theorem ofRequest?_toRequest (operation : Operation) :
    ofRequest? operation.toRequest = some operation.trimmed := by
  cases operation with
  | tagTree | bookmarksByUrl => rfl
  | oneTag => exact ofRequest?_of_tag rfl
  | tagsByPattern pattern allowNew => cases allowNew <;> rfl
  | addTag parent data =>
      have body : bodyOf? NewTag.read (addTag parent data).toRequest = some data :=
        bodyOf?_of_back NewTag.read_back rfl
      refine (ofRequest?_of_tag rfl).trans ?_
      exact congrArg (Option.map (addTag (dropSlashes parent))) body
  | updateTag tag data =>
      have body : bodyOf? TagUpdate.read (updateTag tag data).toRequest = some data :=
        bodyOf?_of_back TagUpdate.read_back rfl
      refine (ofRequest?_of_tag rfl).trans ?_
      exact congrArg (Option.map (updateTag (dropSlashes tag))) body
  | deleteTag tag policy =>
      refine (ofRequest?_of_tag rfl).trans ?_
      cases policy <;> rfl
  | taggedBookmarks tags =>
      exact congrArg (Option.map taggedBookmarks) (Decimal.readWords?_ofNats tags)
  | oneBookmark | deleteBookmark => exact ofRequest?_of_bookmark rfl
  | addBookmark data =>
      have body : bodyOf? Bookmark.read (addBookmark data).toRequest = some data :=
        bodyOf?_of_back Bookmark.read_back rfl
      exact congrArg (Option.map addBookmark) body
  | updateBookmark id data =>
      have body : bodyOf? Bookmark.read (updateBookmark id data).toRequest = some data :=
        bodyOf?_of_back Bookmark.read_back rfl
      refine (ofRequest?_of_bookmark rfl).trans ?_
      exact congrArg (Option.map (updateBookmark id)) body

/-- Two operations are the same request only if they differ in nothing but leading slashes. -/
theorem toRequest_eq_iff (first second : Operation) :
    first.toRequest = second.toRequest ↔ first.trimmed = second.trimmed := by
  constructor
  · intro same
    have known := congrArg ofRequest? same
    rw [ofRequest?_toRequest, ofRequest?_toRequest] at known
    exact Option.some.inj known
  · intro same
    rw [← toRequest_trimmed first, same, toRequest_trimmed second]

end Operation

/-! ## Bodies -/

/-- A value of one level at most, without doubles. -/
structure Json.IsFlat (value : Json) : Prop where
  writable : value.IsWritable
  shallow : value.depth ≤ 1

/-- A body that comes with its request whatever way the request goes. -/
structure Json.IsBody (body : Json) : Prop where
  enclosed : body.IsEnclosed
  whole : body.IsWhole
  present : body ≠ .null

section Flat

theorem flat_text (text : String) : (Json.text text).IsFlat := ⟨nofun, Nat.zero_le 1⟩

theorem flat_bool (value : Bool) : (Json.bool value).IsFlat := ⟨nofun, Nat.zero_le 1⟩

theorem flat_word (word : UInt64) : (ofWord word).IsFlat := ⟨ofWord_writable word, Nat.zero_le 1⟩

theorem flat_list {items : List Json} (writable : ∀ item ∈ items, item.IsWritable)
    (plain : ∀ item ∈ items, item.depth = 0) : (Json.list items).IsFlat := by
  refine ⟨writable_list.2 writable, ?_⟩
  have level : (Origin.text 0).Allows (itemDepth items) :=
    Origin.allows_itemDepth fun item member => Nat.le_of_eq (plain item member)
  exact Nat.succ_le_succ level

theorem flat_texts (texts : List String) : (ofTexts texts).IsFlat := by
  refine flat_list ?_ ?_
  · intro item member
    obtain ⟨text, _, rfl⟩ := List.mem_map.1 member
    exact nofun
  · intro item member
    obtain ⟨text, _, rfl⟩ := List.mem_map.1 member
    rfl

theorem flat_words (words : List UInt64) : (wordsJson words).IsFlat := by
  refine flat_list ?_ ?_
  · intro item member
    obtain ⟨word, _, rfl⟩ := List.mem_map.1 member
    exact ofWord_writable word
  · intro item member
    obtain ⟨word, _, rfl⟩ := List.mem_map.1 member
    rfl

theorem isBody_record {members : List (String × Json)} (ordered : (Json.record members).IsOrdered)
    (flat : ∀ entry ∈ members, entry.2.IsFlat) : (Json.record members).IsBody := by
  have writable : (Json.record members).IsWritable :=
    writable_record.2 fun entry member => (flat entry member).writable
  have level : (Origin.text 125).Allows (memberDepth members) :=
    Origin.allows_memberDepth fun entry member =>
      Nat.le_trans (flat entry member).shallow (by decide : 1 ≤ 125)
  exact {
    enclosed := ⟨⟨ordered, fun number among => (writable number among).1⟩, Nat.succ_le_succ level⟩
    whole := fun number among => (writable number among).2
    present := nofun }

end Flat

theorem NewTag.toJson_isBody (tag : NewTag) : tag.toJson.IsBody := by
  refine isBody_record tag.toJson_ordered ?_
  simp only [List.forall_mem_cons]
  exact ⟨flat_bool _, flat_text _, flat_texts _, nofun⟩

theorem TagUpdate.toJson_isBody (update : TagUpdate) : update.toJson.IsBody := by
  refine isBody_record update.toJson_ordered ?_
  simp only [List.forall_mem_cons]
  exact ⟨flat_text _, flat_texts _, flat_word _, nofun⟩

theorem Bookmark.toJson_isBody (bookmark : Bookmark) : bookmark.toJson.IsBody := by
  refine isBody_record bookmark.toJson_ordered ?_
  simp only [List.forall_mem_cons]
  exact ⟨flat_text _, flat_words _, flat_text _, flat_text _, nofun⟩

/-! ## Requests as texts -/

theorem Request.ofText_of_bodies {request : Request}
    (bodies : ∀ body, request.body = some body → body.IsBody) :
    ofText read request.toText = .ok request := by
  have whole : request.HasWholeBody := fun body there =>
    ⟨(bodies body there).enclosed.proper, (bodies body there).whole⟩
  have shallow := toJson_shallow fun body there => (bodies body there).enclosed.shallow
  rw [ofText_back whole shallow, received_of_present fun body there => (bodies body there).present]

namespace Operation

def sentUnder (id : UInt64) (operation : Operation) : Request := { operation.toRequest with id }

theorem toRequest_isBody {operation : Operation} {body : Json}
    (there : operation.toRequest.body = some body) : body.IsBody := by
  cases operation with
  | addTag parent data =>
      cases there
      exact data.toJson_isBody
  | updateTag tag data =>
      cases there
      exact data.toJson_isBody
  | addBookmark data =>
      cases there
      exact data.toJson_isBody
  | updateBookmark id data =>
      cases there
      exact data.toJson_isBody
  | tagsByPattern pattern allowNew => cases allowNew <;> cases there
  | _ => cases there

theorem ofText_sentUnder (id : UInt64) (operation : Operation) :
    ofText Request.read (operation.sentUnder id).toText = .ok (operation.sentUnder id) :=
  Request.ofText_of_bodies fun _ there => toRequest_isBody there

theorem ofRequest?_sentUnder (id : UInt64) (operation : Operation) :
    ofRequest? (operation.sentUnder id) = some operation.trimmed := by
  have same : ofRequest? (operation.sentUnder id) = ofRequest? operation.toRequest := rfl
  rw [same, ofRequest?_toRequest]

/-- On the wire no two operations look the same, apart from slashes that lead the reference to a
tag, whatever numbers they are sent under.  The receiver gets the operation back with all its
arguments. -/
structure ToldApart : Prop where
  requests : ∀ first second : Operation,
    first.toRequest = second.toRequest ↔ first.trimmed = second.trimmed
  texts : ∀ (first second : Operation) (id other : UInt64),
    (first.sentUnder id).toText = (second.sentUnder other).toText ↔
      id = other ∧ first.trimmed = second.trimmed
  received : ∀ (operation : Operation) (id : UInt64),
    ∃ request, ofText Request.read (operation.sentUnder id).toText = .ok request ∧
      request.id = id ∧ ofRequest? request = some operation.trimmed

theorem operations_told_apart : ToldApart where
  requests := toRequest_eq_iff
  texts first second id other := by
    constructor
    · intro same
      have read := congrArg (ofText Request.read) same
      rw [ofText_sentUnder, ofText_sentUnder] at read
      have sent := Except.ok.inj read
      have known := congrArg ofRequest? sent
      rw [ofRequest?_sentUnder, ofRequest?_sentUnder] at known
      exact ⟨congrArg Request.id sent, Option.some.inj known⟩
    · rintro ⟨rfl, same⟩
      rw [sentUnder, sentUnder, (toRequest_eq_iff first second).2 same]
  received operation id :=
    ⟨operation.sentUnder id, ofText_sentUnder id operation, rfl, ofRequest?_sentUnder id operation⟩

end Operation

end BookmarkHub
