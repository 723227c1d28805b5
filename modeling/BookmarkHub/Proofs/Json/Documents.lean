import BookmarkHub.Proofs.Json.Tokens

/-!
# Documents of texts

The document of a value's written form is the value's own document, with nothing
behind it.  Whatever text a document comes from, its numbers fit.
-/

set_option autoImplicit false

namespace BookmarkHub.Json

/-! ## From tokens to documents -/

open Progress in
mutual

theorem push_tokens (value : Json) (frames : List Frame) :
    (tokens value).foldl push (.anyValue frames) = deliver (Document.ofJson value) frames := by
  match value with
  | .null | .bool _ | .number _ | .text _ => rfl
  | .list [] => rfl
  | .list (first :: rest) =>
      have opens : push (.anyValue frames) .openList = .firstItem frames := rfl
      have head : (tokens first).foldl push (.firstItem frames) =
          .nextItem [Document.ofJson first] frames := push_firstItem first frames
      have tail := push_itemTokens rest [Document.ofJson first] frames
      have closes : push (.nextItem (Document.ofItems (first :: rest)).reverse frames) .closeList =
          deliver (.list (Document.ofItems (first :: rest)).reverse.reverse .closed) frames := rfl
      rw [List.reverse_reverse, Document.ofItems, List.reverse_cons] at closes
      simp only [tokens, List.foldl_append, List.foldl_cons, List.foldl_nil, opens, head, tail,
        closes, Document.ofJson, Document.ofItems]
  | .record [] => rfl
  | .record ((name, value) :: rest) =>
      have opens : push (push (push (.anyValue frames) .openRecord) (.text (some name))) .colon =
          .anyValue (.record [] (some name) :: frames) := rfl
      have head : (tokens value).foldl push (.anyValue (.record [] (some name) :: frames)) =
          .nextMember [(some name, Document.ofJson value)] frames := push_tokens value _
      have tail := push_memberTokens rest [(some name, Document.ofJson value)] frames
      have closes : push (.nextMember (Document.ofMembers ((name, value) :: rest)).reverse frames)
          .closeRecord =
          deliver (.record (Document.ofMembers ((name, value) :: rest)).reverse.reverse .closed)
            frames := rfl
      rw [List.reverse_reverse, Document.ofMembers, List.reverse_cons] at closes
      simp only [tokens, List.foldl_append, List.foldl_cons, List.foldl_nil, opens, head, tail,
        closes, Document.ofJson, Document.ofMembers]

theorem push_firstItem (value : Json) (frames : List Frame) :
    (tokens value).foldl push (.firstItem frames) =
      deliver (Document.ofJson value) (.list [] :: frames) := by
  rw [← push_tokens value (.list [] :: frames)]
  match value with
  | .null | .bool _ | .number _ | .text _ => rfl
  | .list [] | .list (_ :: _) => rfl
  | .record [] | .record (_ :: _) => rfl

theorem push_itemTokens (items : List Json) (earlier : List Document) (frames : List Frame) :
    (itemTokens items).foldl push (.nextItem earlier frames) =
      .nextItem ((Document.ofItems items).reverse ++ earlier) frames := by
  match items with
  | [] => rfl
  | item :: rest =>
      have comma : push (.nextItem earlier frames) .comma = .anyValue (.list earlier :: frames) :=
        rfl
      have head : (tokens item).foldl push (.anyValue (.list earlier :: frames)) =
          .nextItem (Document.ofJson item :: earlier) frames := push_tokens item _
      have tail := push_itemTokens rest (Document.ofJson item :: earlier) frames
      simp only [itemTokens, List.foldl_append, List.foldl_cons, comma, head, tail,
        Document.ofItems, List.reverse_cons, List.append_assoc, List.singleton_append]

theorem push_memberTokens (members : List (String × Json))
    (earlier : List (Option String × Document)) (frames : List Frame) :
    (memberTokens members).foldl push (.nextMember earlier frames) =
      .nextMember ((Document.ofMembers members).reverse ++ earlier) frames := by
  match members with
  | [] => rfl
  | (name, value) :: rest =>
      have comma : push (push (push (.nextMember earlier frames) .comma) (.text (some name)))
          .colon = .anyValue (.record earlier (some name) :: frames) := rfl
      have head : (tokens value).foldl push (.anyValue (.record earlier (some name) :: frames)) =
          .nextMember ((some name, Document.ofJson value) :: earlier) frames := push_tokens value _
      have tail := push_memberTokens rest ((some name, Document.ofJson value) :: earlier) frames
      simp only [memberTokens, List.foldl_append, List.foldl_cons, comma, head, tail,
        Document.ofMembers, List.reverse_cons, List.append_assoc, List.singleton_append]

end

/-- A text with the tokens of a value stands for that value. -/
theorem ofText_of_tokens {Value : Type} (read : Reader Value) {text : String} {value : Json}
    (scanned : Token.scan text.toList = tokens value) :
    ofText read text = read .ofText (Document.ofJson value) := by
  have whole : Document.ofText text = (Document.ofJson value, false) := by
    rw [Document.ofText, scanned, push_tokens]
    rfl
  simp only [ofText, whole]
  cases read .ofText (Document.ofJson value) <;> rfl

theorem ofText_written {Value : Type} (read : Reader Value) (value : Json)
    (writable : value.IsWritable) :
    ofText read value.toText = read .ofText (Document.ofJson value) := by
  have scanned := scan_compact value writable Token.endsNumber_nil
  rw [List.append_nil, Token.scan, List.append_nil] at scanned
  refine ofText_of_tokens read ?_
  rw [toText, String.toList_ofList, scanned]

/-! ## Numbers of texts -/

def Document.Fits (document : Document) : Prop := ∀ number ∈ document.numbers, number.Fits

namespace Document
variable {items : List Document} {members : List (Option String × Document)} {ending : Ending}

@[simp] theorem fits_list : (Document.list items ending).Fits ↔ ∀ item ∈ items, item.Fits := by
  induction items with
  | nil => simp [Fits, numbers, itemNumbers]
  | cons item rest ih =>
      simp only [Fits, numbers, itemNumbers, List.forall_mem_append, List.forall_mem_cons] at ih ⊢
      rw [ih]

@[simp] theorem fits_record :
    (Document.record members ending).Fits ↔ ∀ entry ∈ members, entry.2.Fits := by
  induction members with
  | nil => simp [Fits, numbers, memberNumbers]
  | cons entry rest ih =>
      simp only [Fits, numbers, memberNumbers, List.forall_mem_append, List.forall_mem_cons] at ih ⊢
      rw [ih]

@[simp] theorem fits_cutText (taken skipped : Fault) : (Document.cutText taken skipped).Fits :=
  nofun

@[simp] theorem fits_stray (taken skipped : Fault) : (Document.stray taken skipped).Fits :=
  nofun

@[simp] theorem fits_absent : Document.absent.Fits := nofun

end Document

def Frame.Fits : Frame → Prop
  | .list items => ∀ item ∈ items, item.Fits
  | .record members _ => ∀ entry ∈ members, entry.2.Fits

namespace Progress

def Fits : Progress → Prop
  | .anyValue frames | .firstItem frames | .firstName frames => ∀ frame ∈ frames, frame.Fits
  | .nextItem items frames => (∀ item ∈ items, item.Fits) ∧ ∀ frame ∈ frames, frame.Fits
  | .nextName members frames | .colon members _ frames | .nextMember members frames =>
      (∀ entry ∈ members, entry.2.Fits) ∧ ∀ frame ∈ frames, frame.Fits
  | .complete document | .overfull document | .ruined document => document.Fits

section Frames
variable {frames : List Frame} {document : Document}

theorem deliver_fits (fits : document.Fits) (outer : ∀ frame ∈ frames, frame.Fits) :
    (deliver document frames).Fits := by
  match frames with
  | [] => exact fits
  | .list items :: rest | .record members name :: rest =>
      obtain ⟨earlier, outer⟩ := List.forall_mem_cons.1 outer
      exact ⟨List.forall_mem_cons.2 ⟨fits, earlier⟩, outer⟩

theorem abandon_fits (fits : document.Fits) (outer : ∀ frame ∈ frames, frame.Fits) :
    (abandon document frames).Fits := by
  induction frames generalizing document with
  | nil => exact fits
  | cons frame rest ih =>
      obtain ⟨earlier, further⟩ := List.forall_mem_cons.1 outer
      cases frame with
      | list items =>
          refine ih ?_ further
          rw [Document.fits_list]
          intro item member
          rcases List.mem_cons.1 (List.mem_reverse.1 member) with rfl | before
          · exact fits
          · exact earlier item before
      | record members name =>
          refine ih ?_ further
          rw [Document.fits_record]
          intro entry member
          rcases List.mem_cons.1 (List.mem_reverse.1 member) with rfl | before
          · exact fits
          · exact earlier entry before

theorem fits_reversed_list {items : List Document} (earlier : ∀ item ∈ items, item.Fits)
    (ending : Ending) : (Document.list items.reverse ending).Fits :=
  Document.fits_list.2 fun item member => earlier item (List.mem_reverse.1 member)

theorem fits_reversed_record {members : List (Option String × Document)}
    (earlier : ∀ entry ∈ members, entry.2.Fits) (ending : Ending) :
    (Document.record members.reverse ending).Fits :=
  Document.fits_record.2 fun entry member => earlier entry (List.mem_reverse.1 member)

theorem pushValue_fits (outer : ∀ frame ∈ frames, frame.Fits) {token : Token}
    (fits : token.Fits) : (pushValue frames token).Fits := by
  have stray (taken skipped : Fault) : (abandon (.stray taken skipped) frames).Fits :=
    abandon_fits (Document.fits_stray taken skipped) outer
  cases token with
  | openList | openRecord => exact outer
  | null | bool | text => exact deliver_fits nofun outer
  | number value =>
      refine deliver_fits (fun number member => ?_) outer
      cases Option.mem_toList.1 member
      exact fits number rfl
  | cutText taken skipped => exact abandon_fits (Document.fits_cutText taken skipped) outer
  | stray taken skipped => exact stray taken skipped
  | closeList | closeRecord | comma | colon => exact stray .malformed .malformed

theorem pushName_fits (outer : ∀ frame ∈ frames, frame.Fits)
    {members : List (Option String × Document)} (earlier : ∀ entry ∈ members, entry.2.Fits)
    (comma : Bool) (token : Token) : (pushName members frames comma token).Fits := by
  cases token with
  | text name => exact ⟨earlier, outer⟩
  | _ => exact abandon_fits (fits_reversed_record earlier _) outer

theorem push_fits {progress : Progress} (before : progress.Fits) {token : Token}
    (fits : token.Fits) : (progress.push token).Fits := by
  match progress with
  | .anyValue frames => exact pushValue_fits before fits
  | .firstItem frames =>
      have inner : ∀ frame ∈ Frame.list [] :: frames, frame.Fits :=
        List.forall_mem_cons.2 ⟨nofun, before⟩
      cases token with
      | closeList => exact deliver_fits nofun before
      | _ => exact pushValue_fits inner fits
  | .nextItem items frames =>
      cases token with
      | comma => exact List.forall_mem_cons.2 before
      | closeList => exact deliver_fits (fits_reversed_list before.1 _) before.2
      | _ => exact abandon_fits (fits_reversed_list before.1 _) before.2
  | .firstName frames =>
      have nobody : ∀ entry ∈ ([] : List (Option String × Document)), entry.2.Fits := nofun
      simp only [push]
      split
      · exact deliver_fits nofun before
      · exact pushName_fits before nobody false token
  | .nextName members frames => exact pushName_fits before.2 before.1 true token
  | .colon members name frames =>
      have inner : ∀ frame ∈ Frame.record members name :: frames, frame.Fits :=
        List.forall_mem_cons.2 before
      cases token with
      | colon => exact inner
      | _ => exact abandon_fits (Document.fits_stray _ _) inner
  | .nextMember members frames =>
      cases token with
      | comma => exact before
      | closeRecord => exact deliver_fits (fits_reversed_record before.1 _) before.2
      | _ => exact abandon_fits (fits_reversed_record before.1 _) before.2
  | .complete document | .overfull document | .ruined document => exact before

theorem pushes_fit {tokens : List Token} (fits : ∀ token ∈ tokens, token.Fits)
    {progress : Progress} (before : progress.Fits) : (tokens.foldl push progress).Fits := by
  induction tokens generalizing progress with
  | nil => exact before
  | cons token rest ih =>
      obtain ⟨first, later⟩ := List.forall_mem_cons.1 fits
      exact ih later (push_fits before first)

theorem finish_fits {progress : Progress} (before : progress.Fits) :
    progress.finish.1.Fits := by
  match progress with
  | .anyValue [] => exact Document.fits_absent
  | .anyValue (.list items :: frames) =>
      obtain ⟨earlier, outer⟩ := List.forall_mem_cons.1 before
      exact abandon_fits (fits_reversed_list earlier _) outer
  | .anyValue (.record members name :: frames) =>
      exact abandon_fits Document.fits_absent before
  | .firstItem frames | .firstName frames => exact abandon_fits nofun before
  | .nextItem items frames => exact abandon_fits (fits_reversed_list before.1 _) before.2
  | .nextName members frames | .nextMember members frames =>
      exact abandon_fits (fits_reversed_record before.1 _) before.2
  | .colon members name frames =>
      exact abandon_fits Document.fits_absent (List.forall_mem_cons.2 before)
  | .complete document | .overfull document | .ruined document => exact before

end Frames

end Progress

theorem Document.ofText_fits (text : String) : (Document.ofText text).1.Fits := by
  have fits : ∀ token ∈ Token.scan text.toList, token.Fits := Token.scan_fits text.toList
  have start : (Progress.anyValue []).Fits := nofun
  exact Progress.finish_fits (Progress.pushes_fit fits start)

/-! ## Free-form values of texts -/

/-- A value as JSON has it: the objects are in order, and the numbers fit. -/
structure IsProper (value : Json) : Prop where
  ordered : value.IsOrdered
  fits : ∀ number ∈ value.numbers, number.Fits

/-- A value without doubles. -/
def IsWhole (value : Json) : Prop := ∀ number ∈ value.numbers, number.IsWhole

theorem IsProper.writable {value : Json} (proper : value.IsProper) (whole : value.IsWhole) :
    value.IsWritable := fun number member => ⟨proper.fits number member, whole number member⟩

theorem readJson_proper {origin : Origin} {document : Document} (fits : document.Fits)
    {value : Json} (read : readJson origin document = .ok value) :
    value.IsProper ∧ origin.Allows value.depth := by
  have readable := readJson_readable document read
  exact ⟨⟨readable.ordered, fun number member => fits number (readable.among member)⟩,
    readable.allowed⟩

theorem read_of_ofText {Value : Type} {read : Reader Value} {text : String} {value : Value}
    (decoded : ofText read text = .ok value) :
    read .ofText (Document.ofText text).1 = .ok value := by
  unfold ofText at decoded
  generalize Document.ofText text = whole at decoded ⊢
  obtain ⟨_, reads, rest⟩ := ok_of_bind decoded
  split at rest
  · cases rest
  · cases rest
    exact reads

end BookmarkHub.Json
