import BookmarkHub.Proofs.Json.Records
import BookmarkHub.Wire.Envelope

/-!
# Envelopes that are read back

An envelope without doubles is read back from the text that it is written as;
only a body of null is lost from a request.  Whatever text an envelope was read
from, the text that it is written as stands for the same envelope.
-/

set_option autoImplicit false

namespace BookmarkHub

open Json

/-! ## Parts of envelopes -/

theorem Method.read_back (origin : Origin) (method : Method) :
    read origin (Document.ofJson (.text method.name)) = .ok method := by
  cases origin <;> cases method <;> rfl

namespace QueryValue

theorem toJson_writable (value : QueryValue) : value.toJson.IsWritable := by
  cases value with
  | one text => exact nofun
  | many texts =>
      refine writable_list.2 fun item member => ?_
      obtain ⟨text, _, rfl⟩ := List.mem_map.1 member
      exact nofun

theorem toJson_allowed {origin : Origin} (allows : origin.Allows 1) (value : QueryValue) :
    origin.Allows value.toJson.depth := by
  cases value with
  | one text => exact allows.mono (Nat.zero_le 1)
  | many texts =>
      have flat : (Origin.text 0).Allows (itemDepth (texts.map Json.text)) := by
        refine Origin.allows_itemDepth fun item member => ?_
        obtain ⟨text, _, rfl⟩ := List.mem_map.1 member
        exact Nat.le_refl 0
      exact allows.mono (Nat.succ_le_succ flat)

theorem read_back {origin : Origin} (allows : origin.Allows 1) (value : QueryValue) :
    read origin (Document.ofJson value.toJson) = .ok value := by
  cases value with
  | one text => rfl
  | many texts =>
      have sound := readJson_of_allows (ofTexts texts) (ofTexts_ordered texts)
        ((many texts).toJson_allowed allows)
      have items : readItems readText .frame (Document.ofItems (texts.map .text)) = .ok texts :=
        readItems_back fun text _ => readText_back .frame text rfl
      simp only [read, toJson, sound, bind, Except.bind]
      simp only [ofTexts, Document.ofJson, items]
      rfl

end QueryValue

/-- A body as it is read from inside an envelope. -/
structure Json.IsEnclosed (body : Json) : Prop where
  proper : body.IsProper
  shallow : body.depth ≤ 126

theorem Json.readJson_enclosed {document : Document} (fits : document.Fits) {body : Json}
    (read : readJson (.text 126) document = .ok body) : body.IsEnclosed :=
  have ⟨proper, shallow⟩ := readJson_proper fits read
  ⟨proper, shallow⟩

/-! ## Requests -/

namespace Request

/-- The request as its receiver has it: a body of null is no body. -/
def received (request : Request) : Request :=
  { request with body := request.body.bind present? }

/-- The members that are left out when there are no query values. -/
def valueMembers (request : Request) : List (String × Json) :=
  if request.values.isEmpty then []
  else [("values", .record (request.values.entries.map fun entry => (entry.1, entry.2.toJson)))]

def bodyMembers (request : Request) : List (String × Json) :=
  match request.body with
  | none => []
  | some body => [("body", body)]

theorem toJson_eq (request : Request) :
    request.toJson = .record ([("id", .ofWord request.id), ("path", .text request.path),
      ("method", .text request.method.name)] ++ request.valueMembers ++ request.bodyMembers) := rfl

/-- A body without doubles, as JSON has it. -/
def HasWholeBody (request : Request) : Prop :=
  ∀ body, request.body = some body → body.IsProper ∧ body.IsWhole

theorem toJson_writable {request : Request} (whole : request.HasWholeBody) :
    request.toJson.IsWritable := by
  rw [toJson_eq]
  refine writable_record.2 (List.forall_mem_append.2 ⟨List.forall_mem_append.2 ⟨?_, ?_⟩, ?_⟩)
  · simp only [List.forall_mem_cons]
    exact ⟨ofWord_writable request.id, nofun, nofun, nofun⟩
  · unfold valueMembers
    split
    · exact nofun
    · refine List.forall_mem_singleton.2 (writable_record.2 fun entry member => ?_)
      obtain ⟨entry, _, rfl⟩ := List.mem_map.1 member
      exact entry.2.toJson_writable
  · unfold bodyMembers
    split
    · exact nofun
    · rename_i body there
      have ⟨proper, rounded⟩ := whole body there
      exact List.forall_mem_singleton.2 (proper.writable rounded)

theorem body_depth {request : Request} {body : Json} (there : request.body = some body) :
    body.depth + 1 ≤ request.toJson.depth := by
  have member : ("body", body) ∈ request.bodyMembers := by simp [bodyMembers, there]
  rw [toJson_eq]
  exact Nat.succ_le_succ (depth_le_memberDepth (List.mem_append_right _ member))

section Members
variable {inner : Origin} {draft : Draft} (request : Request)

theorem readNamed_values {innermost : Origin} (entered : inner.enter = .ok innermost)
    (allows : innermost.Allows 1) (missing : draft.values = none) :
    shape.readNamed inner draft (Document.ofMembers request.valueMembers) =
      .ok { draft with
        values := if request.values.isEmpty then none else some request.values } := by
  unfold valueMembers
  split
  · cases draft
    cases missing
    rfl
  · have table : readTable QueryValue.read inner _ = .ok request.values :=
      readTable_back entered request.values fun entry _ => QueryValue.read_back allows entry.2
    rw [Document.ofMembers, readNamed_field rfl missing table]
    rfl

theorem readNamed_body (missing : draft.body = none)
    (reads : ∀ body, request.body = some body →
      readJson inner (Document.ofJson body) = .ok body) :
    shape.readNamed inner draft (Document.ofMembers request.bodyMembers) =
      .ok { draft with body := request.body.map present? } := by
  unfold bodyMembers
  cases there : request.body with
  | none =>
      cases draft
      cases missing
      rfl
  | some body =>
      rw [Document.ofMembers, readNamed_field rfl missing (readOption_present? (reads body there))]
      rfl

end Members

theorem read_back {request : Request}
    (ordered : ∀ body, request.body = some body → body.IsOrdered)
    (shallow : request.toJson.depth ≤ 127) :
    read .ofText (Document.ofJson request.toJson) = .ok request.received := by
  have entered : Origin.ofText.enter = .ok (.text 126) := rfl
  have further : (Origin.text 126).enter = .ok (.text 125) := rfl
  have reads : ∀ body, request.body = some body →
      readJson (.text 126) (Document.ofJson body) = .ok body := by
    intro body there
    have allowed : (Origin.text 126).Allows body.depth :=
      Nat.le_of_succ_le_succ (Nat.le_trans (body_depth there) shallow)
    exact readJson_of_allows body (ordered body there) allowed
  have headed : shape.readNamed (.text 126) {} (Document.ofMembers [("id", .ofWord request.id),
      ("path", .text request.path), ("method", .text request.method.name)]) =
      .ok { id := some request.id, path := some request.path, method := some request.method } := by
    rw [Document.ofMembers, readNamed_field rfl rfl (readWord64_ofWord _ request.id),
      Document.ofMembers, readNamed_field rfl rfl rfl, Document.ofMembers,
      readNamed_field rfl rfl (Method.read_back _ request.method)]
    rfl
  have draft : shape.read {} .ofText (Document.ofJson request.toJson) =
      .ok { id := some request.id, path := some request.path, method := some request.method,
            values := if request.values.isEmpty then none else some request.values,
            body := request.body.map present? } := by
    rw [toJson_eq]
    refine readRecord_back entered ?_
    rw [ofMembers_append, ofMembers_append, List.append_assoc, readNamed_append headed,
      readNamed_append (readNamed_values request further (by decide : 1 ≤ 125) rfl),
      readNamed_body request rfl reads]
  have values : (if request.values.isEmpty then none else some request.values).getD Table.empty =
      request.values := by
    split
    · rename_i empty
      exact (Table.ext (List.isEmpty_iff.1 empty)).symm
    · rfl
  have body : (request.body.map present?).getD none = request.body.bind present? := by
    cases request.body <;> rfl
  rw [read, draft]
  show Except.ok _ = Except.ok _
  simp only [values, body]
  rfl

theorem toJson_shallow {request : Request}
    (shallow : ∀ body, request.body = some body → body.depth ≤ 126) :
    request.toJson.depth ≤ 127 := by
  have further : (Origin.text 126).enter = .ok (.text 125) := rfl
  have each : ∀ entry ∈ [("id", Json.ofWord request.id), ("path", .text request.path),
      ("method", .text request.method.name)] ++ request.valueMembers ++ request.bodyMembers,
      (Origin.text 126).Allows entry.2.depth := by
    refine List.forall_mem_append.2 ⟨List.forall_mem_append.2 ⟨?_, ?_⟩, ?_⟩
    · simp only [List.forall_mem_cons]
      exact ⟨Nat.zero_le _, Nat.zero_le _, Nat.zero_le _, nofun⟩
    · unfold valueMembers
      split
      · exact nofun
      · have one : (Origin.text 125).Allows 1 := Nat.succ_le_succ (Nat.zero_le 124)
        refine List.forall_mem_singleton.2 (Origin.Allows.of_enter further
          (Origin.allows_memberDepth fun entry member => ?_))
        obtain ⟨entry, _, rfl⟩ := List.mem_map.1 member
        exact entry.2.toJson_allowed one
    · unfold bodyMembers
      split
      · exact nofun
      · rename_i body there
        exact List.forall_mem_singleton.2 (shallow body there)
  rw [toJson_eq]
  exact Nat.succ_le_succ (Origin.allows_memberDepth each)

/-- No null is taken for a body. -/
def Draft.IsEnclosed (draft : Draft) : Prop :=
  ∀ body, draft.body = some (some body) → body.IsEnclosed ∧ body ≠ .null

theorem body_of_read {document : Document} (fits : document.Fits) {request : Request}
    (reads : read .ofText document = .ok request) {body : Json}
    (there : request.body = some body) : body.IsEnclosed ∧ body ≠ .null := by
  obtain ⟨draft, filled, reads⟩ := ok_of_bind reads
  obtain ⟨_, _, reads⟩ := ok_of_bind reads
  obtain ⟨_, _, reads⟩ := ok_of_bind reads
  obtain ⟨_, _, done⟩ := ok_of_bind reads
  cases done
  have keeps : ∀ inner, Origin.ofText.enter = .ok inner →
      ∀ field ∈ shape.fields, field.Keeps inner document.parts Draft.IsEnclosed := by
    intro inner entered
    cases entered
    simp only [shape, List.forall_mem_cons]
    refine ⟨?_, ?_, ?_, ?_, ?_, nofun⟩
    · exact field_keeps fun _ _ _ _ _ before => before
    · exact field_keeps fun _ _ _ _ _ before => before
    · exact field_keeps fun _ _ _ _ _ before => before
    · exact field_keeps fun _ _ _ _ _ before => before
    · refine field_keeps fun _ item value part read _ body there => ?_
      cases there
      obtain ⟨read, present⟩ := readJson_of_option read
      exact ⟨readJson_enclosed (fits.part part) read, present⟩
  have holds : draft.IsEnclosed := read_keeps keeps filled nofun
  cases found : draft.body with
  | none => simp [found] at there
  | some value => exact holds body (by simpa [found] using there)

end Request

/-! ## Responses -/

namespace Response

theorem toJson_writable {response : Response} (proper : response.body.IsProper)
    (whole : response.body.IsWhole) : response.toJson.IsWritable := by
  refine writable_record.2 ?_
  simp only [List.forall_mem_cons]
  have small : response.status.toNat < UInt64.size :=
    Nat.lt_trans response.status.toNat_lt_size (by decide)
  exact ⟨ofWord_writable response.id, ofNat_writable small, proper.writable whole, nofun⟩

theorem body_depth (response : Response) : response.body.depth + 1 = response.toJson.depth := by
  simp [toJson, depth, memberDepth, ofWord, ofNat]

theorem read_back {response : Response} (ordered : response.body.IsOrdered)
    (shallow : response.toJson.depth ≤ 127) :
    read .ofText (Document.ofJson response.toJson) = .ok response := by
  have entered : Origin.ofText.enter = .ok (.text 126) := rfl
  have allowed : (Origin.text 126).Allows response.body.depth :=
    Nat.le_of_succ_le_succ (Nat.le_trans (Nat.le_of_eq response.body_depth) shallow)
  have draft : shape.read {} .ofText (Document.ofJson response.toJson) =
      .ok ⟨some response.id, some response.status, some response.body⟩ := by
    refine readRecord_back entered ?_
    rw [Document.ofMembers, readNamed_field rfl rfl (readWord64_ofWord _ response.id),
      Document.ofMembers, readNamed_field rfl rfl (readWord16_ofNat _ response.status),
      Document.ofMembers, readNamed_field rfl rfl (readJson_of_allows _ ordered allowed)]
    rfl
  rw [read, draft]
  rfl

def Draft.IsEnclosed (draft : Draft) : Prop := ∀ body, draft.body = some body → body.IsEnclosed

theorem body_of_read {document : Document} (fits : document.Fits) {response : Response}
    (reads : read .ofText document = .ok response) : response.body.IsEnclosed := by
  obtain ⟨draft, filled, reads⟩ := ok_of_bind reads
  obtain ⟨_, _, reads⟩ := ok_of_bind reads
  obtain ⟨_, _, done⟩ := ok_of_bind reads
  cases done
  have keeps : ∀ inner, Origin.ofText.enter = .ok inner →
      ∀ field ∈ shape.fields, field.Keeps inner document.parts Draft.IsEnclosed := by
    intro inner entered
    cases entered
    simp only [shape, List.forall_mem_cons]
    refine ⟨?_, ?_, ?_, nofun⟩
    · exact field_keeps fun _ _ _ _ _ before => before
    · exact field_keeps fun _ _ _ _ _ before => before
    · refine field_keeps fun _ item value part read _ body there => ?_
      cases there
      exact readJson_enclosed (fits.part part) read
  have holds : draft.IsEnclosed := read_keeps keeps filled nofun
  cases found : draft.body with
  | none => exact ⟨⟨trivial, nofun⟩, Nat.zero_le _⟩
  | some body => exact holds body found

end Response

/-! ## Texts of envelopes -/

/-- Envelopes whose bodies have no doubles go over a socket unchanged, save that a body of null is
no body of a request.  Whatever text one was read from, its own text stands for the same. -/
structure EnvelopesReadBack : Prop where
  request : ∀ request : Request, request.HasWholeBody → request.toJson.depth ≤ 127 →
    ofText Request.read request.toText = .ok request.received
  response : ∀ response : Response, response.body.IsProper → response.body.IsWhole →
    response.toJson.depth ≤ 127 → ofText Response.read response.toText = .ok response
  requestAgain : ∀ text request, ofText Request.read text = .ok request →
    (∀ body, request.body = some body → body.IsWhole) →
    ofText Request.read request.toText = .ok request
  responseAgain : ∀ text response, ofText Response.read text = .ok response →
    response.body.IsWhole → ofText Response.read response.toText = .ok response

theorem Request.ofText_back {request : Request} (whole : request.HasWholeBody)
    (shallow : request.toJson.depth ≤ 127) :
    ofText read request.toText = .ok request.received := by
  rw [toText, ofText_written read _ (toJson_writable whole)]
  exact read_back (fun body there => (whole body there).1.ordered) shallow

theorem Request.received_of_present {request : Request}
    (present : ∀ body, request.body = some body → body ≠ .null) :
    request.received = request := by
  have body : request.body.bind present? = request.body := by
    cases there : request.body with
    | none => rfl
    | some body => exact present?_of_ne (present body there)
  rw [received, body]

theorem Response.ofText_back {response : Response} (proper : response.body.IsProper)
    (whole : response.body.IsWhole) (shallow : response.toJson.depth ≤ 127) :
    ofText read response.toText = .ok response := by
  rw [toText, ofText_written read _ (toJson_writable proper whole)]
  exact read_back proper.ordered shallow

theorem envelopes_read_back : EnvelopesReadBack where
  request _ whole shallow := Request.ofText_back whole shallow
  response _ proper whole shallow := Response.ofText_back proper whole shallow
  requestAgain text request decoded whole := by
    have fits := Document.ofText_fits text
    have bodies : ∀ body, request.body = some body → body.IsEnclosed ∧ body ≠ .null :=
      fun _ there => Request.body_of_read fits (read_of_ofText decoded) there
    have sendable : request.HasWholeBody := fun body there =>
      ⟨(bodies body there).1.proper, whole body there⟩
    have again := Request.ofText_back sendable
      (Request.toJson_shallow fun body there => (bodies body there).1.shallow)
    rwa [Request.received_of_present fun body there => (bodies body there).2] at again
  responseAgain text response decoded whole := by
    have enclosed := Response.body_of_read (Document.ofText_fits text) (read_of_ofText decoded)
    have shallow : response.toJson.depth ≤ 127 :=
      response.body_depth ▸ Nat.succ_le_succ enclosed.shallow
    exact Response.ofText_back enclosed.proper whole shallow

end BookmarkHub
