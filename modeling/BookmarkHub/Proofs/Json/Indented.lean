import BookmarkHub.Proofs.Json.Documents

/-!
# The indented form of a value

Indentation is blank: a value in its indented form has the tokens that it has in
its compact form, and so it is read back from either.
-/

set_option autoImplicit false

namespace BookmarkHub.Json

namespace Token

theorem scan_blank {mark : Char} (blank : isJsonBlank mark = true) (rest : List Char) :
    scan (mark :: rest) = scan rest := by
  rw [scan, if_pos blank]

theorem scan_spaces (count : Nat) (rest : List Char) :
    scan (List.replicate count ' ' ++ rest) = scan rest := by
  induction count with
  | zero => rfl
  | succ count ih =>
      rw [List.replicate_succ, List.cons_append, scan_blank rfl]
      exact ih

theorem scan_lineStart (depth : Nat) (rest : List Char) :
    scan (lineStart depth ++ rest) = scan rest := by
  rw [lineStart, List.cons_append, scan_blank rfl]
  exact scan_spaces (2 * depth) rest

theorem scan_comma (rest : List Char) : scan (',' :: rest) = .comma :: scan rest :=
  scan_token rfl rfl

theorem scan_colonSpace (rest : List Char) : scan (':' :: ' ' :: rest) = .colon :: scan rest := by
  have colon : scan (':' :: ' ' :: rest) = .colon :: scan (' ' :: rest) := scan_token rfl rfl
  rw [colon, scan_blank rfl]

theorem endsNumber_lineStart (depth : Nat) (rest : List Char) :
    EndsNumber (lineStart depth ++ rest) :=
  endsNumber_cons rfl (by decide) rfl _

theorem endsNumber_indentedItems (depth outer : Nat) (items : List Json) (rest : List Char) :
    EndsNumber (indentedItems depth items ++ (lineStart outer ++ rest)) := by
  cases items with
  | nil => exact endsNumber_lineStart outer rest
  | cons item more => exact endsNumber_cons rfl (by decide) rfl _

theorem endsNumber_indentedMembers (depth outer : Nat) (members : List (String × Json))
    (rest : List Char) :
    EndsNumber (indentedMembers depth members ++ (lineStart outer ++ rest)) := by
  cases members with
  | nil => exact endsNumber_lineStart outer rest
  | cons entry more => exact endsNumber_cons rfl (by decide) rfl _

end Token

open Token in
mutual

theorem scan_indented (depth : Nat) (value : Json) (writable : value.IsWritable)
    {rest : List Char} (ends : EndsNumber rest) :
    scan (indented depth value ++ rest) = tokens value ++ scan rest := by
  match value with
  | .null => exact scan_token rfl (readWord_letters .null "ull".toList rest)
  | .bool value => exact scan_writeBool value rest
  | .number value =>
      obtain ⟨fits, whole⟩ := writable value (List.mem_singleton_self value)
      exact scan_writeNumber fits whole ends
  | .text value => exact scan_writeText value rest
  | .list [] =>
      -- an empty list has no line of its own, and so it is written as in the compact form
      exact scan_compact (.list []) writable ends
  | .list (first :: more) =>
      rw [writable_list, List.forall_mem_cons] at writable
      have opens (more : List Char) : scan ('[' :: more) = .openList :: scan more :=
        scan_token rfl rfl
      have head := scan_indented (depth + 1) first writable.1
        (endsNumber_indentedItems (depth + 1) depth more (']' :: rest))
      have tail := scan_indentedItems (depth + 1) depth more writable.2 rest
      simp [indented, tokens, opens, scan_lineStart, head, tail]
  | .record [] => exact scan_compact (.record []) writable ends
  | .record ((name, value) :: more) =>
      rw [writable_record, List.forall_mem_cons] at writable
      have opens (more : List Char) : scan ('\x7b' :: more) = .openRecord :: scan more :=
        scan_token rfl rfl
      have head := scan_indented (depth + 1) value writable.1
        (endsNumber_indentedMembers (depth + 1) depth more ('\x7d' :: rest))
      have tail := scan_indentedMembers (depth + 1) depth more writable.2 rest
      simp [indented, tokens, opens, scan_lineStart, scan_writeText, scan_colonSpace, head, tail]

theorem scan_indentedItems (depth outer : Nat) (items : List Json)
    (writable : ∀ item ∈ items, item.IsWritable) (rest : List Char) :
    scan (indentedItems depth items ++ (lineStart outer ++ ']' :: rest)) =
      itemTokens items ++ .closeList :: scan rest := by
  match items with
  | [] =>
      rw [indentedItems, List.nil_append, scan_lineStart]
      exact scan_token rfl rfl
  | item :: more =>
      rw [List.forall_mem_cons] at writable
      have head := scan_indented depth item writable.1
        (endsNumber_indentedItems depth outer more (']' :: rest))
      have tail := scan_indentedItems depth outer more writable.2 rest
      simp [indentedItems, itemTokens, scan_comma, scan_lineStart, head, tail]

theorem scan_indentedMembers (depth outer : Nat) (members : List (String × Json))
    (writable : ∀ entry ∈ members, entry.2.IsWritable) (rest : List Char) :
    scan (indentedMembers depth members ++ (lineStart outer ++ '\x7d' :: rest)) =
      memberTokens members ++ .closeRecord :: scan rest := by
  match members with
  | [] =>
      rw [indentedMembers, List.nil_append, scan_lineStart]
      exact scan_token rfl rfl
  | (name, value) :: more =>
      rw [List.forall_mem_cons] at writable
      have head := scan_indented depth value writable.1
        (endsNumber_indentedMembers depth outer more ('\x7d' :: rest))
      have tail := scan_indentedMembers depth outer more writable.2 rest
      simp [indentedMembers, memberTokens, scan_comma, scan_lineStart, scan_writeText,
        scan_colonSpace, head, tail]

end

/-- A value is read back from its indented form as it is from its compact form. -/
theorem ofText_indented {Value : Type} (read : Reader Value) (value : Json)
    (writable : value.IsWritable) :
    ofText read value.toIndentedText = read .ofText (Document.ofJson value) := by
  have scanned := scan_indented 0 value writable Token.endsNumber_nil
  rw [List.append_nil, Token.scan, List.append_nil] at scanned
  refine ofText_of_tokens read ?_
  rw [toIndentedText, String.toList_ofList, scanned]

end BookmarkHub.Json
