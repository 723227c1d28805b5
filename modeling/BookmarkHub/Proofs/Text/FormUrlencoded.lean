import BookmarkHub.Text.FormUrlencoded
import Mathlib.Tactic.IntervalCases

/-!
# Form encoding undone

What is encoded decodes to the text it was, whatever characters are in it.  No
mark that separates the parts of a query, or a query from what is around it,
occurs in what is encoded, so that a query reads as the pairs it was made of.
-/

set_option autoImplicit false

namespace BookmarkHub.FormUrlencoded

/-! ## Bytes -/

theorem isPlain_iff (byte : UInt8) :
    isPlain byte = true ↔ 0x30 ≤ byte.toNat ∧ byte.toNat ≤ 0x39 ∨
      0x41 ≤ byte.toNat ∧ byte.toNat ≤ 0x5a ∨ 0x61 ≤ byte.toNat ∧ byte.toNat ≤ 0x7a ∨
      byte.toNat = 0x2a ∨ byte.toNat = 0x2d ∨ byte.toNat = 0x2e ∨ byte.toNat = 0x5f := by
  simp only [isPlain, Bool.or_eq_true, decide_eq_true_eq, beq_iff_eq, or_assoc]

theorem toNat_ofNat_byte {byte : UInt8} (ascii : byte.toNat < 128) :
    (Char.ofNat byte.toNat).toNat = byte.toNat := by
  have valid : byte.toNat.isValidChar := Or.inl (by omega)
  rw [Char.ofNat, dif_pos valid]
  rfl

theorem utf8_ofNat_byte {byte : UInt8} (ascii : byte.toNat < 128) :
    String.utf8EncodeChar (Char.ofNat byte.toNat) = [byte] := by
  have code := toNat_ofNat_byte ascii
  have small : (Char.ofNat byte.toNat).val.toNat ≤ 127 := by
    show (Char.ofNat byte.toNat).toNat ≤ 127
    omega
  simp only [String.utf8EncodeChar, small, if_true]
  show [UInt8.ofNat (Char.ofNat byte.toNat).toNat] = [byte]
  rw [code, UInt8.ofNat_toNat]

theorem hexValue?_hexMark {value : Nat} (small : value < 16) :
    hexValue? (hexMark value) = some value := by
  interval_cases value <;> rfl

theorem decodeBytes_of_other {mark : Char} (noPlus : mark ≠ '+') (noPercent : mark ≠ '%')
    (rest : List Char) :
    decodeBytes (mark :: rest) = String.utf8EncodeChar mark ++ decodeBytes rest := by
  rw [decodeBytes]
  · exact noPlus
  · intro high low more same _
    exact noPercent same

theorem decodeBytes_encodeByte (byte : UInt8) (rest : List Char) :
    decodeBytes (encodeByte byte ++ rest) = byte :: decodeBytes rest := by
  have bound := byte.toNat_lt
  unfold encodeByte
  split
  · rename_i plain
    have ranges := (isPlain_iff byte).1 plain
    have ascii : byte.toNat < 128 := by omega
    have code := toNat_ofNat_byte ascii
    have unlike (mark : Char) (other : mark.toNat ≠ byte.toNat) : Char.ofNat byte.toNat ≠ mark := by
      rintro rfl
      exact other code
    have noPlus : '+'.toNat ≠ byte.toNat := by
      show 0x2b ≠ byte.toNat
      omega
    have noPercent : '%'.toNat ≠ byte.toNat := by
      show 0x25 ≠ byte.toNat
      omega
    rw [List.singleton_append, decodeBytes_of_other (unlike _ noPlus) (unlike _ noPercent),
      utf8_ofNat_byte ascii]
    rfl
  · split
    · rename_i space
      rw [space]
      rfl
    · have high : hexValue? (hexMark (byte.toNat / 16)) = some (byte.toNat / 16) :=
        hexValue?_hexMark (by omega)
      have low : hexValue? (hexMark (byte.toNat % 16)) = some (byte.toNat % 16) :=
        hexValue?_hexMark (by omega)
      have whole : UInt8.ofNat (16 * (byte.toNat / 16) + byte.toNat % 16) = byte := by
        rw [Nat.div_add_mod, UInt8.ofNat_toNat]
      simp only [List.cons_append, List.nil_append, decodeBytes, high, low, whole]

theorem decodeBytes_encodeBytes (bytes : List UInt8) :
    decodeBytes (bytes.flatMap encodeByte) = bytes := by
  induction bytes with
  | nil => rfl
  | cons byte rest ih => rw [List.flatMap_cons, decodeBytes_encodeByte, ih]

theorem decode_encode (text : String) : decode (encode text) = some text := by
  have bytes : (bytesOf text.toList).toByteArray = text.toByteArray :=
    congrArg String.toByteArray (String.ofList_toList (s := text))
  rw [decode, encode, decodeBytes_encodeBytes, bytes, String.fromUTF8?,
    dif_pos text.isValidUTF8]
  rfl

/-! ## Marks that separate -/

/-- A mark that ends neither a name, nor a value, nor a query. -/
def Joins (mark : Char) : Prop := mark ≠ '&' ∧ mark ≠ '=' ∧ mark ≠ '#'

theorem joins_of_code {mark : Char} (code : mark.toNat ≠ 0x26 ∧ mark.toNat ≠ 0x3d ∧
    mark.toNat ≠ 0x23) : Joins mark := by
  refine ⟨?_, ?_, ?_⟩
  · rintro rfl
    exact code.1 rfl
  · rintro rfl
    exact code.2.1 rfl
  · rintro rfl
    exact code.2.2 rfl

theorem hexMark_joins {value : Nat} (small : value < 16) : Joins (hexMark value) := by
  interval_cases value <;> exact joins_of_code (by decide)

theorem encodeByte_joins (byte : UInt8) : ∀ mark ∈ encodeByte byte, Joins mark := by
  have bound := byte.toNat_lt
  intro mark member
  unfold encodeByte at member
  split at member
  · rename_i plain
    have ranges := (isPlain_iff byte).1 plain
    have ascii : byte.toNat < 128 := by omega
    have code := toNat_ofNat_byte ascii
    rw [List.mem_singleton.1 member]
    exact joins_of_code (by omega)
  · split at member
    · rw [List.mem_singleton.1 member]
      exact joins_of_code (by decide)
    · simp only [List.mem_cons, List.not_mem_nil, or_false] at member
      rcases member with rfl | rfl | rfl
      · exact joins_of_code (by decide)
      · exact hexMark_joins (by omega)
      · exact hexMark_joins (by omega)

theorem encode_joins (text : String) : ∀ mark ∈ encode text, Joins mark := by
  intro mark member
  obtain ⟨byte, _, among⟩ := List.mem_flatMap.1 member
  exact encodeByte_joins byte mark among

theorem mem_encodePair {pair : String × String} {mark : Char} (member : mark ∈ encodePair pair) :
    mark = '=' ∨ Joins mark := by
  rcases List.mem_append.1 member with name | value
  · exact Or.inr (encode_joins _ mark name)
  · rcases List.mem_cons.1 value with same | among
    · exact Or.inl same
    · exact Or.inr (encode_joins _ mark among)

theorem encodePair_unseparated (pair : String × String) : '&' ∉ encodePair pair := by
  intro member
  rcases mem_encodePair member with same | joins
  · cases same
  · exact joins.1 rfl

/-! ## Pairs -/

theorem parsePair_encodePair (pair : String × String) :
    parsePair (encodePair pair) = some pair := by
  have named : ∀ mark ∈ encode pair.1, (mark != '=') = true := fun mark member =>
    bne_iff_ne.2 (encode_joins _ mark member).2.1
  have name : (encodePair pair).takeWhile (· != '=') = encode pair.1 := by
    rw [encodePair, List.takeWhile_append_of_pos named]
    exact List.append_nil _
  have value : ((encodePair pair).dropWhile (· != '=')).drop 1 = encode pair.2 := by
    rw [encodePair, List.dropWhile_append_of_pos named]
    rfl
  rw [parsePair, name, value, decode_encode, decode_encode]
  rfl

theorem splitAt_of_unseparated {separator : Char} {part : List Char} (free : separator ∉ part) :
    splitAt separator part = [part] := by
  induction part with
  | nil => rfl
  | cons mark rest ih =>
      obtain ⟨other, further⟩ := not_or.1 (mt List.mem_cons.2 free)
      rw [splitAt, ih further]
      exact if_neg (Ne.symm other)

theorem splitAt_separated {separator : Char} {part : List Char} (free : separator ∉ part)
    (rest : List Char) :
    splitAt separator (part ++ separator :: rest) = part :: splitAt separator rest := by
  have some : ∀ marks, splitAt separator marks ≠ [] := by
    intro marks
    cases marks with
    | nil => exact List.cons_ne_nil _ _
    | cons mark more =>
        rw [splitAt]
        split
        · exact List.cons_ne_nil _ _
        · split <;> exact List.cons_ne_nil _ _
  induction part with
  | nil =>
      obtain ⟨first, parts, split⟩ := List.exists_cons_of_ne_nil (some rest)
      rw [List.nil_append, splitAt, split]
      exact if_pos rfl
  | cons mark before ih =>
      obtain ⟨other, further⟩ := not_or.1 (mt List.mem_cons.2 free)
      rw [List.cons_append, splitAt, ih further]
      exact if_neg (Ne.symm other)

theorem splitAt_intercalate {separator : Char} {parts : List (List Char)}
    (free : ∀ part ∈ parts, separator ∉ part) (any : parts ≠ []) :
    splitAt separator (List.intercalate [separator] parts) = parts := by
  induction parts with
  | nil => exact absurd rfl any
  | cons first rest ih =>
      have head := free first (List.mem_cons_self ..)
      cases rest with
      | nil => rw [List.intercalate_singleton, splitAt_of_unseparated head]
      | cons second more =>
          have tail := ih (fun part member => free part (List.mem_cons_of_mem _ member))
            (List.cons_ne_nil _ _)
          rw [List.intercalate_cons_cons, List.append_assoc, List.singleton_append,
            splitAt_separated head, tail]

theorem mapM_parsePair (pairs : List (String × String)) :
    (pairs.map encodePair).mapM parsePair = some pairs := by
  induction pairs with
  | nil => rfl
  | cons pair rest ih =>
      rw [List.map_cons, List.mapM_cons, parsePair_encodePair, ih]
      rfl

/-- A query reads as the pairs it was made of, and nothing else. -/
theorem parse_query (pairs : List (String × String)) : parse (query pairs) = some pairs := by
  have free : ∀ part ∈ pairs.map encodePair, '&' ∉ part := by
    intro part member
    obtain ⟨pair, _, rfl⟩ := List.mem_map.1 member
    exact encodePair_unseparated pair
  have kept : (pairs.map encodePair).filter (!·.isEmpty) = pairs.map encodePair := by
    refine List.filter_eq_self.2 fun part member => ?_
    obtain ⟨pair, _, rfl⟩ := List.mem_map.1 member
    simp [encodePair]
  cases pairs with
  | nil => rfl
  | cons pair rest =>
      rw [parse, query, splitAt_intercalate free (List.cons_ne_nil _ _), kept, mapM_parsePair]

theorem query_cons_cons (first second : String × String) (rest : List (String × String)) :
    query (first :: second :: rest) = encodePair first ++ '&' :: query (second :: rest) := by
  simp only [query, List.map_cons, List.intercalate_cons_cons, List.append_assoc,
    List.singleton_append]

theorem query_concat {pairs : List (String × String)} (any : pairs ≠ [])
    (last : String × String) : query (pairs ++ [last]) = query pairs ++ '&' :: encodePair last := by
  induction pairs with
  | nil => exact absurd rfl any
  | cons first rest ih =>
      cases rest with
      | nil =>
          show query [first, last] = query [first] ++ _
          rw [query_cons_cons]
          simp only [query, List.map_cons, List.map_nil, List.intercalate_singleton]
      | cons second more =>
          have tail := ih (List.cons_ne_nil _ _)
          rw [List.cons_append] at tail
          rw [List.cons_append, List.cons_append, query_cons_cons, tail, query_cons_cons,
            List.append_assoc, List.cons_append]

theorem query_ends (pairs : List (String × String)) : '#' ∉ query pairs := by
  have free (pair : String × String) : '#' ∉ encodePair pair := by
    intro member
    rcases mem_encodePair member with same | joins
    · cases same
    · exact joins.2.2 rfl
  induction pairs with
  | nil => exact List.not_mem_nil
  | cons first rest ih =>
      cases rest with
      | nil =>
          rw [query, List.map_cons, List.map_nil, List.intercalate_singleton]
          exact free first
      | cons second more =>
          rw [query_cons_cons, List.mem_append, List.mem_cons]
          rintro (here | same | later)
          · exact free first here
          · cases same
          · exact ih later

end BookmarkHub.FormUrlencoded
