import BookmarkHub.Proofs.Json.Reading

/-!
# The tokens of written values

A value that is written without blanks is cut into its tokens again: every string
comes back through its escapes, and every whole number through its digits.  The
numbers that stand in any text at all are such as JSON can hold.
-/

set_option autoImplicit false

namespace BookmarkHub

theorem Decimal.digits_zero_of_head? {value : Nat} (zero : (digits value).head? = some '0') :
    value = 0 := by
  induction value using Nat.strongRecOn with
  | ind value ih =>
      have base : 1 < 10 := by decide
      rw [digits, Nat.toDigits_eq_if base] at zero
      split at zero
      · simpa using zero
      · rename_i long
        have first : (digits (value / 10)).head? = some '0' := by
          cases marks : digits (value / 10) with
          | nil => exact absurd marks Nat.toDigits_ne_nil
          | cons mark rest =>
              rw [digits] at marks
              simpa [marks] using zero
        have := ih (value / 10) (by omega) first
        omega

/-- A number that JSON can hold: a whole number of 64 bits, signed or not, or a double. -/
def Number.Fits : Number → Prop
  | .whole value => -Nat.pow 2 63 ≤ value ∧ value < UInt64.size
  | .double _ => True

def Number.IsWhole : Number → Prop
  | .whole _ => True
  | .double _ => False

namespace Json

namespace Token

/-! ## Strings -/

theorem hexValue?_hexMark : ∀ value < 16, hexValue? (hexMark value) = some value := by decide

theorem readUnit_hexMarks {value : Nat} (small : value < 0x20) (rest : List Char) :
    readUnit ('0' :: '0' :: hexMark (value / 16) :: hexMark (value % 16) :: rest) =
      .ok (value, rest) := by
  have high := hexValue?_hexMark (value / 16) (by omega)
  have low := hexValue?_hexMark (value % 16) (by omega)
  have zero : hexValue? '0' = some 0 := rfl
  have joined : ((16 * 0 + 0) * 16 + value / 16) * 16 + value % 16 = value := by omega
  simp only [readUnit, zero, high, low, joined]

theorem readEscape_control {mark : Char} (control : mark.toNat < 0x20) (rest : List Char) :
    readEscape ('u' :: '0' :: '0' :: hexMark (mark.toNat / 16) :: hexMark (mark.toNat % 16) ::
      rest) = .mark (some mark) rest := by
  have notLow : isLowHalf mark.toNat = false := by
    simp only [isLowHalf, decide_eq_false_iff_not]
    omega
  have notHigh : isHighHalf mark.toNat = false := by
    simp only [isHighHalf, decide_eq_false_iff_not]
    omega
  simp [readEscape, readUnit_hexMarks control, notLow, notHigh, Char.ofNat_toNat]

theorem readText_escape {mark : Char} {marks behind : List Char}
    (escape : readEscape marks = .mark (some mark) behind) (held : List Char) :
    readText (some held) ('\\' :: marks) = readText (some (mark :: held)) behind := by
  rw [readText]
  split
  · rename_i fault
    rw [escape] at fault
    cases fault
  · rename_i found
    rw [escape] at found
    cases found
    rfl
  · rename_i found
    rw [escape] at found
    cases found

theorem readText_plain {mark : Char} (quote : mark ≠ '"') (backslash : mark ≠ '\\')
    (printable : ¬ mark.toNat < 0x20) (held rest : List Char) :
    readText (some held) (mark :: rest) = readText (some (mark :: held)) rest := by
  rw [readText]
  · rw [if_neg printable]
    rfl
  · exact quote
  · exact backslash

theorem readText_escapeMark (mark : Char) (held rest : List Char) :
    readText (some held) (escapeMark mark ++ rest) = readText (some (mark :: held)) rest := by
  unfold escapeMark
  split
  case h_8 quote backslash _ _ _ _ _ =>
    split
    · rename_i control
      exact readText_escape (readEscape_control control rest) held
    · rename_i printable
      exact readText_plain quote backslash printable held rest
  all_goals exact readText_escape rfl held

theorem readText_escaped (text held rest : List Char) :
    readText (some held) (text.flatMap escapeMark ++ '"' :: rest) =
      (.text (some (String.ofList (held.reverse ++ text))), rest) := by
  induction text generalizing held with
  | nil => simp [readText]
  | cons mark more ih =>
      rw [List.flatMap_cons, List.append_assoc, readText_escapeMark, ih]
      simp

/-! ## Numbers -/

/-- A number ends here: neither a digit nor a point nor an exponent follows. -/
def EndsNumber (marks : List Char) : Prop :=
  ∀ mark ∈ marks.head?, mark.isDigit = false ∧ mark ≠ '.' ∧ isExponentMark mark = false

theorem readExponent_of_ends {rest : List Char} (ends : EndsNumber rest) :
    readExponent rest = .ok (none, rest) := by
  cases rest with
  | nil => rfl
  | cons mark more => simp [readExponent, (ends mark rfl).2.2]

theorem readNumber_digits (negative : Bool) (value : Nat) {rest : List Char}
    (ends : EndsNumber rest) :
    readNumber negative (Decimal.digits value ++ rest) =
      (.number (wholeNumber negative (Decimal.digits value)), rest) := by
  have digit : ∀ mark ∈ Decimal.digits value, mark.isDigit = true :=
    fun _ member => Decimal.isDigit_of_mem_digits member
  have taken : (Decimal.digits value ++ rest).takeWhile Char.isDigit = Decimal.digits value := by
    rw [List.takeWhile_append_of_pos digit]
    cases rest with
    | nil => simp
    | cons mark more => simp [(ends mark rfl).1]
  have left : (Decimal.digits value ++ rest).dropWhile Char.isDigit = rest := by
    rw [List.dropWhile_append_of_pos digit]
    cases rest with
    | nil => simp
    | cons mark more => simp [(ends mark rfl).1]
  have some : (Decimal.digits value).isEmpty = false := by
    simp [Decimal.digits]
  have proper : ¬ ((Decimal.digits value).head? = Option.some '0' ∧
      1 < (Decimal.digits value).length) := by
    rintro ⟨zero, long⟩
    cases Decimal.digits_zero_of_head? zero
    simp [Decimal.digits] at long
  simp only [readNumber, taken, left, some, Bool.false_eq_true, if_false, if_neg proper]
  split
  · rename_i behind
    exact absurd rfl (ends '.' rfl).2.1
  · rw [readExponent_of_ends ends]

theorem wholeNumber_digits {value : Nat} (small : value < UInt64.size) :
    wholeNumber false (Decimal.digits value) = some (.whole value) := by
  simp [wholeNumber, Decimal.valueOf_digits, small]

theorem wholeNumber_negative {value : Nat} (positive : 0 < value)
    (small : value ≤ Nat.pow 2 63) :
    wholeNumber true (Decimal.digits value) = some (.whole (-value)) := by
  have fits : 0 < value ∧ value ≤ Nat.pow 2 63 := ⟨positive, small⟩
  simp only [wholeNumber, Decimal.valueOf_digits, fits, and_self, if_true]

theorem readToken_digit {mark : Char} (digit : mark.isDigit = true) (rest : List Char) :
    readToken mark rest = readNumber false (mark :: rest) := by
  unfold readToken
  split
  case h_12 => rw [if_pos digit]
  all_goals cases digit

/-! ## Whole texts -/

theorem readWord_letters (token : Token) (letters rest : List Char) :
    readWord token letters (letters ++ rest) = (token, rest) := by
  induction letters with
  | nil => rfl
  | cons letter more ih => simpa [readWord] using ih

theorem scan_token {mark : Char} {rest behind : List Char} {token : Token}
    (visible : isJsonBlank mark = false) (read : readToken mark rest = (token, behind)) :
    scan (mark :: rest) = token :: scan behind := by
  rw [scan, if_neg (by simp [visible]), read]

theorem scan_writeText (text : String) (rest : List Char) :
    scan (writeText text ++ rest) = .text (some text) :: scan rest := by
  have read : readToken '"' (text.toList.flatMap escapeMark ++ '"' :: rest) =
      (.text (some text), rest) := by
    simpa [readToken] using readText_escaped text.toList [] rest
  rw [← scan_token rfl read, writeText]
  simp

theorem scan_writeBool (value : Bool) (rest : List Char) :
    scan (writeBool value ++ rest) = .bool value :: scan rest := by
  cases value with
  | false => exact scan_token rfl (readWord_letters (.bool false) "alse".toList rest)
  | true => exact scan_token rfl (readWord_letters (.bool true) "rue".toList rest)

theorem scan_digits {value : Nat} (small : value < UInt64.size) {rest : List Char}
    (ends : EndsNumber rest) :
    scan (Decimal.digits value ++ rest) = .number (some (.whole value)) :: scan rest := by
  have read := readNumber_digits false value ends
  rw [wholeNumber_digits small] at read
  cases marks : Decimal.digits value with
  | nil => exact absurd marks Nat.toDigits_ne_nil
  | cons mark more =>
      have member : mark ∈ Decimal.digits value := by simp [marks]
      have digit : mark.isDigit = true := Decimal.isDigit_of_mem_digits member
      rw [marks] at read
      refine scan_token ?_ ((readToken_digit digit _).trans read)
      cases blank : isJsonBlank mark with
      | false => rfl
      | true =>
          simp only [isJsonBlank, Bool.or_eq_true, beq_iff_eq] at blank
          rcases blank with ((rfl | rfl) | rfl) | rfl <;> cases digit

theorem scan_writeNumber {number : Number} (fits : number.Fits) (whole : number.IsWhole)
    {rest : List Char} (ends : EndsNumber rest) :
    scan (writeNumber number ++ rest) = .number (some number) :: scan rest := by
  match number with
  | .whole (.ofNat value) =>
      have small : value < UInt64.size := Int.ofNat_lt.1 fits.2
      exact scan_digits small ends
  | .whole (.negSucc value) =>
      have small : value + 1 ≤ Nat.pow 2 63 := by
        have least := fits.1
        omega
      have read := readNumber_digits true (value + 1) ends
      rw [wholeNumber_negative (Nat.succ_pos value) small] at read
      exact scan_token rfl read

end Token

/-! ## The tokens of a value -/

mutual

def tokens : Json → List Token
  | .null => [.null]
  | .bool value => [.bool value]
  | .number value => [.number (some value)]
  | .text value => [.text (some value)]
  | .list [] => [.openList, .closeList]
  | .list (first :: rest) => .openList :: tokens first ++ itemTokens rest ++ [.closeList]
  | .record [] => [.openRecord, .closeRecord]
  | .record ((name, value) :: rest) =>
      .openRecord :: .text (some name) :: .colon :: tokens value ++ memberTokens rest ++
        [.closeRecord]

/-- The tokens of the items after the first. -/
def itemTokens : List Json → List Token
  | [] => []
  | item :: rest => .comma :: tokens item ++ itemTokens rest

def memberTokens : List (String × Json) → List Token
  | [] => []
  | (name, value) :: rest =>
      .comma :: .text (some name) :: .colon :: tokens value ++ memberTokens rest

end

/-! ## Written values -/

/-- A value that survives being written: its numbers are whole, and they fit. -/
def IsWritable (value : Json) : Prop := ∀ number ∈ value.numbers, number.Fits ∧ number.IsWhole

theorem ofNat_writable {value : Nat} (small : value < UInt64.size) : (ofNat value).IsWritable := by
  refine List.forall_mem_singleton.2 ⟨⟨?_, ?_⟩, trivial⟩ <;> omega

theorem ofWord_writable (word : UInt64) : (ofWord word).IsWritable :=
  ofNat_writable word.toNat_lt_size

section Writable
variable {item : Json} {items : List Json} {name : String} {members : List (String × Json)}

theorem writable_list :
    (Json.list items).IsWritable ↔ ∀ item ∈ items, item.IsWritable := by
  induction items with
  | nil => simp [IsWritable, numbers, itemNumbers]
  | cons item rest ih =>
      simp only [IsWritable, numbers, itemNumbers, List.forall_mem_append,
        List.forall_mem_cons] at ih ⊢
      rw [ih]

theorem writable_record :
    (Json.record members).IsWritable ↔ ∀ entry ∈ members, entry.2.IsWritable := by
  induction members with
  | nil => simp [IsWritable, numbers, memberNumbers]
  | cons entry rest ih =>
      simp only [IsWritable, numbers, memberNumbers, List.forall_mem_append,
        List.forall_mem_cons] at ih ⊢
      rw [ih]

end Writable

namespace Token

theorem endsNumber_cons {mark : Char} (digit : mark.isDigit = false) (point : mark ≠ '.')
    (exponent : isExponentMark mark = false) (rest : List Char) : EndsNumber (mark :: rest) := by
  intro other first
  cases first
  exact ⟨digit, point, exponent⟩

theorem endsNumber_nil : EndsNumber [] := nofun

theorem endsNumber_items (items : List Json) (rest : List Char) :
    EndsNumber (compactItems items ++ ']' :: rest) := by
  cases items with
  | nil => exact endsNumber_cons rfl (by decide) rfl rest
  | cons item more => exact endsNumber_cons rfl (by decide) rfl _

theorem endsNumber_members (members : List (String × Json)) (rest : List Char) :
    EndsNumber (compactMembers members ++ '\x7d' :: rest) := by
  cases members with
  | nil => exact endsNumber_cons rfl (by decide) rfl rest
  | cons entry more => exact endsNumber_cons rfl (by decide) rfl _

end Token

open Token in
mutual

theorem scan_compact (value : Json) (writable : value.IsWritable) {rest : List Char}
    (ends : EndsNumber rest) : scan (compact value ++ rest) = tokens value ++ scan rest := by
  match value with
  | .null => exact scan_token rfl (readWord_letters .null "ull".toList rest)
  | .bool value => exact scan_writeBool value rest
  | .number value =>
      obtain ⟨fits, whole⟩ := writable value (List.mem_singleton_self value)
      exact scan_writeNumber fits whole ends
  | .text value => exact scan_writeText value rest
  | .list [] =>
      have opens : scan ('[' :: ']' :: rest) = .openList :: scan (']' :: rest) :=
        scan_token rfl rfl
      have closes : scan (']' :: rest) = .closeList :: scan rest := scan_token rfl rfl
      simp [compact, tokens, opens, closes]
  | .list (first :: more) =>
      rw [writable_list, List.forall_mem_cons] at writable
      have head := scan_compact first writable.1 (endsNumber_items more rest)
      have tail := scan_compactItems more writable.2 rest
      have opens : scan ('[' :: (compact first ++ (compactItems more ++ ']' :: rest))) =
          .openList :: scan (compact first ++ (compactItems more ++ ']' :: rest)) :=
        scan_token rfl rfl
      simp [compact, tokens, opens, head, tail]
  | .record [] =>
      have opens : scan ('\x7b' :: '\x7d' :: rest) = .openRecord :: scan ('\x7d' :: rest) :=
        scan_token rfl rfl
      have closes : scan ('\x7d' :: rest) = .closeRecord :: scan rest := scan_token rfl rfl
      simp [compact, tokens, opens, closes]
  | .record ((name, value) :: more) =>
      rw [writable_record, List.forall_mem_cons] at writable
      have head := scan_compact value writable.1 (endsNumber_members more rest)
      have tail := scan_compactMembers more writable.2 rest
      have opens : scan ('\x7b' :: (writeText name ++ ':' :: (compact value ++
          (compactMembers more ++ '\x7d' :: rest)))) =
          .openRecord :: scan (writeText name ++ ':' :: (compact value ++
            (compactMembers more ++ '\x7d' :: rest))) :=
        scan_token rfl rfl
      have colon : scan (':' :: (compact value ++ (compactMembers more ++ '\x7d' :: rest))) =
          .colon :: scan (compact value ++ (compactMembers more ++ '\x7d' :: rest)) :=
        scan_token rfl rfl
      simp [compact, tokens, opens, scan_writeText, colon, head, tail]

theorem scan_compactItems (items : List Json) (writable : ∀ item ∈ items, item.IsWritable)
    (rest : List Char) :
    scan (compactItems items ++ ']' :: rest) = itemTokens items ++ .closeList :: scan rest := by
  match items with
  | [] => exact scan_token rfl rfl
  | item :: more =>
      rw [List.forall_mem_cons] at writable
      have head := scan_compact item writable.1 (endsNumber_items more rest)
      have tail := scan_compactItems more writable.2 rest
      have comma : scan (',' :: (compact item ++ (compactItems more ++ ']' :: rest))) =
          .comma :: scan (compact item ++ (compactItems more ++ ']' :: rest)) :=
        scan_token rfl rfl
      simp [compactItems, itemTokens, comma, head, tail]

theorem scan_compactMembers (members : List (String × Json))
    (writable : ∀ entry ∈ members, entry.2.IsWritable) (rest : List Char) :
    scan (compactMembers members ++ '\x7d' :: rest) =
      memberTokens members ++ .closeRecord :: scan rest := by
  match members with
  | [] => exact scan_token rfl rfl
  | (name, value) :: more =>
      rw [List.forall_mem_cons] at writable
      have head := scan_compact value writable.1 (endsNumber_members more rest)
      have tail := scan_compactMembers more writable.2 rest
      have comma : scan (',' :: (writeText name ++ ':' :: (compact value ++
          (compactMembers more ++ '\x7d' :: rest)))) =
          .comma :: scan (writeText name ++ ':' :: (compact value ++
            (compactMembers more ++ '\x7d' :: rest))) :=
        scan_token rfl rfl
      have colon : scan (':' :: (compact value ++ (compactMembers more ++ '\x7d' :: rest))) =
          .colon :: scan (compact value ++ (compactMembers more ++ '\x7d' :: rest)) :=
        scan_token rfl rfl
      simp [compactMembers, memberTokens, comma, scan_writeText, colon, head, tail]

end

/-! ## Numbers of texts -/

def Token.Fits (token : Token) : Prop := ∀ number, token = .number (some number) → number.Fits

namespace Token

theorem scaledNumber_fits {negative : Bool} {whole fraction : List Char} {exponent : Int}
    {number : Number} (scaled : scaledNumber negative whole fraction exponent = some number) :
    number.Fits := by
  obtain ⟨value, _, rfl⟩ := Option.map_eq_some_iff.1 scaled
  trivial

theorem wholeNumber_fits {negative : Bool} {whole : List Char} {number : Number}
    (read : wholeNumber negative whole = some number) : number.Fits := by
  simp only [wholeNumber] at read
  split at read
  · split at read
    · rename_i bounds
      cases read
      simp only [Number.Fits]
      omega
    · exact scaledNumber_fits read
  · split at read
    · rename_i small
      cases read
      simp only [Number.Fits]
      omega
    · exact scaledNumber_fits read

theorem readNumber_fits (negative : Bool) (marks : List Char) :
    (readNumber negative marks).1.Fits := by
  intro number same
  simp only [readNumber, missingDigit] at same
  split at same
  · cases same
  split at same
  · cases same
  split at same
  · split at same
    · cases same
    split at same
    · cases same
    · exact scaledNumber_fits (Token.number.inj same)
  · split at same
    · cases same
    · exact wholeNumber_fits (Token.number.inj same)
    · exact scaledNumber_fits (Token.number.inj same)

theorem readText_fits (held : Option (List Char)) (marks : List Char) :
    (readText held marks).1.Fits := by
  intro number same
  fun_induction readText held marks <;> simp_all [cutOff]

theorem readWord_fits {token : Token} (fits : token.Fits) (letters marks : List Char) :
    (readWord token letters marks).1.Fits := by
  fun_induction readWord token letters marks with
  | case1 => exact fits
  | case2 | case4 =>
      intro number same
      cases same
  | case3 _ _ _ ih => exact ih

theorem readToken_fits (mark : Char) (rest : List Char) : (readToken mark rest).1.Fits := by
  unfold readToken
  split
  case h_7 => exact readText_fits _ _
  case h_8 => exact readNumber_fits true rest
  case h_9 | h_10 | h_11 =>
    refine readWord_fits ?_ _ _
    nofun
  case h_12 =>
    split
    · exact readNumber_fits false _
    · nofun
  all_goals nofun

theorem scan_fits (marks : List Char) : ∀ token ∈ scan marks, token.Fits := by
  fun_induction scan marks with
  | case1 => simp
  | case2 _ _ _ ih => exact ih
  | case3 mark rest _ _ ih => exact List.forall_mem_cons.2 ⟨readToken_fits mark rest, ih⟩

end Token

end Json

end BookmarkHub
