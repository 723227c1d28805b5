import BookmarkHub.Decimal.Whole
import BookmarkHub.Json.Value

/-!
# Tokens of JSON text

A text is cut into tokens once, and the cut never fails: where the text stops
being JSON the last token says so.  A reader may take a value or only skip it,
and the two are strict in different ways, so a broken token names the fault
for either reader.
-/

set_option autoImplicit false

namespace BookmarkHub.Json

inductive Fault where
  | malformed
  | unfinished
  deriving DecidableEq, Repr, Inhabited

/-- A number is absent when it is out of range, and a string when it has one half of a surrogate
pair alone.  A text that breaks off is cut, and anything else is stray. -/
inductive Token where
  | openList
  | closeList
  | openRecord
  | closeRecord
  | comma
  | colon
  | null
  | bool (value : Bool)
  | number (value : Option Number)
  | text (value : Option String)
  | cutText (taken skipped : Fault)
  | stray (taken skipped : Fault)
  deriving DecidableEq, Repr, Inhabited

namespace Token

/-! ## Strings -/

def hexValue? (mark : Char) : Option Nat :=
  let code := mark.toNat
  if 0x30 ≤ code ∧ code ≤ 0x39 then some (code - 0x30)
  else if 0x41 ≤ code ∧ code ≤ 0x46 then some (code - 0x37)
  else if 0x61 ≤ code ∧ code ≤ 0x66 then some (code - 0x57)
  else none

/-- The four digits after `\u` and the text behind them.  Fewer than four
bytes before the end of the text are an unfinished escape. -/
def readUnit (marks : List Char) : Except Fault (Nat × List Char) :=
  match marks with
  | first :: second :: third :: fourth :: rest =>
      match hexValue? first, hexValue? second, hexValue? third, hexValue? fourth with
      | some a, some b, some c, some d => .ok (((16 * a + b) * 16 + c) * 16 + d, rest)
      | _, _, _, _ => .error .malformed
  | short =>
      if short.foldl (fun size mark => size + mark.utf8Size) 0 < 4 then .error .unfinished
      else .error .malformed

def isHighHalf (unit : Nat) : Bool := decide (0xd800 ≤ unit ∧ unit ≤ 0xdbff)

def isLowHalf (unit : Nat) : Bool := decide (0xdc00 ≤ unit ∧ unit ≤ 0xdfff)

def joinHalves (high low : Nat) : Char :=
  Char.ofNat ((high - 0xd800) * 0x400 + (low - 0xdc00) + 0x10000)

/-- What an escape stands for, and the text behind it.  Half of a surrogate pair alone stands for
no character. -/
inductive Escape where
  | mark (mark : Option Char) (rest : List Char)
  | fault (fault : Fault)

/-- The second half of a surrogate pair, if it follows. -/
def readSecondHalf (high : Nat) (marks : List Char) : Escape :=
  match marks with
  | [] => .fault .unfinished
  | ['\\'] => .fault .unfinished
  | '\\' :: 'u' :: rest =>
      match readUnit rest with
      | .error fault => .fault fault
      | .ok (low, behind) =>
          if isLowHalf low then .mark (some (joinHalves high low)) behind
          else .mark none marks
  | _ => .mark none marks

def readEscape (marks : List Char) : Escape :=
  match marks with
  | [] => .fault .unfinished
  | '"' :: rest => .mark (some '"') rest
  | '\\' :: rest => .mark (some '\\') rest
  | '/' :: rest => .mark (some '/') rest
  | 'b' :: rest => .mark (some '\x08') rest
  | 'f' :: rest => .mark (some '\x0c') rest
  | 'n' :: rest => .mark (some '\n') rest
  | 'r' :: rest => .mark (some '\r') rest
  | 't' :: rest => .mark (some '\t') rest
  | 'u' :: rest =>
      match readUnit rest with
      | .error fault => .fault fault
      | .ok (unit, behind) =>
          if isLowHalf unit then .mark none behind
          else if isHighHalf unit then readSecondHalf unit behind
          else .mark (some (Char.ofNat unit)) behind
  | _ => .fault .malformed

theorem length_le_of_readUnit {marks rest : List Char} {unit : Nat}
    (read : readUnit marks = .ok (unit, rest)) : rest.length ≤ marks.length := by
  unfold readUnit at read
  split at read
  · split at read
    · cases read
      simp only [List.length_cons]
      omega
    · cases read
  · split at read <;> cases read

theorem length_le_of_readSecondHalf {high : Nat} {marks rest : List Char}
    {mark : Option Char} (read : readSecondHalf high marks = .mark mark rest) :
    rest.length ≤ marks.length := by
  unfold readSecondHalf at read
  split at read
  · cases read
  · cases read
  next behind =>
    split at read
    · cases read
    next found =>
      have shorter := length_le_of_readUnit found
      split at read
      · cases read
        simp only [List.length_cons]
        omega
      · cases read
        exact Nat.le_refl _
  · cases read
    exact Nat.le_refl _

theorem length_le_of_readEscape {marks rest : List Char} {mark : Option Char}
    (read : readEscape marks = .mark mark rest) : rest.length ≤ marks.length := by
  unfold readEscape at read
  split at read
  case h_10 =>
    split at read
    · cases read
    next found =>
      have shorter := length_le_of_readUnit found
      simp only [List.length_cons]
      split at read
      · cases read
        omega
      · split at read
        · have := length_le_of_readSecondHalf read
          omega
        · cases read
          omega
  all_goals cases read
  all_goals simp only [List.length_cons]; omega

/-- The token of a string that breaks off.  Once half of a surrogate pair
stood alone, a reader that takes the string has failed before. -/
def cutOff (held : Option (List Char)) (fault : Fault) : Token :=
  .cutText (if held.isSome then fault else .malformed) fault

/-- Reads a string behind its opening quote.  `held` has the characters so
far, last first. -/
def readText (held : Option (List Char)) (marks : List Char) : Token × List Char :=
  match marks with
  | [] => (cutOff held .unfinished, [])
  | '"' :: rest => (.text (held.map fun known => String.ofList known.reverse), rest)
  | '\\' :: rest =>
      match _found : readEscape rest with
      | .fault fault => (cutOff held fault, [])
      | .mark (some mark) behind => readText (held.map (mark :: ·)) behind
      | .mark none behind => readText none behind
  | mark :: rest =>
      if mark.toNat < 0x20 then (cutOff held .malformed, [])
      else readText (held.map (mark :: ·)) rest
termination_by marks.length
decreasing_by
  all_goals simp only [List.length_cons]
  · have := length_le_of_readEscape _found
    omega
  · have := length_le_of_readEscape _found
    omega
  · omega

/-! ## Numbers -/

/-- Appends digits to a significand of at most 64 bits; what no longer fits
is left over. -/
def absorb (significand : Nat) : List Char → Nat × List Char
  | [] => (significand, [])
  | mark :: rest =>
      let longer := 10 * significand + (mark.toNat - 0x30)
      if longer < UInt64.size then absorb longer rest else (significand, mark :: rest)

/-- The number with the given digits before and behind the point and the given
exponent.  Digits beyond 64 bits of significand only scale a whole part, and
are dropped from a fraction. -/
def scaledNumber (negative : Bool) (whole fraction : List Char) (exponent : Int) :
    Option Number :=
  let (significand, left) := absorb 0 whole
  let (significand, unread) := absorb significand fraction
  let power : Int :=
    exponent + left.length - (fraction.length - unread.length : Nat)
  (Double.ofDecimal negative significand power).map .double

/-- The number of a run of digits alone.  `-0` and whole numbers that do not
fit in 64 bits are doubles. -/
def wholeNumber (negative : Bool) (whole : List Char) : Option Number :=
  let value := Decimal.valueOf whole
  if negative then
    if 0 < value ∧ value ≤ Nat.pow 2 63 then some (.whole (-value))
    else scaledNumber negative whole [] 0
  else if value < UInt64.size then some (.whole value)
  else scaledNumber negative whole [] 0

/-- A number that lacks a digit.  A reader that takes it sees whether the text
has ended; one that skips it does not. -/
def missingDigit (rest : List Char) : Token × List Char :=
  (.stray (if rest.isEmpty then .unfinished else .malformed) .malformed, [])

def isExponentMark (mark : Char) : Bool := mark == 'e' || mark == 'E'

def readSign : List Char → Bool × List Char
  | '+' :: rest => (false, rest)
  | '-' :: rest => (true, rest)
  | marks => (false, marks)

def readExponent (marks : List Char) : Except (List Char) (Option Int × List Char) :=
  match marks with
  | [] => .ok (none, [])
  | mark :: behind =>
      if isExponentMark mark then
        let (down, unsigned) := readSign behind
        let digits := unsigned.takeWhile Char.isDigit
        let rest := unsigned.dropWhile Char.isDigit
        if digits.isEmpty then .error rest
        else
          let size : Int := Decimal.valueOf digits
          .ok (some (if down then -size else size), rest)
      else .ok (none, mark :: behind)

def readNumber (negative : Bool) (marks : List Char) : Token × List Char :=
  let whole := marks.takeWhile Char.isDigit
  let rest := marks.dropWhile Char.isDigit
  if whole.isEmpty then missingDigit rest
  else if whole.head? = some '0' ∧ 1 < whole.length then
    (.stray .malformed .malformed, [])
  else
    match rest with
    | '.' :: behind =>
        let fraction := behind.takeWhile Char.isDigit
        let rest := behind.dropWhile Char.isDigit
        if fraction.isEmpty then missingDigit rest
        else
          match readExponent rest with
          | .error rest => missingDigit rest
          | .ok (exponent, rest) =>
              (.number (scaledNumber negative whole fraction (exponent.getD 0)), rest)
    | rest =>
        match readExponent rest with
        | .error rest => missingDigit rest
        | .ok (none, rest) => (.number (wholeNumber negative whole), rest)
        | .ok (some exponent, rest) =>
            (.number (scaledNumber negative whole [] exponent), rest)

/-! ## Words and the whole text -/

def readWord (token : Token) : List Char → List Char → Token × List Char
  | [], marks => (token, marks)
  | _ :: _, [] => (.stray .unfinished .unfinished, [])
  | letter :: letters, mark :: marks =>
      if letter = mark then readWord token letters marks
      else (.stray .malformed .malformed, [])

def isJsonBlank (mark : Char) : Bool :=
  mark == ' ' || mark == '\n' || mark == '\t' || mark == '\r'

def readToken (mark : Char) (rest : List Char) : Token × List Char :=
  match mark with
  | '[' => (.openList, rest)
  | ']' => (.closeList, rest)
  | '\x7b' => (.openRecord, rest)
  | '\x7d' => (.closeRecord, rest)
  | ',' => (.comma, rest)
  | ':' => (.colon, rest)
  | '"' => readText (some []) rest
  | '-' => readNumber true rest
  | 'n' => readWord .null "ull".toList rest
  | 't' => readWord (.bool true) "rue".toList rest
  | 'f' => readWord (.bool false) "alse".toList rest
  | mark =>
      if mark.isDigit then readNumber false (mark :: rest)
      else (.stray .malformed .malformed, [])

theorem length_le_readText (held : Option (List Char)) (marks : List Char) :
    (readText held marks).2.length ≤ marks.length := by
  fun_induction readText held marks <;> simp_all <;>
    (try have := length_le_of_readEscape ‹_›) <;> omega

theorem length_dropWhile_le (keep : Char → Bool) (marks : List Char) :
    (marks.dropWhile keep).length ≤ marks.length :=
  (List.dropWhile_sublist keep).length_le

theorem length_le_readSign (marks : List Char) :
    (readSign marks).2.length ≤ marks.length := by
  unfold readSign
  split <;> simp

theorem length_le_of_readExponent {marks rest : List Char} {exponent : Option Int}
    (read : readExponent marks = .ok (exponent, rest)) :
    rest.length ≤ marks.length := by
  unfold readExponent at read
  split at read
  · cases read
    exact Nat.le_refl _
  next mark behind =>
    split at read
    · have cut := length_dropWhile_le Char.isDigit (readSign behind).2
      have signed := length_le_readSign behind
      simp only at read
      split at read
      · cases read
      · cases read
        simp only [List.length_cons]
        omega
    · cases read
      exact Nat.le_refl _

theorem length_dropWhile_lt_of_takeWhile (keep : Char → Bool) (marks : List Char)
    (present : (marks.takeWhile keep).isEmpty = false) :
    (marks.dropWhile keep).length < marks.length := by
  cases marks with
  | nil => simp at present
  | cons mark rest =>
      by_cases kept : keep mark
      · simp only [List.dropWhile_cons, kept, if_true, List.length_cons]
        exact Nat.lt_succ_of_le (length_dropWhile_le _ _)
      · simp [kept] at present

theorem length_readNumber_lt (negative : Bool) (marks : List Char) :
    (readNumber negative marks).2.length < marks.length ∨
      (readNumber negative marks).2 = [] := by
  unfold readNumber
  simp only
  split
  · exact .inr rfl
  next present =>
    have shorter := length_dropWhile_lt_of_takeWhile Char.isDigit marks (by simpa using present)
    split
    · exact .inr rfl
    · split
      next behind found =>
        have cut := length_dropWhile_le Char.isDigit behind
        rw [found] at shorter
        simp only [List.length_cons] at shorter
        split
        · exact .inr rfl
        · split
          · exact .inr rfl
          next read =>
            have := length_le_of_readExponent read
            exact .inl (by simp only; omega)
      next =>
        split
        · exact .inr rfl
        next read =>
          have := length_le_of_readExponent read
          exact .inl (by simp only; omega)
        next read =>
          have := length_le_of_readExponent read
          exact .inl (by simp only; omega)

theorem length_le_readWord (token : Token) (letters marks : List Char) :
    (readWord token letters marks).2.length ≤ marks.length := by
  fun_induction readWord token letters marks <;> simp_all
  omega

theorem length_le_readToken (mark : Char) (rest : List Char) :
    (readToken mark rest).2.length ≤ rest.length := by
  unfold readToken
  split
  case h_7 => exact length_le_readText _ _
  case h_8 =>
    rcases length_readNumber_lt true rest with shorter | ended
    · exact Nat.le_of_lt shorter
    · simp [ended]
  case h_9 => exact length_le_readWord _ _ _
  case h_10 => exact length_le_readWord _ _ _
  case h_11 => exact length_le_readWord _ _ _
  case h_12 =>
    split
    · rcases length_readNumber_lt false (mark :: rest) with shorter | ended
      · simpa using Nat.le_of_lt_succ shorter
      · simp [ended]
    · simp
  all_goals exact Nat.le_refl _

/-- The tokens of a text.  After a broken token nothing more is read. -/
def scan (marks : List Char) : List Token :=
  match marks with
  | [] => []
  | mark :: rest =>
      if isJsonBlank mark then scan rest
      else
        let read := readToken mark rest
        read.1 :: scan read.2
termination_by marks.length
decreasing_by
  · simp
  · have := length_le_readToken mark rest
    simp only [List.length_cons]
    omega

end Token

end BookmarkHub.Json
