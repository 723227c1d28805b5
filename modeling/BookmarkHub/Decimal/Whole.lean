/-!
# Whole numbers in decimal

Writing and reading of whole numbers in base ten.  A written number has no
leading zero and no plus sign; a word is read back only when it fits.
-/

set_option autoImplicit false

namespace BookmarkHub.Decimal

def digits (number : Nat) : List Char := Nat.toDigits 10 number

def valueOf (word : List Char) : Nat := Nat.ofDigitChars 10 word 0

theorem valueOf_digits (number : Nat) : valueOf (digits number) = number :=
  Nat.ofDigitChars_toDigits (by decide) (by decide)

theorem isDigit_of_mem_digits {number : Nat} {mark : Char}
    (member : mark ∈ digits number) : mark.isDigit = true :=
  Nat.isDigit_of_mem_toDigits (by decide) (by decide) member

def ofNat (number : Nat) : String := String.ofList (digits number)

def ofInt : Int → String
  | .ofNat number => ofNat number
  | .negSucc number => "-" ++ ofNat (number + 1)

/-- Reads a word of 64 bits: one optional plus sign, then digits only. -/
def readWord? (text : String) : Option UInt64 :=
  let marks := match text.toList with
    | '+' :: rest => rest
    | marks => marks
  if marks.isEmpty || !marks.all Char.isDigit then none
  else
    let number := valueOf marks
    if number < UInt64.size then some (UInt64.ofNat number) else none

end BookmarkHub.Decimal
