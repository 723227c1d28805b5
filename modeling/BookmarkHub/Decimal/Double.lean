/-!
# Double-precision numbers

The finite numbers of the binary format with 53 significant bits, held
exactly as sign, whole significand and exponent of two.  Every operation is
exact arithmetic on whole numbers followed by one rounding to the nearest
number of the format, ties going to the even significand.
-/

set_option autoImplicit false

namespace BookmarkHub

/-- The finite number `±significand * 2 ^ exponent`.  Numbers are kept with
53 significant bits, or with the least exponent when they are too small. -/
structure Double where
  negative : Bool
  significand : Nat
  exponent : Int
  deriving DecidableEq, Repr, Inhabited

namespace Double

def leastExponent : Int := -1074

def greatestExponent : Int := 971

def zero (negative : Bool) : Double := ⟨negative, 0, leastExponent⟩

def isZero (number : Double) : Bool := number.significand == 0

def roundQuotient (numerator denominator : Nat) : Nat :=
  let quotient := numerator / denominator
  let twice := 2 * (numerator % denominator)
  if twice < denominator then quotient
  else if denominator < twice then quotient + 1
  else if quotient % 2 = 0 then quotient else quotient + 1

def shifted (numerator denominator : Nat) (exponent : Int) : Nat × Nat :=
  if exponent < 0 then (numerator * Nat.pow 2 exponent.natAbs, denominator)
  else (numerator, denominator * Nat.pow 2 exponent.natAbs)

/-- The number of the format nearest to a quotient of whole numbers, absent
when the quotient is beyond the range of the format. -/
def ofQuotient (negative : Bool) (numerator denominator : Nat) : Option Double :=
  if numerator = 0 then some (zero negative)
  else
    let guess : Int := max (numerator.log2 - denominator.log2 - 53) leastExponent
    let (top, bottom) := shifted numerator denominator guess
    let exponent := if top / bottom < Nat.pow 2 53 then guess else guess + 1
    let (top, bottom) := shifted numerator denominator exponent
    let rounded := roundQuotient top bottom
    let (significand, exponent) :=
      if rounded = Nat.pow 2 53 then (Nat.pow 2 52, exponent + 1) else (rounded, exponent)
    if greatestExponent < exponent then none
    else some ⟨negative, significand, exponent⟩

def quotient (number : Double) : Nat × Nat :=
  if number.exponent < 0 then (number.significand, Nat.pow 2 number.exponent.natAbs)
  else (number.significand * Nat.pow 2 number.exponent.natAbs, 1)

def times (first second : Double) : Option Double :=
  let (top, bottom) := first.quotient
  let (otherTop, otherBottom) := second.quotient
  ofQuotient first.negative (top * otherTop) (bottom * otherBottom)

def dividedBy (first second : Double) : Double :=
  let (top, bottom) := first.quotient
  let (otherTop, otherBottom) := second.quotient
  (ofQuotient first.negative (top * otherBottom) (bottom * otherTop)).getD
    (zero first.negative)

def powerOfTen (power : Nat) : Double :=
  (ofQuotient false (Nat.pow 10 power) 1).getD (zero false)

def greatestPower : Nat := 308

/-- Divides by a power of ten, in steps of at most `10 ^ 308`, each rounded. -/
def overPower (number : Double) (power : Nat) : Double :=
  if power ≤ greatestPower then number.dividedBy (powerOfTen power)
  else if number.isZero then number
  else overPower (number.dividedBy (powerOfTen greatestPower)) (power - greatestPower)
termination_by power
decreasing_by simp [greatestPower] at *; omega

/-- A decimal number `significand * 10 ^ power` as a double: the significand
is rounded first and the scaled number once more.  Absent out of range. -/
def ofDecimal (negative : Bool) (significand : Nat) (power : Int) : Option Double :=
  (ofQuotient negative significand 1).bind fun number =>
    if power < 0 then some (number.overPower power.natAbs)
    else if power.natAbs ≤ greatestPower then number.times (powerOfTen power.natAbs)
    else if number.isZero then some number
    else none

end Double

end BookmarkHub
