import BookmarkHub.Decimal.Double
import BookmarkHub.Decimal.Whole

/-!
# Shortest decimals of doubles

The decimal of a double has the fewest digits that read back as that double;
of several such decimals the nearest one is taken, and of two equally near
ones the even one.
-/

set_option autoImplicit false

namespace BookmarkHub.Double

/-- The magnitudes that round to a number, scaled to whole numbers: each bound
and the number itself stand over the same denominator. -/
structure Reach where
  lower : Nat
  centre : Nat
  upper : Nat
  denominator : Nat
  inclusive : Bool

/-- Halfway to the neighbours on both sides.  The neighbour below a power of
two is nearer by half, except at the least exponent. -/
def reach (number : Double) : Reach :=
  let (top, bottom) := number.quotient
  let (gapTop, _) := { number with significand := 1 }.quotient
  let below :=
    if number.significand = Nat.pow 2 52 ∧ leastExponent < number.exponent then gapTop
    else 2 * gapTop
  { lower := 4 * top - below
    centre := 4 * top
    upper := 4 * top + 2 * gapTop
    denominator := 4 * bottom
    inclusive := number.significand % 2 == 0 }

/-- Whether `multiple * stepTop / stepBottom` reads back as the number. -/
def Reach.holds (reach : Reach) (multiple stepTop stepBottom : Nat) : Bool :=
  let point := multiple * stepTop * reach.denominator
  let lower := reach.lower * stepBottom
  let upper := reach.upper * stepBottom
  if reach.inclusive then decide (lower ≤ point ∧ point ≤ upper)
  else decide (lower < point ∧ point < upper)

def Reach.nearest? (reach : Reach) (stepTop stepBottom : Nat) : Option Nat :=
  let top := reach.centre * stepBottom
  let bottom := reach.denominator * stepTop
  let below := top / bottom
  let twice := 2 * (top % bottom)
  let downFirst :=
    decide (twice < bottom) || (twice == bottom && below % 2 == 0)
  let (first, second) :=
    if downFirst then (below, below + 1) else (below + 1, below)
  if reach.holds first stepTop stepBottom then some first
  else if reach.holds second stepTop stepBottom then some second
  else none

def searchDown (reach : Reach) : Nat → Int → Nat × Int
  | 0, power => (0, power)
  | steps + 1, power =>
      let (stepTop, stepBottom) :=
        if power < 0 then (1, Nat.pow 10 power.natAbs) else (Nat.pow 10 power.natAbs, 1)
      match reach.nearest? stepTop stepBottom with
      | some multiple => (multiple, power)
      | none => searchDown reach steps (power - 1)

/-- Fewest significant digits and the power of ten of the last of them. -/
def shortest (number : Double) : List Char × Int :=
  if number.isZero then (['0'], 0)
  else
    let (top, bottom) := number.quotient
    let size : Int := (Decimal.digits (top / bottom)).length
    let start : Int :=
      if bottom ≤ top then size
      else 1 - (Decimal.digits (bottom / top)).length + 1
    let (multiple, power) := searchDown number.reach 24 start
    (Decimal.digits multiple, power)

/-- How the digits of a decimal are laid out: which exponents of the leading digit are plain. -/
structure Layout where
  leastPlain : Int
  greatestPlain : Int

/-- Numbers from `0.00001` up to sixteen whole digits are written plainly. -/
def layout : Layout := ⟨-5, 15⟩

/-- Digits, with zeros in front of a fraction or after a whole number; a whole
number ends in `.0`.  Elsewhere the exponent is written with its sign. -/
def layOut (layout : Layout) (marks : List Char) (power : Int) : List Char :=
  let leading : Int := power + marks.length - 1
  if leading < layout.leastPlain ∨ layout.greatestPlain < leading then
    let fraction := match marks.drop 1 with
      | [] => []
      | rest => '.' :: rest
    let sign := if leading < 0 then '-' else '+'
    marks.take 1 ++ fraction ++ ['e', sign] ++ Decimal.digits leading.natAbs
  else if leading < 0 then
    "0.".toList ++ List.replicate (leading.natAbs - 1) '0' ++ marks
  else
    let whole := leading.natAbs + 1
    if 0 ≤ power then marks ++ List.replicate power.natAbs '0' ++ ".0".toList
    else marks.take whole ++ '.' :: marks.drop whole

def trimZeros (marks : List Char) (power : Int) : List Char × Int :=
  let kept := (marks.reverse.dropWhile (· == '0')).reverse
  if kept.isEmpty then (['0'], 0)
  else (kept, power + (marks.length - kept.length))

def toText (number : Double) : List Char :=
  let (marks, power) := number.shortest
  let (marks, power) := trimZeros marks power
  let body := layOut layout marks power
  if number.negative then '-' :: body else body

end BookmarkHub.Double
