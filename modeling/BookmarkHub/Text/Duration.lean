import BookmarkHub.Decimal.Whole

/-!
# Spans of time in words

A span is given in whole milliseconds and written in the largest unit in which
it is at least one, with as many decimals as it needs.
-/

set_option autoImplicit false

namespace BookmarkHub.Duration

/-- The digits of a number of thousandths behind the point, without the zeros
that end them. -/
def thousandths (value : Nat) : List Char :=
  let marks := [value / 100, value / 10 % 10, value % 10].map fun digit =>
    Char.ofNat (0x30 + digit)
  (marks.reverse.dropWhile (· == '0')).reverse

def toText (milliseconds : Nat) : String :=
  if milliseconds = 0 then "0ns"
  else if milliseconds < 1000 then Decimal.ofNat milliseconds ++ "ms"
  else if milliseconds % 1000 = 0 then Decimal.ofNat (milliseconds / 1000) ++ "s"
  else
    Decimal.ofNat (milliseconds / 1000) ++ "." ++
      String.ofList (thousandths (milliseconds % 1000)) ++ "s"

end BookmarkHub.Duration
