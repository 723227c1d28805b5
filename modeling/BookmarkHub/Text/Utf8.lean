/-!
# Bytes as text

Bytes that should be UTF-8 text and are not can still be shown: a byte that
begins no character, and the beginning of a character that is not finished,
are each shown as one replacement character.
-/

set_option autoImplicit false

namespace BookmarkHub.Utf8

/-- What is shown for bytes that are no text. -/
def replacement : String := "\ufffd"

def continuation : Nat × Nat := (0x80, 0xbf)

/-- The bounds of the bytes that must follow a first byte, which is none if it
begins no character. -/
def followers? (first : Nat) : Option (List (Nat × Nat)) :=
  if first < 0x80 then some []
  else if 0xc2 ≤ first ∧ first ≤ 0xdf then some [continuation]
  else if first = 0xe0 then some [(0xa0, 0xbf), continuation]
  else if first = 0xed then some [(0x80, 0x9f), continuation]
  else if 0xe1 ≤ first ∧ first ≤ 0xef then some [continuation, continuation]
  else if first = 0xf0 then some [(0x90, 0xbf), continuation, continuation]
  else if 0xf1 ≤ first ∧ first ≤ 0xf3 then some [continuation, continuation, continuation]
  else if first = 0xf4 then some [(0x80, 0x8f), continuation, continuation]
  else none

def takeWithin : List (Nat × Nat) → List UInt8 → List UInt8
  | (low, high) :: bounds, byte :: rest =>
      if low ≤ byte.toNat ∧ byte.toNat ≤ high then byte :: takeWithin bounds rest else []
  | _, _ => []

/-- The bytes as text, with replacement characters for what is no text. -/
def shown : List UInt8 → String
  | [] => ""
  | first :: rest =>
      let bounds := (followers? first.toNat).getD []
      let found := takeWithin bounds rest
      let isWhole := (followers? first.toNat).isSome && found.length == bounds.length
      let piece := if isWhole then String.fromUTF8? (first :: found).toByteArray else none
      piece.getD replacement ++ shown (rest.drop found.length)
  termination_by bytes => bytes.length
  decreasing_by
    simp only [List.length_drop, List.length_cons]
    omega

end BookmarkHub.Utf8
