/-!
# Blank text

The characters with the Unicode property `White_Space`, and the text that is
left when such characters are dropped at both ends.
-/

set_option autoImplicit false

namespace BookmarkHub.Text

/-- Whether a character has the property `White_Space`. -/
def isBlank (mark : Char) : Bool :=
  let code := mark.toNat
  decide (0x09 ≤ code ∧ code ≤ 0x0d) || code == 0x20 || code == 0x85 ||
    code == 0xa0 || code == 0x1680 || decide (0x2000 ≤ code ∧ code ≤ 0x200a) ||
    code == 0x2028 || code == 0x2029 || code == 0x202f || code == 0x205f ||
    code == 0x3000

def isAllBlank (text : String) : Bool := text.toList.all isBlank

def containsText (needle : List Char) : List Char → Bool
  | [] => needle.isEmpty
  | mark :: rest => needle.isPrefixOf (mark :: rest) || containsText needle rest

end BookmarkHub.Text
