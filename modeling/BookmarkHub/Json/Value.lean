import BookmarkHub.Decimal.Double
import BookmarkHub.Table

/-!
# JSON values

A number is a whole number of 64 bits, signed or not, or else a double.  The
members of an object stand in the byte order of their names, each name once;
`Json.object` builds such objects from tables.
-/

set_option autoImplicit false

namespace BookmarkHub

/-- A JSON number.  Whole numbers from `-2^63` to `2^64 - 1` are exact. -/
inductive Number where
  | whole (value : Int)
  | double (value : Double)
  deriving DecidableEq, Repr, Inhabited

inductive Json where
  | null
  | bool (value : Bool)
  | number (value : Number)
  | text (value : String)
  | list (items : List Json)
  | record (members : List (String × Json))
  deriving Inhabited

namespace Json

def ofWord (word : UInt64) : Json := .number (.whole word.toNat)

def ofNat (value : Nat) : Json := .number (.whole value)

def object (members : Table String Json) : Json := .record members.entries

/-- The object with the given members; of two with one name the later stays. -/
def ofMembers (members : List (String × Json)) : Json :=
  object (Table.ofList members)

def ofTexts (texts : List String) : Json := .list (texts.map .text)

def ofOption {Value : Type} (encode : Value → Json) : Option Value → Json
  | none => .null
  | some value => encode value

def member? (value : Json) (name : String) : Option Json :=
  match value with
  | .record members => Table.findEntry name members
  | _ => none

end Json

end BookmarkHub
