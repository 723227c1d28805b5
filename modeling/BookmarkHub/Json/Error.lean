import BookmarkHub.Json.Document
import BookmarkHub.Json.Writer
import BookmarkHub.Text.Quoted

/-!
# Why a document is not read

A document fails a reader because it is no JSON, or because it is JSON of the
wrong shape.  The second kind has a message; none of them tells a position.
-/

set_option autoImplicit false

namespace BookmarkHub.Json

inductive Found where
  | null
  | bool (value : Bool)
  | number (value : Number)
  | text (value : String)
  | list
  | record
  deriving DecidableEq, Repr, Inhabited

inductive ShapeError where
  | wrongType (found : Found) (expected : String)
  | wrongValue (found : Found) (expected : String)
  | wrongLength (length : Nat) (expected : String)
  | missingField (name : String)
  | repeatedField (name : String)
  | unknownVariant (name : String) (known : List String)
  | noVariant (title : String)
  deriving DecidableEq, Repr, Inhabited

inductive ReadError where
  | fault (fault : Fault)
  | shape (error : ShapeError)
  deriving DecidableEq, Repr, Inhabited

def Found.describe : Found → String
  | .null => "null"
  | .bool value => "boolean `" ++ (if value then "true" else "false") ++ "`"
  | .number (.whole value) => "integer `" ++ Decimal.ofInt value ++ "`"
  | .number (.double value) => "floating point `" ++ String.ofList value.toText ++ "`"
  | .text value => "string " ++ Text.quoted value
  | .list => "sequence"
  | .record => "map"

def backquoted (name : String) : String := "`" ++ name ++ "`"

def listVariants : List String → String
  | [] => "there are no variants"
  | [only] => "expected " ++ backquoted only
  | [first, second] => "expected " ++ backquoted first ++ " or " ++ backquoted second
  | names => "expected one of " ++ ", ".intercalate (names.map backquoted)

def ShapeError.message : ShapeError → String
  | .wrongType found expected =>
      "invalid type: " ++ found.describe ++ ", expected " ++ expected
  | .wrongValue found expected =>
      "invalid value: " ++ found.describe ++ ", expected " ++ expected
  | .wrongLength length expected =>
      "invalid length " ++ Decimal.ofNat length ++ ", expected " ++ expected
  | .missingField name => "missing field " ++ backquoted name
  | .repeatedField name => "duplicate field " ++ backquoted name
  | .unknownVariant name known =>
      "unknown variant " ++ backquoted name ++ ", " ++ listVariants known
  | .noVariant title => "data did not match any variant of untagged enum " ++ title

/-- The words for a fault of the text, without its place. -/
def Fault.message : Fault → String
  | .malformed => "malformed JSON"
  | .unfinished => "unfinished JSON"

def ReadError.message : ReadError → String
  | .fault how => how.message
  | .shape wrong => wrong.message

end BookmarkHub.Json
