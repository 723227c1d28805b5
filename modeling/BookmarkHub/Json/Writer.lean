import BookmarkHub.Decimal.Shortest
import BookmarkHub.Decimal.Whole
import BookmarkHub.Json.Value

/-!
# Written JSON

Two written forms of a value: the compact one without any blank, used on the
wire and in messages, and the indented one with two spaces for each level,
used in files and on the terminal.
-/

set_option autoImplicit false

namespace BookmarkHub.Json

def hexMark (value : Nat) : Char :=
  if value < 10 then Char.ofNat (0x30 + value) else Char.ofNat (0x57 + value)

/-- A character inside a written string.  Only the quote, the backslash and
the controls below the space are escaped. -/
def escapeMark (mark : Char) : List Char :=
  match mark with
  | '"' => ['\\', '"']
  | '\\' => ['\\', '\\']
  | '\x08' => ['\\', 'b']
  | '\x0c' => ['\\', 'f']
  | '\n' => ['\\', 'n']
  | '\r' => ['\\', 'r']
  | '\t' => ['\\', 't']
  | mark =>
      if mark.toNat < 0x20 then
        ['\\', 'u', '0', '0', hexMark (mark.toNat / 16), hexMark (mark.toNat % 16)]
      else [mark]

def writeText (text : String) : List Char :=
  '"' :: text.toList.flatMap escapeMark ++ ['"']

def writeWhole : Int → List Char
  | .ofNat value => Decimal.digits value
  | .negSucc value => '-' :: Decimal.digits (value + 1)

def writeNumber : Number → List Char
  | .whole value => writeWhole value
  | .double value => value.toText

def writeBool (value : Bool) : List Char :=
  if value then "true".toList else "false".toList

/-! ## The compact form -/

mutual

def compact : Json → List Char
  | .null => "null".toList
  | .bool value => writeBool value
  | .number value => writeNumber value
  | .text value => writeText value
  | .list [] => ['[', ']']
  | .list (first :: rest) => '[' :: compact first ++ compactItems rest ++ [']']
  | .record [] => ['\x7b', '\x7d']
  | .record ((name, value) :: rest) =>
      '\x7b' :: writeText name ++ ':' :: compact value ++ compactMembers rest ++ ['\x7d']

/-- The items after the first. -/
def compactItems : List Json → List Char
  | [] => []
  | item :: rest => ',' :: compact item ++ compactItems rest

def compactMembers : List (String × Json) → List Char
  | [] => []
  | (name, value) :: rest =>
      ',' :: writeText name ++ ':' :: compact value ++ compactMembers rest

end

/-! ## The indented form -/

def lineStart (depth : Nat) : List Char := '\n' :: List.replicate (2 * depth) ' '

mutual

def indented (depth : Nat) : Json → List Char
  | .null => "null".toList
  | .bool value => writeBool value
  | .number value => writeNumber value
  | .text value => writeText value
  | .list [] => ['[', ']']
  | .list (first :: rest) =>
      '[' :: lineStart (depth + 1) ++ indented (depth + 1) first ++
        indentedItems (depth + 1) rest ++ lineStart depth ++ [']']
  | .record [] => ['\x7b', '\x7d']
  | .record ((name, value) :: rest) =>
      '\x7b' :: lineStart (depth + 1) ++ writeText name ++ ':' :: ' ' ::
        indented (depth + 1) value ++ indentedMembers (depth + 1) rest ++
        lineStart depth ++ ['\x7d']

/-- The items after the first. -/
def indentedItems (depth : Nat) : List Json → List Char
  | [] => []
  | item :: rest =>
      ',' :: lineStart depth ++ indented depth item ++ indentedItems depth rest

def indentedMembers (depth : Nat) : List (String × Json) → List Char
  | [] => []
  | (name, value) :: rest =>
      ',' :: lineStart depth ++ writeText name ++ ':' :: ' ' ::
        indented depth value ++ indentedMembers depth rest

end

def toText (value : Json) : String := String.ofList (compact value)

def toIndentedText (value : Json) : String := String.ofList (indented 0 value)

end BookmarkHub.Json
