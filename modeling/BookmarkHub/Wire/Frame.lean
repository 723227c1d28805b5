import BookmarkHub.Json.Record

/-!
# Message frames

The hub and its surfaces exchange frames.  A frame is an object whose `type`
is the text `cmd`, whose `cmd` names a command, and whose other members are
the fields of that command.  `Frame.read` takes a frame apart.
-/

set_option autoImplicit false

namespace BookmarkHub

inductive FrameError where
  | unsupportedType (found : Option Json)
  | invalidCommand (error : Json.ReadError)
  deriving Inhabited

def FrameError.message : FrameError → String
  | .unsupportedType none => "unsupported message type: <missing>"
  | .unsupportedType (some found) => "unsupported message type: " ++ found.toText
  | .invalidCommand error => "invalid command: " ++ error.message

namespace Frame

def readName : Json.Reader String
  | _, .text (some name) => .ok name
  | _, document => .error (Json.mismatch document "variant identifier")

/-- The members of a frame whose type is the text `cmd`, without the type. -/
def members : Json → Except FrameError (List (String × Json))
  | .record members =>
      match Table.findEntry "type" members with
      | some (.text "cmd") => .ok (Table.eraseEntry "type" members)
      | found => .error (.unsupportedType found)
  | _ => .error (.unsupportedType none)

def command (members : List (String × Json)) :
    Except Json.ReadError (String × Json.Document) :=
  match Table.findEntry "cmd" members with
  | none => .error (.shape (.missingField "cmd"))
  | some name => do
      let name ← readName .frame (Json.Document.ofJson name)
      return (name, Json.Document.ofJson (.record (Table.eraseEntry "cmd" members)))

/-- Takes a frame apart: the reader that the command's name selects reads the
command's fields. -/
def read {Command : Type} (known : List (String × Json.Reader Command)) (frame : Json) :
    Except FrameError Command := do
  let members ← members frame
  let attempt : Except Json.ReadError Command := do
    let (name, fields) ← command members
    let reader ← Json.chooseVariant known name
    reader .frame fields
  attempt.mapError .invalidCommand

end Frame

end BookmarkHub
