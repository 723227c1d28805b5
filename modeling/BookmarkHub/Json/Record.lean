import BookmarkHub.Json.Reader

/-!
# Records with named fields

A record is read from an object by the names of its fields or from an array by
their order.  While it is read it is a draft, in which every field may still
be missing.  Unknown members are passed over, a repeated field is refused, and
an array may leave out fields with a default at its end.
-/

set_option autoImplicit false

namespace BookmarkHub.Json

/-- How one field of a record is read into a draft.  An array may end before an optional field. -/
structure Field (Draft : Type) where
  name : String
  filled : Draft → Bool
  fill : Draft → Reader Draft
  optional : Bool

structure Shape (Draft : Type) where
  title : String
  fields : List (Field Draft)

def field {Draft Value : Type} (name : String) (read : Reader Value)
    (get : Draft → Option Value) (set : Draft → Value → Draft)
    (optional : Bool := false) : Field Draft where
  name := name
  filled draft := (get draft).isSome
  fill draft origin document := (read origin document).map (set draft)
  optional := optional

namespace Shape

variable {Draft : Type}

def overlong (shape : Shape Draft) (origin : Origin) (length : Nat) : ReadError :=
  match origin with
  | .text _ => .fault .malformed
  | .value => .shape (.wrongLength length "fewer elements in array")
  | .frame =>
      .shape (.wrongLength length
        (Decimal.ofNat shape.fields.length ++ " elements in sequence"))

def readPositions (shape : Shape Draft) (origin : Origin) (ending : Ending)
    (length : Nat) (place : Nat) (draft : Draft) :
    List (Field Draft) → List Document → Except ReadError Draft
  | [], [] => do
      ending.checkFull
      return draft
  | [], _ :: _ => .error (shape.overlong origin length)
  | field :: fields, item :: items => do
      let filled ← field.fill draft origin item
      readPositions shape origin ending length (place + 1) filled fields items
  | field :: fields, [] => do
      ending.check
      if field.optional then
        readPositions shape origin ending length (place + 1) draft fields []
      else
        .error (.shape (.wrongLength place
          (shape.title ++ " with " ++ Decimal.ofNat shape.fields.length ++ " elements")))

def readNamed (shape : Shape Draft) (origin : Origin) (draft : Draft) :
    List (Option String × Document) → Except ReadError Draft
  | [] => .ok draft
  | (none, _) :: _ => .error (.fault .malformed)
  | (some name, document) :: rest =>
      match shape.fields.find? fun field => field.name == name with
      | none => do
          skip document
          readNamed shape origin draft rest
      | some field =>
          if field.filled draft then .error (.shape (.repeatedField name))
          else do
            let filled ← field.fill draft origin document
            readNamed shape origin filled rest

def read (shape : Shape Draft) (draft : Draft) : Reader Draft
  | origin, .list items ending => do
      let inner ← origin.enter
      readPositions shape inner ending items.length 0 draft shape.fields items
  | origin, .record members ending => do
      let inner ← origin.enter
      let filled ← readNamed shape inner draft members
      ending.check
      return filled
  | _, document => .error (mismatch document shape.title)

end Shape

def require {Value : Type} (name : String) : Option Value → Except ReadError Value
  | some value => .ok value
  | none => .error (.shape (.missingField name))

end BookmarkHub.Json
