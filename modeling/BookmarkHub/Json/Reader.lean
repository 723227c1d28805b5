import BookmarkHub.Json.Error

/-!
# Readers

A `Reader` turns a document into a value or tells why it cannot.  Texts,
values and message frames are read by the same readers and differ in two
points only, which the `Origin` of the document settles: how deep it may nest,
and what an array with too many items is called.
-/

set_option autoImplicit false

namespace BookmarkHub.Json

/-- Where a document comes from.  In a text there is room for a number of levels. -/
inductive Origin where
  | text (room : Nat)
  | value
  | frame
  deriving DecidableEq, Repr, Inhabited

/-- A text may nest 127 levels deep. -/
def Origin.ofText : Origin := .text 127

abbrev Reader (Value : Type) := Origin → Document → Except ReadError Value

def Origin.enter : Origin → Except ReadError Origin
  | .text 0 => .error (.fault .malformed)
  | .text (room + 1) => .ok (.text room)
  | origin => .ok origin

def mismatch (document : Document) (expected : String) : ReadError :=
  let wrong found := ReadError.shape (.wrongType found expected)
  match document with
  | .null => wrong .null
  | .bool value => wrong (.bool value)
  | .number (some value) => wrong (.number value)
  | .text (some value) => wrong (.text value)
  | .list _ _ => wrong .list
  | .record _ _ => wrong .record
  | .number none => .fault .malformed
  | .text none => .fault .malformed
  | .cutText taken _ => .fault taken
  | .stray taken _ => .fault taken
  | .absent => .fault .unfinished

def Ending.check : Ending → Except ReadError Unit
  | .closed => .ok ()
  | .broken how => .error (.fault how.taken)

/-- Checks the end of a list or an object behind which nothing more may come.
A comma there is a failure of its own. -/
def Ending.checkFull : Ending → Except ReadError Unit
  | .closed => .ok ()
  | .broken how => .error (.fault (if how.comma then .malformed else how.taken))

def skip (document : Document) : Except ReadError Unit :=
  match document.skipFault? with
  | none => .ok ()
  | some fault => .error (.fault fault)

/-! ## Plain values -/

def readText : Reader String
  | _, .text (some value) => .ok value
  | _, document => .error (mismatch document "a string")

def readBool : Reader Bool
  | _, .bool value => .ok value
  | _, document => .error (mismatch document "a boolean")

/-- A whole number below a bound.  A double is of the wrong type even when it
is whole. -/
def readBelow (bound : Nat) (title : String) : Reader Nat
  | _, .number (some (.whole value)) =>
      if 0 ≤ value ∧ value < bound then .ok value.toNat
      else .error (.shape (.wrongValue (.number (.whole value)) title))
  | _, document => .error (mismatch document title)

def readWord64 : Reader UInt64 := fun origin document =>
  (readBelow UInt64.size "u64" origin document).map UInt64.ofNat

def readWord32 : Reader UInt32 := fun origin document =>
  (readBelow UInt32.size "u32" origin document).map UInt32.ofNat

def readWord16 : Reader UInt16 := fun origin document =>
  (readBelow UInt16.size "u16" origin document).map UInt16.ofNat

def readOption {Value : Type} (read : Reader Value) : Reader (Option Value)
  | _, .null => .ok none
  | origin, document => (read origin document).map some

/-! ## Lists -/

def readItems {Value : Type} (read : Reader Value) (origin : Origin) :
    List Document → Except ReadError (List Value)
  | [] => .ok []
  | item :: rest => do
      let value ← read origin item
      let values ← readItems read origin rest
      return value :: values

def readList {Value : Type} (read : Reader Value) : Reader (List Value)
  | origin, .list items ending => do
      let inner ← origin.enter
      let values ← readItems read inner items
      ending.check
      return values
  | _, document => .error (mismatch document "a sequence")

/-! ## Objects with free names -/

/-- Reads members one after the other; of two with one name the later stays. -/
def readMembers {Value : Type} (read : Reader Value) (origin : Origin)
    (held : Table String Value) :
    List (Option String × Document) → Except ReadError (Table String Value)
  | [] => .ok held
  | (none, _) :: _ => .error (.fault .malformed)
  | (some name, document) :: rest => do
      let value ← read origin document
      readMembers read origin (held.insert name value) rest

def readTable {Value : Type} (read : Reader Value) : Reader (Table String Value)
  | origin, .record members ending => do
      let inner ← origin.enter
      let table ← readMembers read inner Table.empty members
      ending.check
      return table
  | _, document => .error (mismatch document "a map")

/-! ## Free-form values -/

mutual

def readJson (origin : Origin) (document : Document) : Except ReadError Json :=
  match document with
  | .null => .ok .null
  | .bool value => .ok (.bool value)
  | .number (some value) => .ok (.number value)
  | .text (some value) => .ok (.text value)
  | .list items ending => do
      let inner ← origin.enter
      let values ← readJsonItems inner items
      ending.check
      return .list values
  | .record members ending => do
      let inner ← origin.enter
      let values ← readJsonMembers inner Table.empty members
      ending.check
      return .object values
  | .number none => .error (.fault .malformed)
  | .text none => .error (.fault .malformed)
  | .cutText taken _ => .error (.fault taken)
  | .stray taken _ => .error (.fault taken)
  | .absent => .error (.fault .unfinished)

def readJsonItems (origin : Origin) : List Document → Except ReadError (List Json)
  | [] => .ok []
  | item :: rest => do
      let value ← readJson origin item
      let values ← readJsonItems origin rest
      return value :: values

def readJsonMembers (origin : Origin) (held : Table String Json) :
    List (Option String × Document) → Except ReadError (Table String Json)
  | [] => .ok held
  | (none, _) :: _ => .error (.fault .malformed)
  | (some name, document) :: rest => do
      let value ← readJson origin document
      readJsonMembers origin (held.insert name value) rest

end

/-! ## Plain choices -/

/-- A choice among names, or the failure on a name that is not one of them. -/
def chooseVariant {Value : Type} (known : List (String × Value)) (name : String) :
    Except ReadError Value :=
  match known.lookup name with
  | some value => .ok value
  | none => .error (.shape (.unknownVariant name (known.map Prod.fst)))

def readUnit : Reader Unit
  | _, .null => .ok ()
  | _, document => .error (mismatch document "unit")

/-- A choice in a text: a name, or an object with the name and null. -/
def readChoiceInText {Value : Type} (known : List (String × Value)) (origin : Origin)
    (document : Document) : Except ReadError Value :=
  match document with
  | .text (some name) => chooseVariant known name
  | .cutText taken _ => .error (.fault taken)
  | .absent => .error (.fault .unfinished)
  | .record [] (.broken how) => do
      let _ ← origin.enter
      .error (.fault how.taken)
  | .record ((some name, value) :: rest) ending => do
      let inner ← origin.enter
      let choice ← chooseVariant known name
      readUnit inner value
      if rest.isEmpty then
        ending.checkFull
        return choice
      else .error (.fault .malformed)
  | _ => .error (.fault .malformed)

def readChoiceInValue {Value : Type} (known : List (String × Value)) (origin : Origin)
    (document : Document) : Except ReadError Value :=
  match document with
  | .text (some name) => chooseVariant known name
  | .record [(some name, value)] _ => do
      let choice ← chooseVariant known name
      readUnit origin value
      return choice
  | .record _ _ => .error (.shape (.wrongValue .record "map with a single key"))
  | document => .error (mismatch document "string or map")

def readChoice {Value : Type} (known : List (String × Value)) : Reader Value
  | .text room, document => readChoiceInText known (.text room) document
  | origin, document => readChoiceInValue known origin document

/-! ## Whole documents -/

/-- Reads a text that holds one value and nothing behind it. -/
def ofText {Value : Type} (read : Reader Value) (text : String) :
    Except ReadError Value := do
  let (document, overfull) := Document.ofText text
  let value ← read .ofText document
  if overfull then .error (.fault .malformed) else return value

def ofValue {Value : Type} (read : Reader Value) (value : Json) :
    Except ReadError Value :=
  read .value (Document.ofJson value)

def parse (text : String) : Except ReadError Json := ofText readJson text

end BookmarkHub.Json
