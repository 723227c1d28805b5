import BookmarkHub.Json.Token

/-!
# Documents

A `Document` is what a reader of JSON meets, value by value: members keep
their order and their repetitions, and a text that breaks off is a tree whose
last branch is broken.  A reader that walks a document from left to right
therefore meets the first failure first, whatever kind of failure it is.
A JSON value is a document without any break.
-/

set_option autoImplicit false

namespace BookmarkHub.Json

/-- Where and how a list or an object stops being one, and whether a comma was read last. -/
structure Break where
  taken : Fault
  skipped : Fault
  comma : Bool
  deriving DecidableEq, Repr, Inhabited

inductive Ending where
  | closed
  | broken (how : Break)
  deriving DecidableEq, Repr, Inhabited

/-- What a reader meets.  A name, a string and a number may be absent as in the tokens they come
from, and so may a value where the text ends. -/
inductive Document where
  | null
  | bool (value : Bool)
  | number (value : Option Number)
  | text (value : Option String)
  | list (items : List Document) (ending : Ending)
  | record (members : List (Option String × Document)) (ending : Ending)
  | cutText (taken skipped : Fault)
  | stray (taken skipped : Fault)
  | absent
  deriving Inhabited

/-- A break that a reader sees alike whether it takes or skips. -/
def Ending.brokenBy (fault : Fault) (comma : Bool) : Ending :=
  .broken ⟨fault, fault, comma⟩

/-! ## Building a document from tokens -/

/-- A list or an object that waits for the value of its next item or member.
What came before stands last first. -/
inductive Frame where
  | list (items : List Document)
  | record (members : List (Option String × Document)) (name : Option String)
  deriving Inhabited

/-- What may come next, inside the frames that are open.  Nothing may once the value is complete,
something stands behind it, or the document is ruined. -/
inductive Progress where
  | anyValue (frames : List Frame)
  | firstItem (frames : List Frame)
  | nextItem (items : List Document) (frames : List Frame)
  | firstName (frames : List Frame)
  | nextName (members : List (Option String × Document)) (frames : List Frame)
  | colon (members : List (Option String × Document)) (name : Option String)
      (frames : List Frame)
  | nextMember (members : List (Option String × Document)) (frames : List Frame)
  | complete (document : Document)
  | overfull (document : Document)
  | ruined (document : Document)
  deriving Inhabited

namespace Progress

def deliver (document : Document) : List Frame → Progress
  | [] => .complete document
  | .list items :: frames => .nextItem (document :: items) frames
  | .record members name :: frames => .nextMember ((name, document) :: members) frames

/-- The whole document when its innermost part is broken. -/
def abandon (document : Document) : List Frame → Document
  | [] => document
  | .list items :: frames =>
      abandon (.list (document :: items).reverse (.brokenBy .malformed false)) frames
  | .record members name :: frames =>
      abandon (.record ((name, document) :: members).reverse (.brokenBy .malformed false))
        frames

def pushValue (frames : List Frame) : Token → Progress
  | .openList => .firstItem frames
  | .openRecord => .firstName frames
  | .null => deliver .null frames
  | .bool value => deliver (.bool value) frames
  | .number value => deliver (.number value) frames
  | .text value => deliver (.text value) frames
  | .cutText taken skipped => .ruined (abandon (.cutText taken skipped) frames)
  | .stray taken skipped => .ruined (abandon (.stray taken skipped) frames)
  | _ => .ruined (abandon (.stray .malformed .malformed) frames)

def pushName (members : List (Option String × Document)) (frames : List Frame)
    (comma : Bool) : Token → Progress
  | .text name => .colon members name frames
  | .cutText taken skipped =>
      .ruined (abandon
        (.record members.reverse (.broken ⟨taken, skipped, comma⟩)) frames)
  | _ => .ruined (abandon (.record members.reverse (.brokenBy .malformed comma)) frames)

def push (progress : Progress) (token : Token) : Progress :=
  match progress with
  | .anyValue frames => pushValue frames token
  | .firstItem frames =>
      match token with
      | .closeList => deliver (.list [] .closed) frames
      | token => pushValue (.list [] :: frames) token
  | .nextItem items frames =>
      match token with
      | .comma => .anyValue (.list items :: frames)
      | .closeList => deliver (.list items.reverse .closed) frames
      | _ => .ruined (abandon (.list items.reverse (.brokenBy .malformed false)) frames)
  | .firstName frames =>
      match token with
      | .closeRecord => deliver (.record [] .closed) frames
      | token => pushName [] frames false token
  | .nextName members frames => pushName members frames true token
  | .colon members name frames =>
      match token with
      | .colon => .anyValue (.record members name :: frames)
      | _ =>
          .ruined (abandon (.stray .malformed .malformed) (.record members name :: frames))
  | .nextMember members frames =>
      match token with
      | .comma => .nextName members frames
      | .closeRecord => deliver (.record members.reverse .closed) frames
      | _ => .ruined (abandon (.record members.reverse (.brokenBy .malformed false)) frames)
  | .complete document => .overfull document
  | .overfull document => .overfull document
  | .ruined document => .ruined document

def finish : Progress → Document × Bool
  | .anyValue (.list items :: frames) =>
      (abandon (.list items.reverse (.brokenBy .unfinished true)) frames, false)
  | .anyValue frames => (abandon .absent frames, false)
  | .firstItem frames => (abandon (.list [] (.brokenBy .unfinished false)) frames, false)
  | .nextItem items frames =>
      (abandon (.list items.reverse (.brokenBy .unfinished false)) frames, false)
  | .firstName frames => (abandon (.record [] (.brokenBy .unfinished false)) frames, false)
  | .nextName members frames =>
      (abandon (.record members.reverse (.brokenBy .unfinished true)) frames, false)
  | .colon members name frames =>
      (abandon .absent (.record members name :: frames), false)
  | .nextMember members frames =>
      (abandon (.record members.reverse (.brokenBy .unfinished false)) frames, false)
  | .complete document => (document, false)
  | .overfull document => (document, true)
  | .ruined document => (document, false)

end Progress

namespace Document

/-- The document of a text, and whether more than one value stands there. -/
def ofText (text : String) : Document × Bool :=
  ((Token.scan text.toList).foldl Progress.push (.anyValue [])).finish

mutual

def ofJson : Json → Document
  | .null => .null
  | .bool value => .bool value
  | .number value => .number (some value)
  | .text value => .text (some value)
  | .list items => .list (ofItems items) .closed
  | .record members => .record (ofMembers members) .closed

def ofItems : List Json → List Document
  | [] => []
  | item :: rest => ofJson item :: ofItems rest

def ofMembers : List (String × Json) → List (Option String × Document)
  | [] => []
  | (name, value) :: rest => (some name, ofJson value) :: ofMembers rest

end

mutual

/-- The first fault that a reader meets who skips a value. -/
def skipFault? : Document → Option Fault
  | .cutText _ skipped => some skipped
  | .stray _ skipped => some skipped
  | .absent => some .unfinished
  | .list items ending => (skipItems items).or (skipEnding ending)
  | .record members ending => (skipMembers members).or (skipEnding ending)
  | _ => none

def skipItems : List Document → Option Fault
  | [] => none
  | item :: rest => (skipFault? item).or (skipItems rest)

def skipMembers : List (Option String × Document) → Option Fault
  | [] => none
  | (_, value) :: rest => (skipFault? value).or (skipMembers rest)

def skipEnding : Ending → Option Fault
  | .closed => none
  | .broken how => some how.skipped

end

end Document

end BookmarkHub.Json
