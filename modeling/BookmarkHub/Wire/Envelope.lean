import BookmarkHub.Json.Record

/-!
# Socket envelopes

Requests and responses travel over the socket as one JSON text each.  Their
number is the only thing that ties a response to its request; it is assigned
when the request is handed to the wire, so requests are built with number 0.
-/

set_option autoImplicit false

namespace BookmarkHub

inductive Method where
  | get
  | post
  | put
  | delete
  deriving DecidableEq, Repr, Inhabited

def Method.name : Method → String
  | .get => "GET"
  | .post => "POST"
  | .put => "PUT"
  | .delete => "DELETE"

def Method.known : List (String × Method) :=
  [("GET", .get), ("POST", .post), ("PUT", .put), ("DELETE", .delete)]

def Method.read : Json.Reader Method := Json.readChoice Method.known

/-- The value of a query parameter: one text, or several. -/
inductive QueryValue where
  | one (text : String)
  | many (texts : List String)
  deriving DecidableEq, Repr, Inhabited

namespace QueryValue

def toJson : QueryValue → Json
  | .one value => .text value
  | .many values => .ofTexts values

/-- Reads a text or a list of texts; the document must be sound JSON first. -/
def read : Json.Reader QueryValue := fun origin document => do
  let _ ← Json.readJson origin document
  match document with
  | .text (some value) => return .one value
  | .list items _ =>
      match Json.readItems Json.readText .frame items with
      | .ok values => return .many values
      | .error _ => .error (.shape (.noVariant "QueryValue"))
  | _ => .error (.shape (.noVariant "QueryValue"))

end QueryValue

structure Request where
  id : UInt64 := 0
  path : String
  method : Method
  values : Table String QueryValue := Table.empty
  body : Option Json := none
  deriving Inhabited

namespace Request

def get (path : String) : Request := { path, method := .get }

def withValue (request : Request) (name : String) (value : QueryValue) : Request :=
  { request with values := request.values.insert name value }

def withBody (request : Request) (body : Json) : Request :=
  { request with body := some body }

/-- The envelope as it is written: query values only if there are any, and a
body only if there is one. -/
def toJson (request : Request) : Json :=
  .record <|
    [("id", .ofWord request.id), ("path", .text request.path),
      ("method", .text request.method.name)] ++
    (if request.values.isEmpty then []
      else [("values", .record (request.values.entries.map fun entry =>
        (entry.1, entry.2.toJson)))]) ++
    (match request.body with
      | none => []
      | some body => [("body", body)])

def toText (request : Request) : String := request.toJson.toText

structure Draft where
  id : Option UInt64 := none
  path : Option String := none
  method : Option Method := none
  values : Option (Table String QueryValue) := none
  body : Option (Option Json) := none

def shape : Json.Shape Draft where
  title := "struct Request"
  fields := [
    Json.field "id" Json.readWord64 Draft.id (fun draft id => { draft with id }),
    Json.field "path" Json.readText Draft.path (fun draft path => { draft with path }),
    Json.field "method" Method.read Draft.method (fun draft method => { draft with method }),
    Json.field "values" (Json.readTable QueryValue.read) Draft.values
      (fun draft values => { draft with values }) true,
    Json.field "body" (Json.readOption Json.readJson) Draft.body
      (fun draft body => { draft with body := some body }) true]

/-- Reads a request envelope.  A body of null is no body. -/
def read : Json.Reader Request := fun origin document => do
  let draft ← shape.read {} origin document
  let id ← Json.require "id" draft.id
  let path ← Json.require "path" draft.path
  let method ← Json.require "method" draft.method
  return { id, path, method, values := draft.values.getD Table.empty, body := draft.body.getD none }

end Request

/-- A response envelope.  A status other than 200 is an answer like any other. -/
structure Response where
  id : UInt64
  status : UInt16
  body : Json
  deriving Inhabited

namespace Response

def isSuccess (response : Response) : Bool := response.status == 200

def toJson (response : Response) : Json :=
  .record [("id", .ofWord response.id), ("status", .ofNat response.status.toNat),
    ("body", response.body)]

def toText (response : Response) : String := response.toJson.toText

structure Draft where
  id : Option UInt64 := none
  status : Option UInt16 := none
  body : Option Json := none

def shape : Json.Shape Draft where
  title := "struct Response"
  fields := [
    Json.field "id" Json.readWord64 Draft.id (fun draft id => { draft with id }),
    Json.field "status" Json.readWord16 Draft.status
      (fun draft status => { draft with status }),
    Json.field "body" Json.readJson Draft.body (fun draft body => { draft with body }) true]

/-- Reads a response envelope.  Without a body its body is null. -/
def read : Json.Reader Response := fun origin document => do
  let draft ← shape.read {} origin document
  let id ← Json.require "id" draft.id
  let status ← Json.require "status" draft.status
  return { id, status, body := draft.body.getD .null }

end Response

end BookmarkHub
