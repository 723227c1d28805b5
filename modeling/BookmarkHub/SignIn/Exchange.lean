import BookmarkHub.Json.Record
import BookmarkHub.SignIn.Provider

/-!
# Exchanges with the server

Before there is a token, the server is asked with plain requests: for the
number under which a provider knows it, and for a token in return for the code
that the provider gave.
-/

set_option autoImplicit false

namespace BookmarkHub

/-- A plain request to the server: a method, a target and its parameters. -/
structure PlainRequest where
  method : String
  path : String
  parameters : List (String × String) := []
  deriving DecidableEq, Repr, Inhabited

def PlainRequest.target (request : PlainRequest) : String :=
  if request.parameters.isEmpty then request.path
  else request.path ++ "?" ++ String.ofList (FormUrlencoded.query request.parameters)

inductive PlainAnswer where
  | unreachable
  | answer (status : Nat) (body : String)
  deriving DecidableEq, Repr, Inhabited

inductive ExchangeError where
  | failed
  | refused (status : Nat) (body : String)
  deriving DecidableEq, Repr, Inhabited

namespace Exchange

def clientIdRequest (provider : Provider) : PlainRequest where
  method := "GET"
  path := "/api/auth/" ++ provider.name ++ "/client_id"

def tokenRequest (provider : Provider) (redirectUri code : String) : PlainRequest where
  method := "POST"
  path := "/api/auth/" ++ provider.name ++ "/authenticate"
  parameters := [("code", code), ("redirect_uri", redirectUri)]

/-- A text that is the only field of an answer, if it is there. -/
structure Draft where
  value : Option String := none

def shape (title name : String) : Json.Shape Draft where
  title := title
  fields := [
    Json.field name Json.readText Draft.value (fun draft value => { draft with value })]

def read (title name : String) : Json.Reader String := fun origin document => do
  let draft ← (shape title name).read {} origin document
  Json.require name draft.value

def conclude (title name : String) : PlainAnswer → Except ExchangeError String
  | .unreachable => .error .failed
  | .answer status body =>
      if 200 ≤ status ∧ status < 300 then
        match Json.ofText (read title name) body with
        | .ok value => .ok value
        | .error _ => .error .failed
      else .error (.refused status body)

def clientId : PlainAnswer → Except ExchangeError String :=
  conclude "struct ClientIdResponse" "clientID"

def token : PlainAnswer → Except ExchangeError String :=
  conclude "struct AuthenticateResponse" "token"

end Exchange

end BookmarkHub
