import BookmarkHub.Json.Record
import BookmarkHub.StoredFile

/-!
# Credentials and where they are kept

The credentials are one token, or none after a logout.  A store keeps them in
memory or in a file; `CredentialStore` is what the two have in common.
-/

set_option autoImplicit false

namespace BookmarkHub

/-- What is known of the user: a token, unless the user has logged out. -/
structure Credentials where
  stored : Option String := none
  deriving DecidableEq, Repr, Inhabited

namespace Credentials

def ofToken (token : String) : Credentials := ⟨some token⟩

/-- The token to sign in with; the empty text is none. -/
def token (credentials : Credentials) : Option String :=
  credentials.stored.filter (!·.isEmpty)

def toJson (credentials : Credentials) : Json :=
  .record <| match credentials.stored with
    | none => []
    | some token => [("token", .text token)]

structure Draft where
  stored : Option (Option String) := none

def shape : Json.Shape Draft where
  title := "struct Credentials"
  fields := [
    Json.field "token" (Json.readOption Json.readText) Draft.stored
      (fun draft stored => { draft with stored := some stored }) true]

def read : Json.Reader Credentials := fun origin document => do
  let draft ← shape.read {} origin document
  return ⟨draft.stored.getD none⟩

end Credentials

inductive StoreError where
  | file (error : FileError)
  | other (message : String)
  deriving DecidableEq, Repr, Inhabited

def StoreError.message : StoreError → String
  | .file error => error.message
  | .other message => message

/-- A place for credentials.  A write that fails changes nothing. -/
structure CredentialStore (State : Type) where
  get : State → Except StoreError (Option Credentials)
  set : State → Credentials → Except StoreError State

namespace CredentialStore

def memory : CredentialStore (Option Credentials) where
  get stored := .ok stored
  set _ credentials := .ok (some credentials)

/-- Credentials in the file at a path, whose directory may be missing.  The
whole file is replaced, and its owner alone may read it. -/
def file (path : String) (hasDirectory : Bool) : CredentialStore (Option StoredFile) where
  get stored := match stored with
    | none => .ok none
    | some file =>
        ((StoredFile.readJson Credentials.read "credentials file" path (some file)).map
          some).mapError .file
  set _ credentials :=
    if hasDirectory then .ok (some (.confidential credentials.toJson.toIndentedText))
    else .error (.file (.unwritable path))

end CredentialStore

end BookmarkHub
