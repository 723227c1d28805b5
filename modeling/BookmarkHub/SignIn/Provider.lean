import BookmarkHub.Text.FormUrlencoded

/-!
# Identity providers

Who vouches for the user, and the page on which the user allows it.
-/

set_option autoImplicit false

namespace BookmarkHub

inductive Provider where
  | google
  deriving DecidableEq, Repr, Inhabited

namespace Provider

def name : Provider → String
  | .google => "google"

def ofName? : String → Option Provider
  | "google" => some .google
  | _ => none

def grantParameters (clientId redirectUri : String) : List (String × String) :=
  [("scope", "email"), ("redirect_uri", redirectUri), ("client_id", clientId),
    ("response_type", "code")]

def authorizeUrl (provider : Provider) (clientId redirectUri : String) : String :=
  match provider with
  | .google =>
      "https://accounts.google.com/o/oauth2/auth?" ++
        String.ofList (FormUrlencoded.query (grantParameters clientId redirectUri))

end Provider

end BookmarkHub
