import BookmarkHub.Connection.Endpoint
import BookmarkHub.SignIn.Login

/-!
# Clients of a user

A client is opened with a token, which is in the address of its socket, and
starts connecting at once.  Whatever logs a user in gives a client for the
token that the store holds then; without a token there is none.
-/

set_option autoImplicit false

namespace BookmarkHub

structure OpenedClient where
  address : String
  endpoint : Endpoint
  deriving Inhabited

def OpenedClient.ofToken (settings : Settings) (token : String) : OpenedClient where
  address := settings.socketUrl token
  endpoint := .connecting (.ofSettings settings)

namespace SignIn

inductive Action where
  | login (world : SignInWorld) (name : String)
  | authenticated (token : String)
  | logout
  | create

abbrev Opened := Except SignInError (Option OpenedClient)

variable {State : Type}

def openWith (settings : Settings) (token : Except SignInError (Option String)) : Opened :=
  token.map (Option.map (OpenedClient.ofToken settings))

def create (settings : Settings) (store : CredentialStore State) (run : SignIn State) : Opened :=
  openWith settings (loggedInToken store run)

def act (settings : Settings) (store : CredentialStore State) (action : Action)
    (run : SignIn State) : Opened × SignIn State :=
  match action with
  | .login world name =>
      let (token, run) := login world store run name
      (openWith settings token, run)
  | .authenticated token =>
      let (token, run) := authenticated store run token
      (openWith settings token, run)
  | .logout =>
      let (done, run) := logout store run
      (done.map fun _ => none, run)
  | .create => (create settings store run, run)

end SignIn

end BookmarkHub
