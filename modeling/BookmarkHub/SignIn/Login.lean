import BookmarkHub.SignIn.Credentials
import BookmarkHub.SignIn.Exchange

/-!
# Login and logout

A login asks the server for its number with the provider, lets a launcher ask
the user, trades the code it gets for a token, and only then writes the store.
The web and the launcher are what they answer; a log tells what was asked.
-/

set_option autoImplicit false

namespace BookmarkHub

structure Grant where
  code : String
  redirectUri : String
  deriving DecidableEq, Repr, Inhabited

inductive SignInError where
  | exchange (error : ExchangeError)
  | launcher (message : String)
  | store (error : StoreError)
  | unknownProvider (name : String)
  deriving DecidableEq, Repr, Inhabited

def SignInError.message : SignInError → String
  | .exchange .failed => "auth request failed"
  | .exchange (.refused status body) =>
      "server returned " ++ Decimal.ofNat status ++ ": " ++ body
  | .launcher message => "auth flow failed: " ++ message
  | .store error => "credential store: " ++ error.message
  | .unknownProvider name => "unknown auth provider: " ++ name

inductive SignInStep where
  | exchange (request : PlainRequest)
  | launch (provider : Provider) (clientId : String)
  deriving DecidableEq, Repr, Inhabited

/-- The world that a login asks: the web, and the launcher of the provider's
page if there is one.  Both may answer differently after other steps. -/
structure SignInWorld where
  web : List SignInStep → PlainRequest → PlainAnswer
  launcher : Option (List SignInStep → Provider → String → Except String Grant)

/-- The store, and what was asked so far. -/
structure SignIn (State : Type) where
  store : State
  log : List SignInStep := []
  deriving DecidableEq, Repr, Inhabited

namespace SignIn

variable {State : Type}

def ask (world : SignInWorld) (request : PlainRequest) (log : List SignInStep) :
    PlainAnswer × List SignInStep :=
  (world.web log request, log ++ [.exchange request])

def clientId (world : SignInWorld) (provider : Provider) (log : List SignInStep) :
    Except SignInError String × List SignInStep :=
  let (answer, log) := ask world (Exchange.clientIdRequest provider) log
  ((Exchange.clientId answer).mapError .exchange, log)

def authenticate (world : SignInWorld) (provider : Provider) (grant : Grant)
    (log : List SignInStep) : Except SignInError String × List SignInStep :=
  let (answer, log) :=
    ask world (Exchange.tokenRequest provider grant.redirectUri grant.code) log
  ((Exchange.token answer).mapError .exchange, log)

def obtainToken (world : SignInWorld) (name : String) (log : List SignInStep) :
    Except SignInError String × List SignInStep :=
  match Provider.ofName? name, world.launcher with
  | none, _ => (.error (.unknownProvider name), log)
  | some _, none => (.error (.launcher "no web auth flow available"), log)
  | some provider, some launch =>
      match clientId world provider log with
      | (.error error, log) => (.error error, log)
      | (.ok client, log) =>
          match launch log provider client with
          | .error message => (.error (.launcher message), log ++ [.launch provider client])
          | .ok grant => authenticate world provider grant (log ++ [.launch provider client])

/-- The token to open a client with, if the user is logged in. -/
def loggedInToken (store : CredentialStore State) (run : SignIn State) :
    Except SignInError (Option String) :=
  match store.get run.store with
  | .error error => .error (.store error)
  | .ok stored => .ok (stored.bind Credentials.token)

/-- Writes credentials and goes on with what holds then. -/
def keep {Value : Type} (store : CredentialStore State) (run : SignIn State)
    (credentials : Credentials) (next : SignIn State → Except SignInError Value) :
    Except SignInError Value × SignIn State :=
  match store.set run.store credentials with
  | .error error => (.error (.store error), run)
  | .ok state =>
      let run := { run with store := state }
      (next run, run)

def authenticated (store : CredentialStore State) (run : SignIn State) (token : String) :
    Except SignInError (Option String) × SignIn State :=
  keep store run (.ofToken token) (loggedInToken store)

def logout (store : CredentialStore State) (run : SignIn State) :
    Except SignInError Unit × SignIn State :=
  keep store run {} fun _ => .ok ()

/-- Logs in with the provider of a name: the store is written only when a
token has been obtained. -/
def login (world : SignInWorld) (store : CredentialStore State) (run : SignIn State)
    (name : String) : Except SignInError (Option String) × SignIn State :=
  match obtainToken world name run.log with
  | (.error error, log) => (.error error, { run with log })
  | (.ok token, log) => authenticated store { run with log } token

end SignIn

end BookmarkHub
