import BookmarkHub.CommandLine.Arguments
import BookmarkHub.CommandLine.Query
import BookmarkHub.Settings.File
import BookmarkHub.SignIn.Client

/-!
# Running the command line

A task is run on the variables and the files of the user.  The settings are
loaded first, whatever the task.  A query needs a token; only then is a
connection opened.
-/

set_option autoImplicit false

namespace BookmarkHub.CommandLine

def title : String := "geekmarks 0.3.0"

inductive Complaint where
  | settings (error : Settings.LoadError)
  | keeping (error : StoreError)
  | signIn (error : SignInError)
  | notLoggedIn
  | unanswered (operation : Operation) (failure : Failure)
  | refused (status : UInt16)
  deriving Inhabited

def Complaint.message : Complaint → String
  | .settings error => "Error: " ++ error.message
  | .keeping error => "Error: Failed to store token: " ++ error.message
  | .signIn error => "Error: " ++ error.message
  | .notLoggedIn => "Not logged in. Run `geekmarks set-token <token>` first."
  | .unanswered operation failure =>
      "Error: " ++ operation.name ++ " failed: " ++ failure.message
  | .refused status => "Server answered " ++ Decimal.ofNat status.toNat

structure Exit where
  output : List String := []
  complaint : Option Complaint := none
  deriving Inhabited

def Exit.isSuccess (exit : Exit) : Bool := exit.complaint.isNone

def Exit.status (exit : Exit) : Nat := if exit.isSuccess then 0 else 1

def usageStatus : Nat := 2

structure World where
  bindings : Variables
  directory : String
  settings : Option StoredFile
  credentials : Option StoredFile
  deriving Inhabited

inductive Plan where
  | exit (exit : Exit)
  | ask (operation : Operation) (seconds : Nat) (settings : Settings) (token : String)
  deriving Inhabited

/-- The store of the credentials.  It is the file that a test environment keeps them in, whatever
`GEEKMARKS_ENV` says: the keyring that the other environments use is not modelled. -/
def World.store (world : World) : CredentialStore (Option StoredFile) :=
  .file (world.directory ++ "/credentials.json") true

def complain (complaint : Complaint) (world : World) : Plan × World :=
  (.exit { complaint := some complaint }, world)

def say (line : String) (world : World) : Plan × World := (.exit { output := [line] }, world)

/-- What a task comes to once the settings are read.  A client for plain requests is taken to be
always at hand: that it could not be made is left out. -/
def planWith (settings : Settings) (task : Task) (world : World) : Plan × World :=
  match task with
  | .showSettings => say settings.toJson.toIndentedText world
  | .keepToken token =>
      match world.store.set world.credentials (.ofToken token) with
      | .error error => complain (.keeping error) world
      | .ok credentials => say "Token saved." { world with credentials }
  | .logout =>
      match SignIn.logout world.store { store := world.credentials } with
      | (.error error, _) => complain (.signIn error) world
      | (.ok _, signIn) => say "Logged out." { world with credentials := signIn.store }
  | .ask operation seconds =>
      match SignIn.loggedInToken world.store { store := world.credentials } with
      | .error error => complain (.signIn error) world
      | .ok none => complain .notLoggedIn world
      | .ok (some token) => (.ask operation seconds settings token, world)

/-- What a task comes to before anything is sent, and what it leaves. -/
def plan (task : Task) (world : World) : Plan × World :=
  match Settings.load world.bindings (world.directory ++ "/config.json") world.settings with
  | .error error => complain (.settings error) world
  | .ok settings => planWith settings task world

/-- How a query ends.  The body of a response is printed whatever its status. -/
def conclude (operation : Operation) : Outcome → Exit
  | .error failure => { complaint := some (.unanswered operation failure) }
  | .ok response =>
      { output := [response.body.toIndentedText]
        complaint := if response.isSuccess then none else some (.refused response.status) }

structure Finished where
  exit : Exit
  world : World
  query : Option QueryRun := none
  address : Option String := none
  deriving Inhabited

/-- Runs a task.  What happens to the connection of a query is given. -/
def run (task : Task) (world : World) (moments : List QueryMoment) : Finished :=
  match plan task world with
  | (.exit exit, world) => { exit, world }
  | (.ask operation seconds settings token, world) =>
      let client := OpenedClient.ofToken settings token
      let query := Query.ask operation (seconds * 1000) moments client.endpoint
      { exit := conclude operation query.outcome
        world
        query := some query
        address := some client.address }

def usage : String :=
  "\n".intercalate [
    "Usage: geekmarks [--timeout <SECONDS>] <COMMAND>",
    "",
    "Commands:",
    "  tags [--allow-new] <PATTERN>          Find tags matching a pattern",
    "  tree                                  Print the whole tag tree",
    "  bookmarks --url <URL> | --tag-id <N>  List bookmarks by URL or by tags",
    "  bookmark <ID>                         Print one bookmark",
    "  set-token <TOKEN>                     Store an auth token obtained elsewhere",
    "  logout                                Forget the stored token",
    "  config                                Print the effective configuration"]

end BookmarkHub.CommandLine
