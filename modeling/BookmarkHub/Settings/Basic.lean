import BookmarkHub.Environment
import BookmarkHub.Json.Record
import BookmarkHub.Page.Window
import BookmarkHub.Text.Blank

/-!
# Settings

Which server to talk to, how to reach it again, and how large windows are.
A file of settings may leave out anything; what it leaves out has a default
that depends on the environment.
-/

set_option autoImplicit false

namespace BookmarkHub

/-- The waits are in milliseconds. -/
structure ReconnectPolicy where
  automatic : Bool := true
  initialBackoff : UInt64 := 1000
  maximalBackoff : UInt64 := 30000
  deriving DecidableEq, Repr, Inhabited

/-- The server is a host, with its number behind a colon if it has one.  The wait before each
request is in milliseconds. -/
structure Settings where
  server : String
  secure : Bool
  pacing : Option UInt64 := none
  reconnect : ReconnectPolicy := {}
  window : WindowSize := {}
  deriving DecidableEq, Repr, Inhabited

inductive SettingsError where
  | noServer
  | schemeInServer (server : String)
  | backoffOrder (maximal initial : UInt64)
  deriving DecidableEq, Repr, Inhabited

def SettingsError.message : SettingsError → String
  | .noServer => "server must not be empty"
  | .schemeInServer server => "server must be host[:port] without scheme, got " ++ server
  | .backoffOrder maximal initial =>
      "reconnect.max_backoff_ms (" ++ Decimal.ofNat maximal.toNat ++
        ") is smaller than initial_backoff_ms (" ++ Decimal.ofNat initial.toNat ++ ")"

/-! ## Windows -/

namespace WindowSize

def toJson (size : WindowSize) : Json :=
  .record [("width", .ofNat size.width.toNat), ("height", .ofNat size.height.toNat)]

structure Draft where
  width : Option UInt32 := none
  height : Option UInt32 := none

def shape : Json.Shape Draft where
  title := "struct WindowDims"
  fields := [
    Json.field "width" Json.readWord32 Draft.width
      (fun draft width => { draft with width }) true,
    Json.field "height" Json.readWord32 Draft.height
      (fun draft height => { draft with height }) true]

/-- Reads a size, with the given one for what is left out. -/
def read (otherwise : WindowSize) : Json.Reader WindowSize := fun origin document => do
  let draft ← shape.read {} origin document
  return ⟨draft.width.getD otherwise.width, draft.height.getD otherwise.height⟩

end WindowSize

/-! ## Reconnection -/

namespace ReconnectPolicy

def toJson (policy : ReconnectPolicy) : Json :=
  .record [("auto_reconnect", .bool policy.automatic),
    ("initial_backoff_ms", .ofWord policy.initialBackoff),
    ("max_backoff_ms", .ofWord policy.maximalBackoff)]

structure Draft where
  automatic : Option Bool := none
  initialBackoff : Option UInt64 := none
  maximalBackoff : Option UInt64 := none

def shape : Json.Shape Draft where
  title := "struct ReconnectConfig"
  fields := [
    Json.field "auto_reconnect" Json.readBool Draft.automatic
      (fun draft automatic => { draft with automatic }) true,
    Json.field "initial_backoff_ms" Json.readWord64 Draft.initialBackoff
      (fun draft initialBackoff => { draft with initialBackoff }) true,
    Json.field "max_backoff_ms" Json.readWord64 Draft.maximalBackoff
      (fun draft maximalBackoff => { draft with maximalBackoff }) true]

def read (otherwise : ReconnectPolicy) : Json.Reader ReconnectPolicy :=
  fun origin document => do
    let draft ← shape.read {} origin document
    return {
      automatic := draft.automatic.getD otherwise.automatic
      initialBackoff := draft.initialBackoff.getD otherwise.initialBackoff
      maximalBackoff := draft.maximalBackoff.getD otherwise.maximalBackoff }

end ReconnectPolicy

namespace Settings

def defaults (environment : Environment) : Settings :=
  if environment.isDevelopment then { server := "localhost:4000", secure := false }
  else { server := "geekmarks.dmitryfrank.com", secure := true }

/-! ## Reading and writing -/

def toJson (settings : Settings) : Json :=
  .record <|
    [("server", .text settings.server), ("server_ssl", .bool settings.secure)] ++
    (match settings.pacing with
      | none => []
      | some delay => [("pacing_delay_ms", .ofWord delay)]) ++
    [("reconnect", settings.reconnect.toJson), ("window", settings.window.toJson)]

structure Draft where
  server : Option String := none
  secure : Option Bool := none
  pacing : Option (Option UInt64) := none
  reconnect : Option ReconnectPolicy := none
  window : Option WindowSize := none

def shape : Json.Shape Draft where
  title := "struct Config"
  fields := [
    Json.field "server" Json.readText Draft.server
      (fun draft server => { draft with server }) true,
    Json.field "server_ssl" Json.readBool Draft.secure
      (fun draft secure => { draft with secure }) true,
    Json.field "pacing_delay_ms" (Json.readOption Json.readWord64) Draft.pacing
      (fun draft pacing => { draft with pacing := some pacing }) true,
    Json.field "reconnect" (ReconnectPolicy.read {}) Draft.reconnect
      (fun draft reconnect => { draft with reconnect }) true,
    Json.field "window" (WindowSize.read {}) Draft.window
      (fun draft window => { draft with window }) true]

def read (environment : Environment) : Json.Reader Settings := fun origin document => do
  let draft ← shape.read {} origin document
  let otherwise := defaults environment
  return {
    server := draft.server.getD otherwise.server
    secure := draft.secure.getD otherwise.secure
    pacing := draft.pacing.getD otherwise.pacing
    reconnect := draft.reconnect.getD otherwise.reconnect
    window := draft.window.getD otherwise.window }

/-! ## Rules -/

/-- Checks what the types do not: there is a server, it is named without a
scheme, and the waits are in order. -/
def validate (settings : Settings) : Except SettingsError Unit :=
  if Text.isAllBlank settings.server then .error .noServer
  else if Text.containsText "://".toList settings.server.toList then
    .error (.schemeInServer settings.server)
  else if settings.reconnect.maximalBackoff < settings.reconnect.initialBackoff then
    .error (.backoffOrder settings.reconnect.maximalBackoff settings.reconnect.initialBackoff)
  else .ok ()

def pacingDelay (settings : Settings) : Option Nat :=
  (settings.pacing.filter (· > 0)).map UInt64.toNat

/-- Whether a change to other settings needs another connection. -/
def requiresReconnect (settings other : Settings) : Bool :=
  settings.server != other.server || settings.secure != other.secure

def httpBase (settings : Settings) : String :=
  (if settings.secure then "https" else "http") ++ "://" ++ settings.server ++ "/api"

def socketUrl (settings : Settings) (token : String) : String :=
  (if settings.secure then "wss" else "ws") ++ "://" ++ settings.server ++
    "/api/my/wsconnect?token=" ++ String.ofList (FormUrlencoded.encode token)

end Settings

end BookmarkHub
