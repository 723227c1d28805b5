import BookmarkHub.Settings.Basic
import BookmarkHub.StoredFile

/-!
# Settings in a file

Settings are loaded from a file, if there is one, and some of them are then
replaced by environment variables.  Only valid settings are loaded or saved.
-/

set_option autoImplicit false

namespace BookmarkHub.Settings

inductive LoadError where
  | file (error : FileError)
  | invalid (error : SettingsError)
  deriving DecidableEq, Repr, Inhabited

def LoadError.message : LoadError → String
  | .file error => error.message
  | .invalid error => error.message

/-- The settings in a file, which must exist. -/
def ofFile (environment : Environment) (path : String) (file : Option StoredFile) :
    Except FileError Settings :=
  StoredFile.readJson (read environment) "config" path file

/-- Replaces what the environment variables give.  A delay that is no word is
passed over, and a delay of zero is none. -/
def override (bindings : Variables) (settings : Settings) : Settings :=
  let server := (bindings.lookup "GEEKMARKS_SERVER").getD settings.server
  let secure := match bindings.lookup "GEEKMARKS_SERVER_SSL" with
    | some choice => choice == "1" || choice == "true" || choice == "yes"
    | none => settings.secure
  let delay := (bindings.lookup "GEEKMARKS_PACING_DELAY_MS").bind Decimal.readWord?
  let pacing := match delay with
    | some delay => if delay > 0 then some delay else none
    | none => settings.pacing
  { settings with server, secure, pacing }

def load (bindings : Variables) (path : String) (file : Option StoredFile) :
    Except LoadError Settings := do
  let environment := Environment.ofVariables bindings
  let stored ← match file with
    | none => .ok (defaults environment)
    | some file => (ofFile environment path (some file)).mapError .file
  let settings := override bindings stored
  settings.validate.mapError .invalid
  return settings

/-- Saves the settings to a file, which stays as it is if they are invalid. -/
def saveTo (fresh : Nat) (settings : Settings) (file : Option StoredFile) :
    Except SettingsError Unit × Option StoredFile :=
  match settings.validate with
  | .error error => (.error error, file)
  | .ok () =>
      let written := StoredFile.write fresh settings.toJson.toIndentedText file
      (.ok (), some written.restrict)

def save (settings : Settings) : Except SettingsError StoredFile := do
  settings.validate
  return .confidential settings.toJson.toIndentedText

end BookmarkHub.Settings
