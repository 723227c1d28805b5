import BookmarkHub.CommandLine.Run

/-!
# The program

Reads the arguments, the variables and the files, runs the task, and writes
what it leaves.  There are no sockets here: a query reaches no server, and ends
when its time is up.
-/

set_option autoImplicit false

namespace BookmarkHub.Program

open BookmarkHub.CommandLine

def bindingNames : List String :=
  ["GEEKMARKS_ENV", "GEEKMARKS_SERVER", "GEEKMARKS_SERVER_SSL", "GEEKMARKS_PACING_DELAY_MS"]

def readBindings : IO Variables :=
  bindingNames.filterMapM fun name => do
    return (← IO.getEnv name).map fun value => (name, value)

def readDirectory : IO String := do
  match ← IO.getEnv "GEEKMARKS_CONFIG_DIR" with
  | some directory => return directory
  | none => return (← IO.getEnv "HOME").getD "." ++ "/.config/geekmarks"

/-- Reads a file.  One that is there and cannot be read holds no text. -/
def readFile (path : String) : IO (Option StoredFile) := do
  try
    let bytes ← IO.FS.readBinFile path
    return some ⟨.ofBytes bytes.toList, StoredFile.ownerOnly⟩
  catch
    | .noFileOrDirectory .. => return none
    | _ => return some ⟨.bytes [0xff], StoredFile.ownerOnly⟩

def readWorld : IO World := do
  let directory ← readDirectory
  return {
    bindings := ← readBindings
    directory
    settings := ← readFile (directory ++ "/config.json")
    credentials := ← readFile (directory ++ "/credentials.json") }

def writeCredentials (before after : World) : IO Unit := do
  if before.credentials != after.credentials then
    match after.credentials with
    | some ⟨.text text, _⟩ =>
        IO.FS.createDirAll after.directory
        let path := after.directory ++ "/credentials.json"
        IO.FS.writeFile path text
        IO.setAccessRights path { user := { read := true, write := true } }
    | _ => return

def longestNap : Nat := 1000000

def sleep (seconds : Nat) : IO Unit := do
  for _ in [0 : seconds / longestNap] do
    IO.sleep (UInt32.ofNat (longestNap * 1000))
  IO.sleep (UInt32.ofNat (seconds % longestNap * 1000))

/-- Waits as long as a query does. -/
def awaitQuery (task : Task) (finished : Finished) : IO Unit := do
  if finished.query.isSome then
    match task with
    | .ask _ seconds => sleep seconds
    | _ => return

def runTask (task : Task) : IO UInt32 := do
  let world ← readWorld
  let finished := CommandLine.run task world []
  writeCredentials world finished.world
  awaitQuery task finished
  for line in finished.exit.output do
    IO.println line
  if let some complaint := finished.exit.complaint then
    IO.eprintln complaint.message
  return UInt32.ofNat finished.exit.status

end BookmarkHub.Program

open BookmarkHub in
def main (arguments : List String) : IO UInt32 := do
  match CommandLine.parse? arguments with
  | none =>
      IO.eprintln CommandLine.usage
      return UInt32.ofNat CommandLine.usageStatus
  | some .help =>
      IO.println CommandLine.usage
      return 0
  | some .version =>
      IO.println CommandLine.title
      return 0
  | some (.task task) => Program.runTask task
