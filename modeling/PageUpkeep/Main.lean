import PageUpkeep.Program.Desktop
import PageUpkeep.Program.Run
import Std.Time.DateTime.Timestamp

/-! The program as a command: looks up the environment and the files that a request can touch, runs the
request, and puts what has changed back on the disk. -/

set_option autoImplicit false

namespace PageUpkeep.Program.Shell

def present : IO Timestamp := do
  let milliseconds := (← Std.Time.Timestamp.now).toMillisecondsSinceUnixEpoch.toInt
  return Int64.ofInt ((milliseconds + 500) / 1000)

def isSet (name : String) : IO Bool := do
  return (← IO.getEnv name).any (· != "0")

def environment (home : String) : IO Environment := do
  let terminal ← (← IO.getStdout).isTty
  let forced ← isSet "CLICOLOR_FORCE"
  let plain := (← IO.getEnv "NO_COLOR").isSome
  let wanted := (← IO.getEnv "CLICOLOR") != some "0"
  return {
    color := forced || (terminal && wanted && !plain)
    usageColor := !plain && (forced || (terminal && wanted))
    logFilter := ← IO.getEnv "RUST_LOG"
    detect := desktopDetector (← IO.getEnv "XDG_CURRENT_DESKTOP") home
    now := ← present }

/-- What is at a path, if anything, and what is known to stand against reading it. -/
def nodeAt (path : String) : IO (Option Node × Option Restriction) := do
  let target := (← IO.currentDir) / path
  if ← target.isDir then return (some .directory, none)
  else if ← target.pathExists then
    try
      return (some (.file (← IO.FS.readBinFile target)), none)
    catch _ =>
      return (some (.file .empty), some (.closed .permissionDenied))
  else return (none, none)

def stations (path : Path) : List (Place × String) :=
  let root := if path.isAbsolute then "/" else ""
  let walk := path.steps.foldl
    (fun (place, written, found) step =>
      let place := place.enter step
      let written := written ++ step
      (place, written ++ "/", found ++ [(place, written)]))
    (Place.start path, root, ([] : List (Place × String)))
  walk.2.2

def gather (files : FileTree) (path : String) : IO FileTree :=
  (stations (.ofString path)).foldlM
    (fun files (place, written) => do
      if place.names.isEmpty then return files
      let (node, restriction) ← nodeAt written
      let known := restriction.map fun restriction => (place, restriction)
      let files := { files with restrictions := known.toList ++ files.restrictions }
      match node with
      | some node => return files.put place node
      | none => return files) files

/-- Puts on the disk what a path leads through in a tree and is not there yet; `known` is what is there. -/
def settle (after known : FileTree) (path : String) : IO FileTree :=
  (stations (.ofString path)).foldlM
    (fun known (place, written) => do
      match after.find? place with
      | none => return known
      | some node =>
        if known.find? place == some node then return known
        match node with
        | .directory => IO.FS.createDir written
        | .file content => IO.FS.writeBinFile written content
        return known.put place node) known

def pathsOf (home : String) (request : Request) : List String :=
  request.config.toList ++ [request.store, home ++ "/" ++ desktopFile]

def execute (words : List String) : IO UInt32 := do
  let home := (← IO.getEnv "HOME").getD "."
  let environment ← environment home
  let paths := match Request.ofWords words with
    | .ok request => pathsOf home request
    | .error _ => []
  let before ← paths.foldlM gather .empty
  let outcome := run environment before words
  let _ ← paths.foldlM (settle outcome.files) before
  IO.print outcome.out
  IO.eprint outcome.errors
  return UInt32.ofNat outcome.exit

end PageUpkeep.Program.Shell

def main (words : List String) : IO UInt32 :=
  PageUpkeep.Program.Shell.execute words
