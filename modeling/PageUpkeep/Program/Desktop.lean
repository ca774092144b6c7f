import PageUpkeep.Files.Tree
import PageUpkeep.Program.Ini
import PageUpkeep.Text.Integer
import PageUpkeep.Theme

/-! A detector of the colour mode, by the desktop. One desktop tells the background colour of its windows in a file of
settings; no other one is asked. -/

set_option autoImplicit false

namespace PageUpkeep.Program

def knownDesktop : String := "KDE"

def desktopFile : String := ".config/kdeglobals"

/-- A part of a colour; what is not a number counts as full. -/
def colorPart (text : List Char) : UInt32 :=
  match Text.Integer.readUInt32 text with
  | .ok part => part
  | .error _ => 255

/-- The mode of a background colour, of three parts between commas: dark below three quarters of full
brightness. Parts beyond the third do not count, and fewer than three make white. -/
def modeOfBackground (color : String) : ColorMode :=
  match (color.toList.splitOnP (· == ',')).map colorPart with
  | red :: green :: blue :: _ => if (11 * red + 16 * green + 5 * blue) / 32 < 192 then .dark else .light
  | _ => .light

inductive DesktopFault where
  | unreadable (fault : FileFault)
  | malformed (fault : Ini.Fault)
  deriving DecidableEq, Repr

namespace DesktopFault

def record (name : String) (parts : List (String × String)) : String :=
  name ++ " \x7b " ++ ", ".intercalate (parts.map fun part => part.1 ++ ": " ++ part.2) ++ " \x7d"

def diskSort : DiskFault → String
  | .permissionDenied => "PermissionDenied"
  | .inputOutput => "Uncategorized"
  | .noSpace => "StorageFull"
  | .readOnly => "ReadOnlyFilesystem"
  | .quotaExceeded => "QuotaExceeded"

def sort : FileFault → String
  | .notFound => "NotFound"
  | .alreadyExists => "AlreadyExists"
  | .notADirectory => "NotADirectory"
  | .isADirectory => "IsADirectory"
  | .nameTooLong => "InvalidFilename"
  | .nulByte => "InvalidInput"
  | .notText => "InvalidData"
  | .disk fault => diskSort fault
  | .other _ => "Other"

def report : DesktopFault → String
  | unreadable fault =>
    let parts := [("kind", sort fault), ("message", Text.excerpt fault.description)]
    "Io(" ++
      (match fault.number? with
        | some number => record "Os" (("code", number.repr) :: parts)
        | none => record "Error" parts) ++ ")"
  | malformed fault =>
    "Parse(" ++
      record "ParseError" [("line", fault.place.line.repr), ("col", fault.place.column.repr),
        ("msg", Text.excerpt fault.cause.message)] ++ ")"

end DesktopFault

def modeOfSettings (settings : String) : Except DesktopFault ColorMode :=
  ((Ini.read settings).mapError .malformed).map fun sections =>
    match Ini.lookup sections "Colors:Window" "BackgroundNormal" with
    | some color => modeOfBackground color
    | none => .light

def desktopMode (home : String) (files : FileTree) : Except DesktopFault ColorMode := do
  let settings ← (files.readText (.ofString (home ++ "/" ++ desktopFile))).mapError .unreadable
  modeOfSettings settings

/-- Tells the mode of a desktop. Why it cannot be told is noted on a line. -/
def desktopDetector (desktop : Option String) (home : String) (files : FileTree) :
    Option ColorMode × String :=
  if desktop = some knownDesktop then
    match desktopMode home files with
    | .ok mode => (some mode, "")
    | .error fault => (none, fault.report ++ "\n")
  else (none, "")

end PageUpkeep.Program
