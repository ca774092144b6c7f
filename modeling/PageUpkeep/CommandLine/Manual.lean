import PageUpkeep.Terminal.Style

/-! The manual page of a command: what it is for, how it is called, and one line for every command and
argument that it knows. -/

set_option autoImplicit false

namespace PageUpkeep.CommandLine

/-- A line of a manual: the letter and the name to write, what stands for a value, what it is about, and
the value taken where none is given. -/
structure ManualEntry where
  letter : Option Char := none
  name : String := ""
  placeholder : String := ""
  about : String := ""
  standard : Option String := none
  deriving DecidableEq, Repr

structure Manual where
  about : String
  /-- The names of the command, from the program on. -/
  path : List String
  /-- What is written after the names. -/
  pattern : String
  commands : List ManualEntry := []
  arguments : List ManualEntry := []
  options : List ManualEntry := []
  deriving DecidableEq, Repr

namespace ManualEntry

def width (entry : ManualEntry) : Nat :=
  entry.name.length + entry.placeholder.length +
    if entry.name.isEmpty || entry.placeholder.isEmpty then 0 else 1

def remark (entry : ManualEntry) : String :=
  match entry.standard with
  | some value => entry.about ++ " [default: " ++ value ++ "]"
  | none => entry.about

def head (color : Bool) (entry : ManualEntry) : String :=
  (if entry.name.isEmpty then "" else Style.bold.paint color entry.name) ++
    (if entry.name.isEmpty || entry.placeholder.isEmpty then "" else " ") ++ entry.placeholder

def letterHead (color : Bool) (entry : ManualEntry) : String :=
  match entry.letter with
  | some letter => Style.bold.paint color (String.ofList ['-', letter]) ++ ", "
  | none => "    "

end ManualEntry

namespace Manual

def blanks (count : Nat) : String :=
  String.ofList (List.replicate count ' ')

/-- A section of a page, its remarks in one column; nothing where there is nothing to tell. -/
def part (color : Bool) (title : String) (entries : List ManualEntry)
    (letters : Bool) : List String :=
  if entries.isEmpty then []
  else
    let widest := (entries.map ManualEntry.width).foldl max 2
    let line (entry : ManualEntry) : String :=
      "  " ++ (if letters then entry.letterHead color else "") ++ entry.head color ++
        blanks (widest - entry.width + 2) ++ entry.remark
    ["\n".intercalate (Style.underlinedBold.paint color title :: entries.map line)]

def usage (color : Bool) (manual : Manual) : String :=
  Style.underlinedBold.paint color "Usage:" ++ " " ++
    Style.bold.paint color (" ".intercalate manual.path) ++ " " ++ manual.pattern

def print (color : Bool) (manual : Manual) : String :=
  "\n\n".intercalate
    ((manual.about ++ "\n\n" ++ manual.usage color) ::
      (part color "Commands:" manual.commands false ++
        part color "Arguments:" manual.arguments false ++
        part color "Options:" manual.options true)) ++ "\n"

end Manual

end PageUpkeep.CommandLine
