import PageUpkeep.CommandLine.Fault
import PageUpkeep.CommandLine.Manual

/-! The grammar of a command line: commands in groups, options with a value, and values by position.

A value that is read goes into a draft of the request. An option is known in every group and command
that lists it; what is not listed is unknown there.
-/

set_option autoImplicit false

namespace PageUpkeep.CommandLine

structure Parameter (Draft : Type) where
  /-- The word that stands for the value in manuals. -/
  placeholder : String
  about : String
  take : String → Draft → Except ValueFault Draft

structure Switch (Draft : Type) where
  name : String
  letter : Option Char
  /-- What manuals say is taken where the option is not given. -/
  standard : Option String
  value : Parameter Draft

structure Operand (Draft : Type) where
  value : Parameter Draft
  /-- Whether it can be given more than once. -/
  many : Bool
  /-- Whether a word that is a negative number is a value. -/
  signed : Bool

/-- A group of commands, or a single command, which comes to a task once its draft is complete. -/
inductive Command (Draft Task : Type) where
  | group (name about : String) (version : Option String) (switches : List (Switch Draft))
      (commands : List (Command Draft Task))
  | single (name about : String) (switches : List (Switch Draft)) (operand : Option (Operand Draft))
      (complete : Draft → Option Task)

variable {Draft Task : Type}

def Switch.shown (switch : Switch Draft) : String :=
  "--" ++ switch.name ++ " <" ++ switch.value.placeholder ++ ">"

def Operand.shown (operand : Operand Draft) : String :=
  "<" ++ operand.value.placeholder ++ ">" ++ if operand.many then "..." else ""

namespace Command

def name : Command Draft Task → String
  | group name .. | single name .. => name

def about : Command Draft Task → String
  | group _ about .. | single _ about .. => about

def version : Command Draft Task → Option String
  | group _ _ version .. => version
  | single .. => none

def switches : Command Draft Task → List (Switch Draft)
  | group _ _ _ switches _ | single _ _ switches .. => switches

def commands : Command Draft Task → List (Command Draft Task)
  | group _ _ _ _ commands => commands
  | single .. => []

def operand : Command Draft Task → Option (Operand Draft)
  | group .. => none
  | single _ _ _ operand _ => operand

def isGroup : Command Draft Task → Bool
  | group .. => true
  | single .. => false

def find? (command : Command Draft Task) (name : String) : Option (Command Draft Task) :=
  command.commands.find? fun inner => inner.name == name

end Command

def Switch.entry (switch : Switch Draft) : ManualEntry :=
  { letter := switch.letter, name := "--" ++ switch.name,
    placeholder := "<" ++ switch.value.placeholder ++ ">", about := switch.value.about,
    standard := switch.standard }

def Operand.entry (operand : Operand Draft) : ManualEntry :=
  { placeholder := operand.shown, about := operand.value.about }

def Command.entry (command : Command Draft Task) : ManualEntry :=
  { name := command.name, about := command.about }

def helpName : String := "help"

def helpAbout : String := "Print this message or the help of the given subcommand(s)"

def helpFlag : ManualEntry :=
  { letter := some 'h', name := "--help", about := "Print help" }

def versionFlag : ManualEntry :=
  { letter := some 'V', name := "--version", about := "Print version" }

def Command.manual (command : Command Draft Task) (path : List String) : Manual :=
  { about := command.about
    path
    pattern := "[OPTIONS]" ++
      (match command.operand with
        | some operand => " " ++ operand.shown
        | none => if command.isGroup then " <COMMAND>" else "")
    commands :=
      if command.isGroup then
        command.commands.map entry ++ [{ name := helpName, about := helpAbout }]
      else []
    arguments := command.operand.toList.map Operand.entry
    options := command.switches.map Switch.entry ++ [helpFlag] ++
      if command.version.isSome then [versionFlag] else [] }

def helpManual (path : List String) : Manual :=
  { about := helpAbout
    path := path ++ [helpName]
    pattern := "[COMMAND]..."
    arguments := [{ placeholder := "[COMMAND]...", about := "Print help for the subcommand(s)" }] }

end PageUpkeep.CommandLine
