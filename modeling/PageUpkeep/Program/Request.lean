import PageUpkeep.Age.Timestamp
import PageUpkeep.CommandLine.Reader
import PageUpkeep.Theme

/-! What the program can be asked for, and the command line that asks for it. -/

set_option autoImplicit false

namespace PageUpkeep.Program

open CommandLine

inductive ThemeAction where
  | get
  | set (theme : Theme)
  | cycle
  deriving DecidableEq, Repr

/-- A moment that is not given is the present one. -/
inductive Task where
  | theme (action : ThemeAction)
  /-- A line for every timestamp. -/
  | labels (timestamps : List Timestamp) (now : Option Timestamp)
  /-- The markup for one timestamp, where ages above `longest` become dates. -/
  | span (timestamp : Timestamp) (now : Option Timestamp) (longest : Option Int64)
  deriving DecidableEq

structure Draft where
  config : Option String := none
  store : Option String := none
  now : Option Timestamp := none
  longest : Option Int64 := none
  theme : Option Theme := none
  timestamps : List Timestamp := []
  deriving DecidableEq

structure Request where
  config : Option String
  store : String
  task : Task
  deriving DecidableEq

/-- The draft of a command over that of the group around it: what both give is taken from the command. -/
def Draft.onto (inner outer : Draft) : Draft :=
  { inner with config := inner.config <|> outer.config, store := inner.store <|> outer.store }

def takePath (keep : String → Draft → Draft) (value : String) (draft : Draft) :
    Except ValueFault Draft :=
  if value.isEmpty then .error .empty else .ok (keep value draft)

def takeInteger (keep : Int64 → Draft → Draft) (value : String) (draft : Draft) :
    Except ValueFault Draft :=
  match Text.Integer.readInt64 value.toList with
  | .ok integer => .ok (keep integer draft)
  | .error fault => .error (.refused fault.message)

def takeTheme (keep : Theme → Draft → Draft) (value : String) (draft : Draft) :
    Except ValueFault Draft :=
  match Theme.ofName value with
  | .ok theme => .ok (keep theme draft)
  | .error unknown => .error (.refused unknown.message)

def standardStore : String := "tintage-storage.json"

def configSwitch : Switch Draft :=
  { name := "config", letter := some 'C', standard := none
    value :=
      { placeholder := "CONFIG", about := "JSON config overriding storage key and attribute names"
        take := takePath fun path draft => { draft with config := some path } } }

def storeSwitch : Switch Draft :=
  { name := "store", letter := none, standard := some standardStore
    value :=
      { placeholder := "STORE", about := "JSON file standing in for browser storage"
        take := takePath fun path draft => { draft with store := some path } } }

def nowSwitch : Switch Draft :=
  { name := "now", letter := none, standard := none
    value :=
      { placeholder := "NOW", about := "Reference time in Unix seconds (defaults to now)"
        take := takeInteger fun moment draft => { draft with now := some moment } } }

def longestSwitch : Switch Draft :=
  { name := "max-relative", letter := none, standard := none
    value :=
      { placeholder := "MAX_RELATIVE"
        about := "Show an absolute date for ages above this many seconds"
        take := takeInteger fun bound draft => { draft with longest := some bound } } }

def themeOperand : Operand Draft :=
  { many := false, signed := false
    value :=
      { placeholder := "THEME", about := ""
        take := takeTheme fun theme draft => { draft with theme := some theme } } }

def timestampOperand (placeholder about : String) (many : Bool) : Operand Draft :=
  { many, signed := true
    value :=
      { placeholder, about
        take := takeInteger fun moment draft =>
          { draft with timestamps := draft.timestamps ++ [moment] } } }

def getCommand : Command Draft Task :=
  .single "get" "Show the current preference and the mode it resolves to" [configSwitch, storeSwitch] none
    fun _ => some (.theme .get)

def setCommand : Command Draft Task :=
  .single "set" "Store a preference: auto, light or dark" [configSwitch, storeSwitch] (some themeOperand)
    fun draft => draft.theme.map fun theme => .theme (.set theme)

def cycleCommand : Command Draft Task :=
  .single "cycle" "Advance to the next preference" [configSwitch, storeSwitch] none
    fun _ => some (.theme .cycle)

def themeCommand : Command Draft Task :=
  .group "theme" "Read or change the stored theme preference" none [configSwitch, storeSwitch]
    [getCommand, setCommand, cycleCommand]

def ageCommand : Command Draft Task :=
  .single "age" "Print the label and bucket for each timestamp" [nowSwitch, configSwitch, storeSwitch]
    (some (timestampOperand "TIMESTAMPS" "Unix timestamps in seconds" true))
    fun draft =>
      if draft.timestamps.isEmpty then none else some (.labels draft.timestamps draft.now)

def spanCommand : Command Draft Task :=
  .single "span" "Print the HTML span a page would carry for a timestamp"
    [nowSwitch, longestSwitch, configSwitch, storeSwitch]
    (some (timestampOperand "TIMESTAMP" "Unix timestamp in seconds" false))
    fun draft => draft.timestamps.head?.map fun timestamp => .span timestamp draft.now draft.longest

def programName : String := "tintage"

def versionText : String := programName ++ " 0.1.0"

def grammar : Command Draft Task :=
  .group programName "Inspect theme preferences and render age labels" (some versionText)
    [configSwitch, storeSwitch] [themeCommand, ageCommand, spanCommand]

def Request.ofWords (words : List String) : Except Stop Request :=
  (grammar.read {} Draft.onto words).map fun (draft, task) =>
    { config := draft.config, store := draft.store.getD standardStore, task }

end PageUpkeep.Program
