import PageUpkeep.Age.Span
import PageUpkeep.Page
import PageUpkeep.Program.LogFilter
import PageUpkeep.Program.Request
import PageUpkeep.Terminal.Sequence

/-! What the program does with a request: a function of the words of the command line, of the
environment and of the files, to what is printed and to the files afterwards. -/

set_option autoImplicit false

namespace PageUpkeep.Program

structure Environment where
  /-- Whether styles are sent to the terminal. -/
  color : Bool := false
  /-- Whether manuals and faults of usage are in colour too. -/
  usageColor : Bool := false
  /-- Which events are told; none if the filter is missing. -/
  logFilter : Option String := none
  /-- The mode of the system, if it tells one, and what is noted on the way. It may be looked up in files. -/
  detect : FileTree → Option ColorMode × String
  now : Timestamp

structure Outcome where
  exit : Nat
  out : String
  errors : String
  files : FileTree
  deriving DecidableEq

namespace Environment

def tell (environment : Environment) (events : List Event) : String :=
  match environment.logFilter with
  | none => ""
  | some text =>
    let filter := LogFilter.ofText text
    String.join ((events.filter filter.allows).map fun event => event.line ++ "\n")

def askMode (environment : Environment) (files : FileTree) : StateM String ColorMode := do
  let (told, noted) := environment.detect files
  modify fun notes => notes ++ noted
  return .ofSystem told

end Environment

/-- The report of an error and of those beneath it, which are numbered if there are several. -/
def errorReport (message : String) : List String → String
  | [] => "Error: " ++ message ++ "\n"
  | [cause] => "Error: " ++ message ++ "\n\nCaused by:\n    " ++ cause ++ "\n"
  | causes =>
    "Error: " ++ message ++ "\n\nCaused by:\n" ++
      String.join (causes.zipIdx.map fun (cause, place) =>
        "    " ++ place.repr ++ ": " ++ cause ++ "\n")

def ThemeAction.apply (action : ThemeAction) (settings : ThemeSettings) (page : Page) : Page :=
  match action with
  | .get => page.updateToggle settings
  | .set theme => page.setTheme settings theme
  | .cycle => (page.cycleTheme settings).1

def togglePage (settings : Settings) (store : FileStore) : Page :=
  { store := .file store, document := Document.empty.add { id := some settings.theme.toggleId } }

def filesOf (files : FileTree) : Store → FileTree
  | .file store => store.files
  | _ => files

/-- Does what is asked of the theme, and prints what the toggle shows then and the mode it comes to. -/
def runTheme (environment : Environment) (settings : Settings) (store : FileStore) (action : ThemeAction) :
    Outcome :=
  let page := action.apply settings.theme ((togglePage settings store).scriptLoad settings)
  let files := filesOf store.files page.store
  let ((read, mode), notes) := (page.colorMode settings.theme (environment.askMode files)).run ""
  let shown := page.document.text 0
  let style := if shown = Theme.auto.name then Style.dim else Style.bold
  { exit := 0, out := style.paint environment.color shown ++ " (" ++ mode.name ++ ")\n"
    errors := environment.tell read.log ++ notes, files }

def bucketStyle : AgeBucket → Style
  | .minutes => .greenBold
  | .hours => .green
  | .days => .yellow
  | .weeks | .months | .years => .dim

def labelLine (color : Bool) (now timestamp : Timestamp) : String :=
  let label := AgeLabel.ofAge (timestamp.age now)
  timestamp.toAttribute ++ "\t" ++ (bucketStyle label.bucket).paint color label.text ++ "\t" ++
    label.className ++ "\n"

def runTask (environment : Environment) (files : FileTree) (settings : Settings) (store : String) :
    Task → Outcome
  | .theme action => runTheme environment settings ⟨.ofString store, files⟩ action
  | .labels timestamps now =>
    { exit := 0
      out := String.join
        (timestamps.map (labelLine environment.color (now.getD environment.now)))
      errors := "", files }
  | .span timestamp now longest =>
    match AgeSpan.render .utc timestamp (now.getD environment.now) longest with
    | .ok html => { exit := 0, out := html ++ "\n", errors := "", files }
    | .error error =>
      { exit := 1, out := ""
        errors := errorReport ("rendering span for " ++ timestamp.toAttribute) [error.message, error.cause]
        files }

def runRequest (environment : Environment) (files : FileTree) (request : Request) : Outcome :=
  match request.config with
  | none => runTask environment files {} request.store request.task
  | some path =>
    match Settings.load files path with
    | .error error => { exit := 1, out := "", errors := errorReport error.message [error.cause], files }
    | .ok settings =>
      let outcome := runTask environment files settings request.store request.task
      { outcome with errors := environment.tell [.settingsLoaded path] ++ outcome.errors }

/-- What is printed of a fault of usage. Where colours are not wanted, all terminal sequences are taken out of
the report, those in the words it quotes too. -/
def usageReport (color : Bool) (fault : CommandLine.UsageFault) : String :=
  if color then fault.report else Terminal.plainText fault.report

def runStop (environment : Environment) (files : FileTree) : CommandLine.Stop → Outcome
  | .manual page => { exit := 0, out := page.print environment.usageColor, errors := "", files }
  | .version text => { exit := 0, out := text ++ "\n", errors := "", files }
  | .silence page => { exit := 2, out := "", errors := page.print environment.usageColor, files }
  | .fault fault => { exit := 2, out := "", errors := usageReport environment.usageColor fault, files }

def run (environment : Environment) (files : FileTree) (words : List String) : Outcome :=
  match Request.ofWords words with
  | .error stop => runStop environment files stop
  | .ok request => runRequest environment files request

end PageUpkeep.Program
