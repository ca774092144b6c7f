import PageUpkeep.Program.Run
import PageUpkeep.Proofs.CommandLine.Options

/-! The command lines that ask for something about the theme.

What is to be done is told by the first words, and the files by options behind them. An option may name any file,
also one that has the look of an option.
-/

set_option autoImplicit false

namespace PageUpkeep.Program

open CommandLine

namespace ThemeAction

def command : ThemeAction → Command Draft Task
  | .get => getCommand
  | .set _ => setCommand
  | .cycle => cycleCommand

def named? : ThemeAction → Option Theme
  | .set theme => some theme
  | .get | .cycle => none

end ThemeAction

def pathWords (config store : Option String) : List String :=
  (config.map fun path => "--config=" ++ path).toList ++
    (store.map fun path => "--store=" ++ path).toList

/-- The words that ask for something about the theme, with the options at the end. -/
def themeWords (config store : Option String) (action : ThemeAction) : List String :=
  "theme" :: action.command.name :: ((action.named?.map Theme.name).toList ++ pathWords config store)

section

variable {name about : String} {operand : Option (Operand Draft)} {complete : Draft → Option Task}
  {path : List String} {scan settled : Scan Draft}

theorem give_path {switch : Switch Draft} {keep : String → Draft → Draft} {value : String}
    (takes : switch.value.take = takePath keep) (named : value ≠ "")
    (fresh : scan.given.contains switch.shown = false) :
    switch.give value scan =
      .ok { scan with draft := keep value scan.draft, given := scan.given ++ [switch.shown] } := by
  have filled : value.isEmpty = false := by simpa using named
  rw [Switch.give, fresh]
  simp [Parameter.give, takes, takePath, filled]

theorem readFrom_path (words : List String) {switch : Switch Draft} {keep : String → Draft → Draft}
    {word option value : String} (long : Word.ofString word = .long option (some value))
    (known : (Command.single name about [configSwitch, storeSwitch] operand complete).named option =
      some (.switch switch))
    (takes : switch.value.take = takePath keep) (named : value ≠ "") (unquoted : scan.plain = false)
    (settles : scan.settle = .ok settled) (fresh : settled.given.contains switch.shown = false) :
    (Command.single name about [configSwitch, storeSwitch] operand complete).readFrom {} Draft.onto path scan
        (word :: words) =
      (Command.single name about [configSwitch, storeSwitch] operand complete).readFrom {} Draft.onto path
        { settled with
          draft := keep value settled.draft
          given := settled.given ++ [switch.shown] } words := by
  rw [readFrom_single, readWord_attached long known unquoted settles (give_path takes named fresh)]

theorem long_config (value : String) :
    Word.ofString ("--config=" ++ value) = .long "config" (some value) := by
  simp [Word.ofString]

theorem long_store (value : String) :
    Word.ofString ("--store=" ++ value) = .long "store" (some value) := by
  simp [Word.ofString]

theorem readFrom_paths {config store : Option String} {task : Task} {theme : Option Theme}
    {given : List String} {full : Bool} (configNamed : ∀ path ∈ config, path ≠ "")
    (storeNamed : ∀ path ∈ store, path ≠ "") (unquoted : scan.plain = false)
    (settles : scan.settle = .ok { draft := { theme }, given, full })
    (noConfig : given.contains configSwitch.shown = false)
    (noStore : given.contains storeSwitch.shown = false)
    (done : complete { theme, config, store } = some task) :
    (Command.single name about [configSwitch, storeSwitch] operand complete).readFrom {} Draft.onto path scan
        (pathWords config store) = .ok ({ theme, config, store }, task) := by
  cases config with
  | none =>
    cases store with
    | none => exact conclude_single settles done
    | some file =>
      have named := storeNamed file rfl
      refine (readFrom_path [] (long_store file) rfl rfl named unquoted settles noStore).trans ?_
      exact conclude_single (settle_of_none rfl) done
  | some source =>
    have named := configNamed source rfl
    refine (readFrom_path _ (long_config source) rfl rfl named unquoted settles noConfig).trans ?_
    cases store with
    | none => exact conclude_single (settle_of_none rfl) done
    | some file =>
      have fresh : (given ++ [configSwitch.shown]).contains storeSwitch.shown = false := by
        rw [List.contains_append, noStore]
        decide
      let between : Scan Draft :=
        { draft := { theme, config := some source }, given := given ++ [configSwitch.shown], full }
      have idle : between.settle = .ok between := settle_of_none rfl
      refine (readFrom_path [] (long_store file) rfl rfl (storeNamed file rfl) rfl idle fresh).trans ?_
      exact conclude_single (settle_of_none rfl) done

end

variable {config store : Option String}

theorem readWord_theme (path : List String) (theme : Theme) :
    setCommand.readWord path { draft := {} } theme.name =
      .ok { draft := {}, pending := .operands themeOperand [theme.name], full := true } := by
  cases theme <;> rfl

theorem settle_theme (theme : Theme) :
    Scan.settle { draft := {}, pending := .operands themeOperand [theme.name], full := true } =
      .ok { draft := { theme := some theme }, given := [themeOperand.shown], full := true } := by
  cases theme <;> rfl

theorem readFrom_set (theme : Theme) (path : List String) (configNamed : ∀ path ∈ config, path ≠ "")
    (storeNamed : ∀ path ∈ store, path ≠ "") :
    setCommand.readFrom {} Draft.onto path { draft := {} } (theme.name :: pathWords config store) =
      .ok ({ theme := some theme, config, store }, .theme (.set theme)) := by
  have word := readWord_theme path theme
  unfold setCommand at word ⊢
  rw [readFrom_single, word]
  exact readFrom_paths configNamed storeNamed rfl (settle_theme theme) (by decide) (by decide) rfl

theorem readFrom_command (action : ThemeAction) (path : List String)
    (configNamed : ∀ path ∈ config, path ≠ "") (storeNamed : ∀ path ∈ store, path ≠ "") :
    action.command.readFrom {} Draft.onto path { draft := {} }
        ((action.named?.map Theme.name).toList ++ pathWords config store) =
      .ok ({ theme := action.named?, config, store }, .theme action) := by
  cases action with
  | get => exact readFrom_paths configNamed storeNamed rfl rfl (by decide) (by decide) rfl
  | set theme => exact readFrom_set theme path configNamed storeNamed
  | cycle => exact readFrom_paths configNamed storeNamed rfl rfl (by decide) (by decide) rfl

theorem ofWords_themeWords (action : ThemeAction) (configNamed : ∀ path ∈ config, path ≠ "")
    (storeNamed : ∀ path ∈ store, path ≠ "") :
    Request.ofWords (themeWords config store action) =
      .ok { config, store := store.getD standardStore, task := .theme action } := by
  have theme : grammar.find? "theme" = some themeCommand := by rfl
  have inner : themeCommand.find? action.command.name = some action.command := by cases action <;> rfl
  have noHelp : (action.command.name == helpName) = false := by cases action <;> rfl
  rw [Request.ofWords, themeWords, Command.read, readFrom_inner _ _ _ _ _ (by decide) theme,
    readFrom_inner _ _ _ _ _ noHelp inner, readFrom_command action _ configNamed storeNamed]
  simp [Draft.onto, Except.map]

end PageUpkeep.Program
