import PageUpkeep.Proofs.Program.ThemeLine
import PageUpkeep.Proofs.Store.Sparing
import PageUpkeep.Proofs.Theme.Agreement

/-! A store in a damaged file, through everything that is done with it.

Calls to the store fail, operations of the theme go on without it, and the program shows `auto`. None of them
touches a file, however often and in whatever order they come.
-/

set_option autoImplicit false

namespace PageUpkeep

namespace Page

variable {settings : ThemeSettings} {page : Page} {store : FileStore}

theorem store_themeStep_of_isDamaged (file : page.store = .file store) (damaged : store.IsDamaged)
    (step : ThemeStep) : (page.themeStep settings step).store = page.store := by
  cases chosen : page.chosen? settings step with
  | some theme =>
    obtain ⟨error, refused⟩ := FileStore.edit_of_isDamaged damaged (settings.edit theme)
    rw [store_themeStep_of_choice chosen, file]
    simp [Store.edit, refused]
  | none =>
    cases step with
    | switch failing =>
      rw [themeStep, file]
      rfl
    | set theme => cases chosen
    | cycle => cases chosen
    | init | updateToggle | stored | current => exact store_themeStep_of_no_choice chosen rfl

theorem storedTheme_of_isDamaged (file : page.store = .file store) (damaged : store.IsDamaged) :
    (page.storedTheme settings).2 = none := by
  obtain ⟨error, failed⟩ := FileStore.get_of_isDamaged damaged settings.storageKey
  simp [storedTheme, ThemeSettings.remembered, file, Store.get, failed]

theorem currentTheme_of_isDamaged (file : page.store = .file store) (damaged : store.IsDamaged) :
    (page.currentTheme settings).2 = .auto := by
  have unread := @storedTheme_of_isDamaged settings page store file damaged
  simp [currentTheme, Prod.map, unread]

theorem text_themeStep_of_isDamaged (file : page.store = .file store) (damaged : store.IsDamaged)
    {step : ThemeStep} (shows : step.showsToggle = true) {handle : Handle}
    (found : page.document.elementById settings.toggleId = some handle) :
    (page.themeStep settings step).document.text handle = Theme.auto.name := by
  have safe := safeStep settings page step
  have still := (@store_themeStep_of_isDamaged settings page store file damaged step).trans file
  rw [← Document.elementById_of_bare settings.toggleId safe.elsewhere.elements] at found
  rw [safe.toggle shows handle found, currentTheme_of_isDamaged still damaged]

end Page

namespace Program

theorem runTheme_of_isDamaged {store : FileStore} (damaged : store.IsDamaged) (environment : Environment)
    (settings : Settings) (action : ThemeAction) :
    (runTheme environment settings store action).exit = 0 ∧
      (runTheme environment settings store action).out = themeLine environment store.files .auto ∧
      (runTheme environment settings store action).files = store.files := by
  have started := store_scriptLoad_togglePage settings store
  have file : (actedPage settings store action).store = .file store :=
    (Page.store_themeStep_of_isDamaged started damaged action.step).trans started
  have auto : settings.theme.current (.file store) = .auto := by
    rw [← file]
    exact Page.currentTheme_of_isDamaged file damaged
  obtain ⟨exit, files, out⟩ := runTheme_shows settings store action environment
  rw [file] at files out
  rw [auto] at out
  exact ⟨exit, out, files⟩

/-- One use of the store under a name: a call to it, an operation of the theme on some page over it, or a
command line that asks the program for something about its theme. -/
inductive StoreUse (name : String) where
  | call (call : Call)
  | theme (settings : ThemeSettings) (document : Document) (step : ThemeStep)
  | command (environment : Environment) (words : List String) (config : Option String)
      (action : ThemeAction)
      (asked : Request.ofWords words = .ok { config, store := name, task := .theme action })

namespace StoreUse

variable {name : String} {files : FileTree}

def apply (files : FileTree) : StoreUse name → FileTree
  | .call made => (made.perform FileStore.get FileStore.edit ⟨.ofString name, files⟩).1.files
  | .theme settings document step =>
    let page : Page := { store := .file ⟨.ofString name, files⟩, document }
    filesOf files (page.themeStep settings step).store
  | .command environment words .. => (run environment files words).files

/-- A use that finds no theme. A call fails. An operation of the theme starts from `auto` and ends with it,
and shows it if it shows anything. A command line prints it, unless it has failed for want of settings. -/
def FindsNoTheme (files : FileTree) : StoreUse name → Prop
  | .call made =>
    ∃ error, (made.perform FileStore.get FileStore.edit ⟨.ofString name, files⟩).2 = .error error
  | .theme settings document step =>
    let page : Page := { store := .file ⟨.ofString name, files⟩, document }
    let after := page.themeStep settings step
    (page.storedTheme settings).2 = none ∧ (page.currentTheme settings).2 = .auto ∧
      (after.currentTheme settings).2 = .auto ∧
      (step.showsToggle = true → ∀ handle,
        after.document.elementById settings.toggleId = some handle →
          after.document.text handle = Theme.auto.name)
  | .command environment words config .. =>
    let outcome := run environment files words
    outcome.exit = 0 ∧ outcome.out = themeLine environment files .auto ∨
      outcome.exit = 1 ∧ outcome.out = "" ∧
        ∃ path error, config = some path ∧ Settings.load files path = .error error

theorem apply_call_of_isDamaged (damaged : (FileStore.mk (.ofString name) files).IsDamaged)
    (made : Call) :
    (call made : StoreUse name).apply files = files ∧ (call made : StoreUse name).FindsNoTheme files := by
  cases made with
  | get key =>
    obtain ⟨error, failed⟩ := FileStore.get_of_isDamaged damaged key
    exact ⟨rfl, error, by simp [Call.perform, failed, Except.map]⟩
  | change edit =>
    obtain ⟨error, failed⟩ := FileStore.edit_of_isDamaged damaged edit
    exact ⟨by simp [apply, Call.perform, failed], error, by simp [Call.perform, failed, Except.map]⟩

theorem apply_theme_of_isDamaged (damaged : (FileStore.mk (.ofString name) files).IsDamaged)
    (settings : ThemeSettings) (document : Document) (step : ThemeStep) :
    (theme settings document step : StoreUse name).apply files = files ∧
      (theme settings document step : StoreUse name).FindsNoTheme files := by
  have file : ({ store := .file ⟨.ofString name, files⟩, document } : Page).store =
      .file ⟨.ofString name, files⟩ := rfl
  have still := @Page.store_themeStep_of_isDamaged settings _ _ file damaged step
  refine ⟨?_, Page.storedTheme_of_isDamaged file damaged, Page.currentTheme_of_isDamaged file damaged,
    Page.currentTheme_of_isDamaged (still.trans file) damaged, ?_⟩
  · rw [apply, still]
    rfl
  · intro shows handle found
    have safe := Page.safeStep settings { store := .file ⟨.ofString name, files⟩, document } step
    rw [Document.elementById_of_bare settings.toggleId safe.elsewhere.elements] at found
    exact Page.text_themeStep_of_isDamaged file damaged shows found

theorem apply_command_of_isDamaged (damaged : (FileStore.mk (.ofString name) files).IsDamaged)
    (environment : Environment) {words : List String} {config : Option String} {action : ThemeAction}
    (asked : Request.ofWords words = .ok { config, store := name, task := .theme action }) :
    (command environment words config action asked).apply files = files ∧
      (command environment words config action asked).FindsNoTheme files := by
  simp only [apply, FindsNoTheme, run, asked, runRequest]
  cases config with
  | none =>
    obtain ⟨exit, out, same⟩ := runTheme_of_isDamaged damaged environment {} action
    exact ⟨same, .inl ⟨exit, out⟩⟩
  | some path =>
    dsimp only
    cases loaded : Settings.load files path with
    | error error => exact ⟨rfl, .inr ⟨rfl, rfl, path, error, rfl, loaded⟩⟩
    | ok settings =>
      obtain ⟨exit, out, same⟩ := runTheme_of_isDamaged damaged environment settings action
      exact ⟨same, .inl ⟨exit, out⟩⟩

theorem apply_of_isDamaged (damaged : (FileStore.mk (.ofString name) files).IsDamaged)
    (use : StoreUse name) : use.apply files = files ∧ use.FindsNoTheme files := by
  cases use with
  | call made => exact apply_call_of_isDamaged damaged made
  | theme settings document step => exact apply_theme_of_isDamaged damaged settings document step
  | command environment words config action asked =>
    exact apply_command_of_isDamaged damaged environment asked

theorem foldl_apply_of_isDamaged (damaged : (FileStore.mk (.ofString name) files).IsDamaged)
    (uses : List (StoreUse name)) : uses.foldl apply files = files := by
  induction uses with
  | nil => rfl
  | cons use rest ih => rw [List.foldl_cons, (apply_of_isDamaged damaged use).1, ih]

end StoreUse

/-- No call to a store in a file does harm: each leaves alone what it is not to write. And a damaged file is
never written at all, through whatever run of calls, operations of the theme and command lines, none of which
finds a theme in it. -/
theorem store_file_spared (name : String) (files : FileTree) :
    (∀ call : Call,
      FileStore.SparingCall ⟨.ofString name, files⟩ call
        (call.perform FileStore.get FileStore.edit ⟨.ofString name, files⟩).1
        (call.perform FileStore.get FileStore.edit ⟨.ofString name, files⟩).2) ∧
      ((FileStore.mk (.ofString name) files).IsDamaged →
        ∀ (uses : List (StoreUse name)) (use : StoreUse name),
          uses.foldl StoreUse.apply files = files ∧
            use.FindsNoTheme (uses.foldl StoreUse.apply files)) := by
  refine ⟨FileStore.sparingCall _, ?_⟩
  intro damaged uses use
  have same := StoreUse.foldl_apply_of_isDamaged damaged uses
  refine ⟨same, ?_⟩
  rw [same]
  exact (StoreUse.apply_of_isDamaged damaged use).2

theorem store_file_spared_of_array :
    let files := FileTree.empty.put ⟨.above 0, ["s"]⟩ (.file "[1]".toUTF8)
    (FileStore.mk (.ofString "s") files).IsDamaged ∧
      ∀ (environment : Environment) (use : StoreUse "s"),
        let uses : List (StoreUse "s") :=
          [.call (.change (.set "k" "v")), .theme {} Document.empty .cycle,
            .command environment ["theme", "--store", "s", "set", "dark"] none (.set .dark) rfl]
        uses.foldl StoreUse.apply files = files ∧ use.FindsNoTheme files := by
  intro files
  have located : files.locate (.ofString "s") ≠ .error .notFound := nofun
  have foreign : FileStore.IsForeign "[1]".toUTF8 :=
    FileStore.isForeign_of_braceless ⟨'[', by decide, by decide⟩ (by decide)
  have damaged : (FileStore.mk (.ofString "s") files).IsDamaged := ⟨located, _, rfl, foreign⟩
  refine ⟨damaged, ?_⟩
  intro environment use uses
  obtain ⟨same, finds⟩ := (store_file_spared "s" files).2 damaged uses use
  rw [same] at finds
  exact ⟨same, finds⟩

/-- A set that fails may empty the file, where the disk is full. And one that succeeds may replace a file that is no
table, where the path leads through a directory that is missing at first, so that the file is not found. -/
theorem store_file_lost_on_full_disk_or_detour :
    let place : Place := ⟨.above 0, ["s"]⟩
    let full : FileStore :=
      ⟨.ofString "s", { nodes := [(place, .file "\x7b\"k\":\"v\"\x7d".toUTF8)]
                        restrictions := [(place, .narrow 0 .noSpace)] }⟩
    let hidden : FileStore := ⟨.ofString "a/../s", { nodes := [(place, .file "[1]".toUTF8)] }⟩
    (full.stored? "k" = some "v" ∧ (∃ error, (full.edit (.set "l" "w")).2 = .error error) ∧
        (full.edit (.set "l" "w")).1.files.find? place = some (.file .empty)) ∧
      FileStore.IsForeign "[1]".toUTF8 ∧ (hidden.edit (.set "l" "w")).2 = .ok () ∧
        (hidden.edit (.set "l" "w")).1.files.find? place ≠ some (.file "[1]".toUTF8) := by
  intro place full hidden
  have foreign : FileStore.IsForeign "[1]".toUTF8 :=
    FileStore.isForeign_of_braceless ⟨'[', by decide, by decide⟩ (by decide)
  have failed : (full.edit (.set "l" "w")).2.toOption = none := by decide +kernel
  have success : (hidden.edit (.set "l" "w")).2.toOption = some () := by decide +kernel
  refine ⟨⟨by decide +kernel, ?_, by decide +kernel⟩, foreign, ?_, by decide +kernel⟩
  · cases answer : (full.edit (.set "l" "w")).2 with
    | error error => exact ⟨error, rfl⟩
    | ok done => simp [answer, Except.toOption] at failed
  · cases answer : (hidden.edit (.set "l" "w")).2 with
    | error error => simp [answer, Except.toOption] at success
    | ok done => rfl

end Program

end PageUpkeep
