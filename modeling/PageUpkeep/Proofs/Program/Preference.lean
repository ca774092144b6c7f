import PageUpkeep.Program.Desktop
import PageUpkeep.Proofs.Program.ThemeLine
import PageUpkeep.Proofs.Program.ThemeWords
import PageUpkeep.Proofs.Settings.RoundTrip
import PageUpkeep.Proofs.Store.Elsewhere
import PageUpkeep.Proofs.Theme.Agreement

/-! The program keeps a preference from one process to the next.

No process knows of another one. All that passes between them is the file of the store, which each of them
loads and may save anew; so the file has to be at any time what the preference and the entries at the start
make of it.
-/

set_option autoImplicit false

namespace PageUpkeep

/-- The entries at the start, with the last theme that was chosen put down in them, if one was. -/
def ThemeSettings.entriesFor (settings : ThemeSettings) (start : Table) (preferred : Theme)
    (chosen : Bool) : Table :=
  if chosen then (settings.edit preferred).apply start else start

theorem ThemeSettings.get?_entriesFor_chosen (settings : ThemeSettings) (start : Table) (preferred : Theme)
    (key : String) :
    (settings.entriesFor start preferred true).get? key =
      if key = settings.storageKey then preferred.written? else start.get? key := by
  rw [entriesFor, if_pos rfl, Edit.get?_apply, settings.key_edit, settings.value?_edit]

/-- A store in a file that can be written, and holds what a preference makes of the entries at the start. -/
structure FileStore.Keeps (settings : ThemeSettings) (start : Table) (store : FileStore) (preferred : Theme)
    (chosen : Bool) : Prop where
  alike : store.Simulates ⟨settings.entriesFor start preferred chosen, false⟩
  initial : chosen = false → Theme.ofEntry (start.get? settings.storageKey) = preferred

namespace FileStore.Keeps

variable {settings : ThemeSettings} {start : Table} {store : FileStore} {preferred : Theme} {chosen : Bool}

theorem ofEntry (keeps : store.Keeps settings start preferred chosen) :
    Theme.ofEntry ((settings.entriesFor start preferred chosen).get? settings.storageKey) = preferred := by
  cases chosen with
  | false => exact keeps.initial rfl
  | true => rw [settings.get?_entriesFor_chosen, if_pos rfl, Theme.ofEntry_written?]

theorem current (keeps : store.Keeps settings start preferred chosen) :
    settings.current (.file store) = preferred := by
  have read : (Store.file store).get settings.storageKey = _ := (keeps.alike.get settings.storageKey).1
  rw [settings.current_of_get read, keeps.ofEntry]

theorem apply_entriesFor (settings : ThemeSettings) (start : Table) (preferred : Theme) (chosen : Bool)
    (theme : Theme) :
    (settings.edit theme).apply (settings.entriesFor start preferred chosen) =
      settings.entriesFor start theme true := by
  cases chosen with
  | false => rfl
  | true =>
    -- Every choice is put down under the one key, and so in place of an earlier one.
    have same : (settings.edit preferred).key = (settings.edit theme).key := by
      rw [settings.key_edit, settings.key_edit]
    exact Edit.apply_apply_of_key same start

theorem choose (keeps : store.Keeps settings start preferred chosen) (theme : Theme) :
    ∃ after : FileStore, ((Store.file store).edit (settings.edit theme)).1 = .file after ∧
      after.path = store.path ∧ store.files.WritesAt store.path.destination after.files ∧
      after.Keeps settings start theme true := by
  obtain ⟨after, taken, samePath, _, still⟩ := keeps.alike.edit (settings.edit theme)
  rw [apply_entriesFor] at still
  refine ⟨after, ?_, samePath, writesAt_of_edit taken, still, nofun⟩
  rw [Store.edit, taken]
  rfl

end FileStore.Keeps

namespace Program

namespace ThemeAction

def after (preferred : Theme) : ThemeAction → Theme
  | .get => preferred
  | .set theme => theme
  | .cycle => preferred.next

def chooses : ThemeAction → Bool
  | .get => false
  | .set _ | .cycle => true

end ThemeAction

variable {settings : Settings} {start : Table} {store : FileStore} {preferred : Theme} {chosen : Bool}

theorem keeps_actedPage (keeps : store.Keeps settings.theme start preferred chosen) (action : ThemeAction) :
    ∃ after : FileStore, (actedPage settings store action).store = .file after ∧ after.path = store.path ∧
      store.files.WritesAt store.path.destination after.files ∧ (action = .get → after = store) ∧
      after.Keeps settings.theme start (action.after preferred) (chosen || action.chooses) := by
  have started := store_scriptLoad_togglePage settings store
  have stepped := Page.store_themeStep settings.theme ((togglePage settings store).scriptLoad settings)
    action.step
  rw [started] at stepped
  rw [actedPage, stepped]
  cases action with
  | get =>
    refine ⟨store, rfl, rfl, .refl _ _, fun _ => rfl, ?_⟩
    rw [ThemeAction.chooses, Bool.or_false]
    exact keeps
  | set theme =>
    obtain ⟨after, edited, samePath, writes, still⟩ := keeps.choose theme
    refine ⟨after, edited, samePath, writes, nofun, ?_⟩
    rw [ThemeAction.chooses, Bool.or_true]
    exact still
  | cycle =>
    -- The page goes on from the theme that the store remembers, which is the preference.
    obtain ⟨after, edited, samePath, writes, still⟩ := keeps.choose preferred.next
    rw [← keeps.current] at edited
    refine ⟨after, edited, samePath, writes, nofun, ?_⟩
    rw [ThemeAction.chooses, Bool.or_true]
    exact still

/-- The settings that a process works with: the standard ones, or those in the file that it is given. -/
def settingsOf (files : FileTree) : Option String → Except SettingsError Settings
  | none => .ok {}
  | some path => Settings.load files path

def storeAt (store : Option String) (files : FileTree) : FileStore :=
  ⟨.ofString (store.getD standardStore), files⟩

def storePlace (store : Option String) : Place :=
  (Path.ofString (store.getD standardStore)).destination

/-- A process that is asked for something about the theme, in words that mean what the plain ones mean. -/
structure Invocation (config store : Option String) where
  environment : Environment
  words : List String
  action : ThemeAction
  spelled : Request.ofWords words = Request.ofWords (themeWords config store action)

namespace Invocation

variable {config store : Option String}

def run (invocation : Invocation config store) (files : FileTree) : Outcome :=
  Program.run invocation.environment files invocation.words

def leave (files : FileTree) (invocations : List (Invocation config store)) : FileTree :=
  invocations.foldl (fun files invocation => (invocation.run files).files) files

def prefer (preferred : Theme) (invocations : List (Invocation config store)) : Theme :=
  invocations.foldl (fun preferred invocation => invocation.action.after preferred) preferred

end Invocation

theorem run_of_asked {environment : Environment} {files : FileTree} {words : List String}
    {config : Option String} {name : String} {task : Task}
    (asked : Request.ofWords words = .ok { config, store := name, task })
    (valid : settingsOf files config = .ok settings) :
    let outcome := runTask environment files settings name task
    (run environment files words).exit = outcome.exit ∧ (run environment files words).out = outcome.out ∧
      (run environment files words).files = outcome.files := by
  unfold run
  rw [asked]
  cases config with
  | none =>
    cases valid
    exact ⟨rfl, rfl, rfl⟩
  | some path =>
    have loaded : Settings.load files path = .ok settings := valid
    simp [runRequest, loaded]

theorem ne_empty_of_located {files : FileTree} {name : String} {place : Place}
    (located : files.locate (.ofString name) = .ok place) : name ≠ "" := by
  rintro rfl
  obtain ⟨_, named, _⟩ := (FileTree.follow_eq_ok_iff _ _).mp located
  exact absurd named (by decide)

theorem located_of_settings {files : FileTree} {path : String}
    (loaded : Settings.load files path = .ok settings) :
    files.locate (.ofString path) = .ok (Path.ofString path).destination := by
  unfold Settings.load at loaded
  split at loaded
  · cases loaded
  · rename_i source read
    obtain ⟨content, found, _⟩ := (FileTree.readText_eq_ok_iff source).mp read
    exact ((FileTree.read_eq_ok_iff content).mp found).1

theorem ne_empty_of_canBeWritten {files : FileTree} {name : String}
    (writable : (FileStore.mk (.ofString name) files).CanBeWritten) : name ≠ "" := by
  obtain ⟨grown, place, _, opens, _⟩ := FileStore.canBeWritten_iff.mp writable
  exact ne_empty_of_located opens.located

/-! ## One process after the other -/

/-- What every process finds: settings that can be read, and a file that the preference is kept in. -/
structure Standing (config store : Option String) (settings : Settings) (start : Table) (files : FileTree)
    (preferred : Theme) (chosen : Bool) : Prop where
  valid : settingsOf files config = .ok settings
  keeps : (storeAt store files).Keeps settings.theme start preferred chosen

section

variable {config store : Option String} {files : FileTree}

theorem asked_of_standing (standing : Standing config store settings start files preferred chosen)
    (invocation : Invocation config store) :
    Request.ofWords invocation.words =
      .ok { config, store := store.getD standardStore, task := .theme invocation.action } := by
  rw [invocation.spelled]
  refine ofWords_themeWords invocation.action ?_ ?_
  · rintro path rfl
    exact ne_empty_of_located (located_of_settings standing.valid)
  · rintro path rfl
    exact ne_empty_of_canBeWritten standing.keeps.alike.writable

/-- The file of the settings is another one than that of the store. -/
def IsApart (config store : Option String) : Prop :=
  ∀ path ∈ config, (Path.ofString path).destination ≠ storePlace store

theorem settingsOf_writesAt (apart : IsApart config store) {after : FileTree}
    (writes : files.WritesAt (storePlace store) after)
    (valid : settingsOf files config = .ok settings) : settingsOf after config = .ok settings := by
  cases config with
  | none => exact valid
  | some path =>
    have loaded : Settings.load files path = .ok settings := valid
    unfold Settings.load at loaded
    split at loaded
    · cases loaded
    · rename_i source read
      rw [settingsOf, Settings.load, writes.readText (apart path rfl) read]
      exact loaded

theorem Standing.step (apart : IsApart config store)
    (standing : Standing config store settings start files preferred chosen)
    (invocation : Invocation config store) :
    let outcome := invocation.run files
    let next := invocation.action.after preferred
    outcome.exit = 0 ∧ outcome.out = themeLine invocation.environment outcome.files next ∧
      (invocation.action = .get → outcome.files = files) ∧
      files.WritesAt (storePlace store) outcome.files ∧
      Standing config store settings start outcome.files next (chosen || invocation.action.chooses) := by
  intro outcome next
  obtain ⟨exit, out, left⟩ := @run_of_asked settings invocation.environment files invocation.words _ _ _
    (asked_of_standing standing invocation) standing.valid
  obtain ⟨shownExit, shownFiles, shownOut⟩ := runTheme_shows settings (storeAt store files)
    invocation.action invocation.environment
  obtain ⟨⟨path, written⟩, acted, samePath, writes, idle, keeps⟩ :=
    keeps_actedPage standing.keeps invocation.action
  cases samePath
  rw [acted] at shownFiles shownOut
  rw [keeps.current] at shownOut
  have files : outcome.files = written := left.trans shownFiles
  rw [files]
  refine ⟨exit.trans shownExit, out.trans shownOut, ?_, writes, ?_, keeps⟩
  · intro get
    exact congrArg FileStore.files (idle get)
  · exact settingsOf_writesAt apart writes standing.valid

theorem Standing.run (apart : IsApart config store)
    (standing : Standing config store settings start files preferred chosen)
    (invocations : List (Invocation config store)) :
    files.WritesAt (storePlace store) (Invocation.leave files invocations) ∧
      Standing config store settings start (Invocation.leave files invocations)
        (Invocation.prefer preferred invocations)
        (chosen || invocations.any fun invocation => invocation.action.chooses) := by
  -- Induction on the processes, with the files and the preference free: what stands is carried along.
  induction invocations generalizing files preferred chosen with
  | nil =>
    rw [List.any_nil, Bool.or_false]
    exact ⟨.refl _ _, standing⟩
  | cons invocation rest ih =>
    obtain ⟨_, _, _, writes, next⟩ := standing.step apart invocation
    obtain ⟨further, last⟩ := ih next
    rw [List.any_cons, ← Bool.or_assoc]
    exact ⟨writes.trans further, last⟩

/-! ## The mode of the system -/

end

end Program

end PageUpkeep
