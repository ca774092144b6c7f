import PageUpkeep.Proofs.Store.Refinement
import PageUpkeep.Proofs.Theme.Safety

/-! Store, root, toggle and current theme in step.

Before anything is chosen the four may say different things. The first choice that the store takes brings
them together, and no later step takes them apart as long as the store takes what is chosen. A choice by
cycling starts from the entry of the store, and goes round from `auto` to light to dark.
-/

set_option autoImplicit false

namespace PageUpkeep

namespace Theme

theorem name_of_ofName {name : String} {theme : Theme} (named : ofName name = .ok theme) :
    theme.name = name := by
  unfold ofName at named
  split at named
  · rename_i found
    cases named
    simpa using List.find?_some found
  · cases named

/-- The theme that an entry of a store stands for: light and dark under their names, and `auto` under any
other text, its own name included, and under none. -/
def ofEntry : Option String → Theme
  | some "light" => .light
  | some "dark" => .dark
  | _ => .auto

theorem ofEntry_some (name : String) :
    ofEntry (some name) = (ofName name).toOption.getD .auto := by
  unfold ofEntry
  split
  · rename_i same
    cases same
    rfl
  · rename_i same
    cases same
    rfl
  · rename_i notLight notDark
    -- What is left is either no name of a theme, or that of `auto`.
    cases named : ofName name with
    | error unknown => rfl
    | ok theme =>
      have spelt := name_of_ofName named
      cases theme with
      | auto => rfl
      | light => exact absurd (congrArg some spelt.symm) notLight
      | dark => exact absurd (congrArg some spelt.symm) notDark

theorem ofEntry_written? (theme : Theme) : ofEntry theme.written? = theme := by
  cases theme <;> rfl

theorem idxOf_next (theme : Theme) :
    order.idxOf theme.next = (order.idxOf theme + 1) % order.length := by
  cases theme <;> rfl

end Theme

def ThemeStep.chooses : ThemeStep → Bool
  | .set _ | .cycle => true
  | .init | .updateToggle | .stored | .current | .switch _ => false

def ThemeStep.throwsSwitch : ThemeStep → Bool
  | .switch _ => true
  | .set _ | .cycle | .init | .updateToggle | .stored | .current => false

namespace Store

variable {store after : Store} {edit : Edit}

/-- Every store but one in memory that is switched off tells all that it holds, though it may refuse. -/
def IsAwake : Store → Prop
  | .memory store => store.failing = false
  | .unavailable | .file _ => True

theorem isAwake_edit (awake : store.IsAwake) (edit : Edit) : (store.edit edit).1.IsAwake := by
  cases store with
  | memory store =>
    have healthy : store.failing = false := awake
    simp [Store.edit, MemoryStore.edit, healthy, IsAwake]
  | unavailable => trivial
  | file store => trivial

theorem get_of_isAwake (awake : store.IsAwake) (key : String) :
    store.get key = .ok (store.stored? key) ∨
      store.stored? key = none ∧ ∃ error, store.get key = .error error := by
  cases store with
  | memory store =>
    have healthy : store.failing = false := awake
    exact .inl (by simp [get, MemoryStore.get, healthy, stored?])
  | unavailable => exact .inr ⟨rfl, _, rfl⟩
  | file store =>
    cases loaded : store.load with
    | ok table =>
      exact .inl (by simp [get, FileStore.get, stored?, FileStore.stored?, loaded, Except.map])
    | error error =>
      exact .inr ⟨by simp [stored?, FileStore.stored?, loaded], error,
        by simp [get, FileStore.get, loaded, Except.map]⟩

theorem get_of_edit (success : store.edit edit = (after, .ok ())) (key : String) :
    after.get key = .ok (after.stored? key) := by
  cases store with
  | memory store =>
    simp only [Store.edit, MemoryStore.edit] at success
    split at success
    · cases success
    · rename_i healthy
      cases success
      simp [get, MemoryStore.get, healthy, stored?]
  | unavailable => cases success
  | file store =>
    cases changed : store.edit edit with
    | mk next answer =>
      simp only [Store.edit, changed, Prod.map, id, Prod.mk.injEq] at success
      obtain ⟨rfl, rfl⟩ := success
      obtain ⟨table, _, loaded⟩ := FileStore.load_of_edit changed
      simp [get, FileStore.get, stored?, FileStore.stored?, loaded, Except.map]

end Store

namespace ThemeSettings

variable (settings : ThemeSettings) {store : Store}

theorem current_of_error {error : StoreError} (failed : store.get settings.storageKey = .error error) :
    settings.current store = .auto := by
  simp [current, remembered, failed]

theorem current_of_get {entry : Option String} (read : store.get settings.storageKey = .ok entry) :
    settings.current store = .ofEntry entry := by
  cases entry with
  | none => simp [current, remembered, read, Theme.ofEntry]
  | some name =>
    rw [Theme.ofEntry_some]
    simp only [current, remembered, read]
    cases Theme.ofName name with
    | error unknown => rfl
    | ok theme => cases theme <;> rfl

theorem current_of_isAwake (awake : store.IsAwake) :
    settings.current store = .ofEntry (store.stored? settings.storageKey) := by
  rcases Store.get_of_isAwake awake settings.storageKey with read | ⟨empty, error, failed⟩
  · exact settings.current_of_get read
  · rw [settings.current_of_error failed, empty]
    rfl

end ThemeSettings

namespace Page

variable {settings : ThemeSettings} {page : Page} {theme : Theme}

/-- Store, root, toggle and current theme all say the same theme. -/
structure Agrees (settings : ThemeSettings) (page : Page) (theme : Theme) : Prop where
  store : page.store.get settings.storageKey = .ok theme.written?
  root : page.document.rootAttribute settings.rootAttribute = theme.written?
  current : (page.currentTheme settings).2 = theme
  toggle : ∀ handle, page.document.elementById settings.toggleId = some handle →
    page.document.text handle = theme.name

def TakesChoices (settings : ThemeSettings) (page : Page) : List ThemeStep → Prop
  | [] => True
  | step :: rest =>
    (∀ theme, page.chosen? settings step = some theme →
      (page.store.edit (settings.edit theme)).2 = .ok ()) ∧
    TakesChoices settings (page.themeStep settings step) rest

theorem currentTheme_of_get (read : page.store.get settings.storageKey = .ok theme.written?) :
    (page.currentTheme settings).2 = theme := by
  rw [currentTheme_snd, settings.current_of_get read, Theme.ofEntry_written?]

theorem exists_choice {step : ThemeStep} (chooses : step.chooses = true) :
    ∃ theme, page.chosen? settings step = some theme := by
  cases step with
  | set theme => exact ⟨theme, rfl⟩
  | cycle => exact ⟨_, rfl⟩
  | init | updateToggle | stored | current | switch failing => cases chooses

theorem store_themeStep_of_choice {step : ThemeStep} (chosen : page.chosen? settings step = some theme) :
    (page.themeStep settings step).store = (page.store.edit (settings.edit theme)).1 := by
  cases step with
  | set chosenTheme =>
    cases chosen
    exact page.store_setTheme settings theme
  | cycle =>
    cases chosen
    exact (page.currentTheme settings).1.store_setTheme settings _
  | init | updateToggle | stored | current | switch failing => cases chosen

theorem store_themeStep_of_no_choice {step : ThemeStep} (none : page.chosen? settings step = none)
    (unswitched : step.throwsSwitch = false) :
    (page.themeStep settings step).store = page.store := by
  cases step with
  | set theme => cases none
  | cycle => cases none
  | init => exact page.store_initTheme settings
  | updateToggle => exact page.store_updateToggle settings
  | stored => rfl
  | current => rfl
  | switch failing => cases unswitched

theorem showsToggle_of_choice {step : ThemeStep} (chosen : page.chosen? settings step = some theme) :
    step.showsToggle = true := by
  cases step with
  | set theme => rfl
  | cycle => rfl
  | init | updateToggle | stored | current | switch failing => cases chosen

theorem agrees_of_choice {step : ThemeStep} (chosen : page.chosen? settings step = some theme)
    (taken : (page.store.edit (settings.edit theme)).2 = .ok ()) :
    Agrees settings (page.themeStep settings step) theme := by
  have safe := safeStep settings page step
  have read : (page.themeStep settings step).store.get settings.storageKey = .ok theme.written? := by
    rw [← safe.taken theme chosen taken, store_themeStep_of_choice chosen]
    exact Store.get_of_edit (Prod.ext rfl taken) _
  have current := currentTheme_of_get read
  refine ⟨read, safe.root theme chosen, current, ?_⟩
  intro handle found
  rw [safe.toggle (showsToggle_of_choice chosen) handle found, current]

theorem agrees_of_elements (agrees : Agrees settings page theme) {after : Page}
    (store : after.store = page.store)
    (root : after.document.rootAttribute settings.rootAttribute = theme.written?)
    (elements : after.document.elements = page.document.elements) : Agrees settings after theme where
  store := store ▸ agrees.store
  root := root
  current := currentTheme_of_get (store ▸ agrees.store)
  toggle := by
    unfold Document.elementById Document.text Document.element?
    rw [elements]
    exact agrees.toggle

theorem agrees_initTheme (agrees : Agrees settings page theme) :
    Agrees settings (page.initTheme settings) theme := by
  have store := page.store_initTheme settings
  have document := page.document_initTheme settings
  have remembers : (settings.remembered page.store).1.getD .auto = theme := agrees.current
  cases remembered : (settings.remembered page.store).1 with
  | none =>
    simp only [remembered] at document
    exact agrees_of_elements agrees store (document ▸ agrees.root) (document ▸ rfl)
  | some other =>
    -- The root is marked with what it shows already.
    simp only [remembered] at document remembers
    obtain rfl : other = theme := remembers
    refine agrees_of_elements agrees store ?_ ?_
    · rw [document, settings.rootAttribute_mark, if_pos rfl]
    · rw [document, settings.elements_mark]

theorem agrees_updateToggle_of_root (store : page.store.get settings.storageKey = .ok theme.written?)
    (root : page.document.rootAttribute settings.rootAttribute = theme.written?) :
    Agrees settings (page.updateToggle settings) theme := by
  have read : (page.updateToggle settings).store.get settings.storageKey = .ok theme.written? := by
    rw [store_updateToggle]
    exact store
  have current := currentTheme_of_get read
  refine ⟨read, ?_, current, ?_⟩
  · rw [← root, document_updateToggle]
    split
    · rfl
    · rfl
  · intro handle found
    rw [text_updateToggle found, current]

theorem agrees_updateToggle (agrees : Agrees settings page theme) :
    Agrees settings (page.updateToggle settings) theme :=
  agrees_updateToggle_of_root agrees.store agrees.root

theorem agrees_of_no_choice (agrees : Agrees settings page theme) {step : ThemeStep}
    (none : page.chosen? settings step = none) (unswitched : step.throwsSwitch = false) :
    Agrees settings (page.themeStep settings step) theme := by
  cases step with
  | set theme => cases none
  | cycle => cases none
  | init => exact agrees_initTheme agrees
  | updateToggle => exact agrees_updateToggle agrees
  | stored => exact agrees_of_elements agrees rfl agrees.root rfl
  | current => exact agrees_of_elements agrees rfl agrees.root rfl
  | switch failing => cases unswitched

/-! ## Runs -/

theorem takesChoices_append (before after : List ThemeStep) :
    TakesChoices settings page (before ++ after) ↔
      TakesChoices settings page before ∧ TakesChoices settings (page.themeRun settings before) after := by
  induction before generalizing page with
  | nil => simp [TakesChoices, themeRun]
  | cons step rest ih =>
    have further := @ih (page.themeStep settings step)
    simp only [List.cons_append, TakesChoices, further, and_assoc]
    rfl

theorem agrees_run (agrees : Agrees settings page theme) {steps : List ThemeStep}
    (taken : TakesChoices settings page steps) (unswitched : ∀ step ∈ steps, step.throwsSwitch = false) :
    ∃ last, Agrees settings (page.themeRun settings steps) last := by
  induction steps generalizing page theme with
  | nil => exact ⟨theme, agrees⟩
  | cons step rest ih =>
    obtain ⟨unmoved, further⟩ := List.forall_mem_cons.mp unswitched
    cases chosen : page.chosen? settings step with
    | some next => exact ih (agrees_of_choice chosen (taken.1 next chosen)) taken.2 further
    | none => exact ih (agrees_of_no_choice agrees chosen unmoved) taken.2 further

/-- From the first choice on all four say the same. -/
theorem agrees_of_first_choice {steps : List ThemeStep} (taken : TakesChoices settings page steps)
    (unswitched : ∀ step ∈ steps, step.throwsSwitch = false)
    (chose : ∃ step ∈ steps, step.chooses = true) :
    ∃ theme, Agrees settings (page.themeRun settings steps) theme := by
  induction steps generalizing page with
  | nil =>
    obtain ⟨step, member, _⟩ := chose
    cases member
  | cons step rest ih =>
    obtain ⟨unmoved, further⟩ := List.forall_mem_cons.mp unswitched
    cases chooses : step.chooses with
    | true =>
      obtain ⟨theme, chosen⟩ := @exists_choice settings page step chooses
      exact agrees_run (agrees_of_choice chosen (taken.1 theme chosen)) taken.2 further
    | false =>
      obtain ⟨other, member, chooser⟩ := chose
      have later : other ∈ rest := by
        rcases List.mem_cons.mp member with rfl | later
        · rw [chooses] at chooser
          cases chooser
        · exact later
      exact ih taken.2 further ⟨other, later, chooser⟩

theorem isAwake_run (awake : page.store.IsAwake) {steps : List ThemeStep}
    (unswitched : ∀ step ∈ steps, step.throwsSwitch = false) :
    (page.themeRun settings steps).store.IsAwake := by
  induction steps generalizing page with
  | nil => exact awake
  | cons step rest ih =>
    obtain ⟨unmoved, further⟩ := List.forall_mem_cons.mp unswitched
    have still : (page.themeStep settings step).store.IsAwake := by
      cases chosen : page.chosen? settings step with
      | some theme =>
        rw [store_themeStep_of_choice chosen]
        exact Store.isAwake_edit awake _
      | none =>
        rw [store_themeStep_of_no_choice chosen unmoved]
        exact awake
    exact ih still further

theorem takesChoices_of_invariant {Takes : Store → Prop}
    (takes : ∀ store edit, Takes store → ∃ after, store.edit edit = (after, .ok ()) ∧ Takes after)
    {steps : List ThemeStep} (unswitched : ∀ step ∈ steps, step.throwsSwitch = false)
    (start : Takes page.store) : TakesChoices settings page steps := by
  induction steps generalizing page with
  | nil => trivial
  | cons step rest ih =>
    obtain ⟨unmoved, further⟩ := List.forall_mem_cons.mp unswitched
    cases chosen : page.chosen? settings step with
    | some theme =>
      -- The step goes on with the store that took its choice.
      obtain ⟨after, taken, still⟩ := takes _ (settings.edit theme) start
      refine ⟨?_, ih further ?_⟩
      · intro other same
        cases chosen.symm.trans same
        rw [taken]
      · rw [store_themeStep_of_choice chosen, taken]
        exact still
    | none =>
      refine ⟨?_, ih further ?_⟩
      · intro other same
        rw [chosen] at same
        cases same
      · rw [store_themeStep_of_no_choice chosen unmoved]
        exact start

theorem takesChoices_of_memory {store : MemoryStore} (healthy : store.failing = false)
    (memory : page.store = .memory store) {steps : List ThemeStep}
    (unswitched : ∀ step ∈ steps, step.throwsSwitch = false) : TakesChoices settings page steps := by
  refine @takesChoices_of_invariant settings page
    (fun store => ∃ inner : MemoryStore, store = .memory inner ∧ inner.failing = false)
    ?_ steps unswitched ⟨store, memory, healthy⟩
  rintro _ edit ⟨inner, rfl, healthy⟩
  exact ⟨.memory { inner with entries := edit.apply inner.entries },
    by simp [Store.edit, MemoryStore.edit, healthy], _, rfl, healthy⟩

theorem takesChoices_of_file {store : FileStore} {table : Table} (loaded : store.load = .ok table)
    (writable : store.CanBeWritten) (file : page.store = .file store) {steps : List ThemeStep}
    (unswitched : ∀ step ∈ steps, step.throwsSwitch = false) : TakesChoices settings page steps := by
  refine @takesChoices_of_invariant settings page
    (fun store => ∃ inner memory, store = .file inner ∧ inner.Simulates memory)
    ?_ steps unswitched ⟨store, ⟨table, false⟩, file, loaded, rfl, writable⟩
  rintro _ edit ⟨inner, memory, rfl, alike⟩
  obtain ⟨after, taken, _, _, still⟩ := alike.edit edit
  exact ⟨.file after, by simp [Store.edit, taken], after, _, rfl, still⟩

/-- A store that fails no call of a run: one in memory that is switched on, or one in a file that takes all
that the run chooses. What is asked of a file is no more than that; whoever takes an edit tells it too. -/
def IsServed (settings : ThemeSettings) (page : Page) (steps : List ThemeStep) : Prop :=
  match page.store with
  | .memory store => store.failing = false
  | .unavailable => False
  | .file _ => TakesChoices settings page steps

theorem takesChoices_of_isServed {steps : List ThemeStep} (served : IsServed settings page steps)
    (unswitched : ∀ step ∈ steps, step.throwsSwitch = false) : TakesChoices settings page steps := by
  unfold IsServed at served
  split at served
  · rename_i store memory
    exact takesChoices_of_memory served memory unswitched
  · cases served
  · exact served

theorem isAwake_of_isServed {steps : List ThemeStep} (served : IsServed settings page steps) :
    page.store.IsAwake := by
  unfold IsServed at served
  split at served
  · rename_i store memory
    rw [memory]
    exact served
  · cases served
  · rename_i store file
    rw [file]
    trivial

theorem idxOf_currentTheme_cycles {count : Nat}
    (taken : TakesChoices settings page (List.replicate count .cycle)) :
    Theme.order.idxOf ((page.themeRun settings (List.replicate count .cycle)).currentTheme settings).2 =
      (Theme.order.idxOf (page.currentTheme settings).2 + count) % Theme.order.length := by
  induction count generalizing page with
  | zero =>
    have inside : Theme.order.idxOf (page.currentTheme settings).2 < Theme.order.length := by
      cases (page.currentTheme settings).2 <;> decide
    exact (Nat.mod_eq_of_lt inside).symm
  | succ count ih =>
    have chosen : page.chosen? settings .cycle = some (page.currentTheme settings).2.next := rfl
    have agrees := agrees_of_choice chosen (taken.1 _ chosen)
    have further := ih taken.2
    rw [agrees.current, Theme.idxOf_next] at further
    rw [List.replicate_succ, themeRun, List.foldl_cons, ← themeRun, further, Nat.mod_add_mod]
    congr 1
    omega

/-- On a store that fails no call, store, root, toggle and current theme say the same after every step from
the first choice on. The current theme is at any time what the entry of the store stands for, and however
many cycles follow one upon the other, each chooses the theme that is one place further on. -/
theorem theme_agrees_and_cycles (settings : ThemeSettings) (page : Page) (steps : List ThemeStep)
    (served : IsServed settings page steps)
    (unswitched : ∀ step ∈ steps, step.throwsSwitch = false) (before : List ThemeStep)
    (reached : before <+: steps) :
    let now := page.themeRun settings before
    ((∃ step ∈ before, step.chooses = true) → ∃ theme, Agrees settings now theme) ∧
      (now.currentTheme settings).2 = .ofEntry (now.store.stored? settings.storageKey) ∧
      ∀ count, before ++ List.replicate count .cycle <+: steps →
        Theme.order[(Theme.order.idxOf (now.currentTheme settings).2 + count + 1) % 3]? =
          some ((now.themeRun settings (List.replicate count .cycle)).cycleTheme settings).2 := by
  -- What the whole run is granted its front is granted too.
  have taken := takesChoices_of_isServed served unswitched
  obtain ⟨after, rfl⟩ := reached
  have here := (takesChoices_append before after).mp taken
  have still : ∀ step ∈ before, step.throwsSwitch = false :=
    fun step member => unswitched step (List.mem_append_left after member)
  refine ⟨agrees_of_first_choice here.1 still, ?_, ?_⟩
  · exact settings.current_of_isAwake (isAwake_run (isAwake_of_isServed served) still)
  · intro count cycles
    obtain ⟨rest, split⟩ := cycles
    rw [← split] at taken
    have both := ((takesChoices_append _ rest).mp taken).1
    have cycled := idxOf_currentTheme_cycles ((takesChoices_append before _).mp both).2
    have next := Theme.order_get?_next
      (((page.themeRun settings before).themeRun settings (List.replicate count .cycle)).currentTheme
        settings).2
    rw [cycled, Nat.mod_add_mod] at next
    exact next

/-- Store, root and toggle say three different things at first. After two cycles, of which the first starts
from an entry that stands for `auto`, they all say dark; and a file that is yet to be written serves as well. -/
theorem theme_agrees_from_disorder :
    let document : Document :=
      { root := Table.ofList [("data-theme", "sepia")]
        elements := [{ id := some "theme-toggle", text := "light" }] }
    let inMemory : Page := { store := .memory (.ofEntries [("cgit-theme", "solarized")]), document }
    let inFile : Page := { store := .file ⟨⟨"s", []⟩, .empty⟩, document }
    let steps : List ThemeStep := [.init, .cycle, .updateToggle, .cycle]
    IsServed {} inMemory steps ∧ IsServed {} inFile steps ∧
      (∀ step ∈ steps, step.throwsSwitch = false) ∧
      Agrees {} (inMemory.themeRun {} steps) .dark ∧
      ∃ theme, Agrees {} (inFile.themeRun {} steps) theme := by
  intro document inMemory inFile steps
  have unswitched : ∀ step ∈ steps, step.throwsSwitch = false := by decide
  have served : IsServed {} inMemory steps := rfl
  have located : FileTree.empty.locate ⟨"s", []⟩ = .ok ⟨.above 0, ["s"]⟩ := by rfl
  have free : FileTree.empty.Writable ⟨"s", []⟩ ⟨.above 0, ["s"]⟩ := ⟨rfl, located, nofun, rfl⟩
  have missing : (FileStore.mk ⟨"s", []⟩ .empty).load = .ok .empty := FileStore.load_of_missing rfl
  have writable : (FileStore.mk ⟨"s", []⟩ .empty).CanBeWritten :=
    FileStore.canBeWritten_of_writable free rfl
  have filed : IsServed {} inFile steps := takesChoices_of_file missing writable rfl unswitched
  have chose : ∃ step ∈ steps, step.chooses = true := ⟨.cycle, by decide, rfl⟩
  refine ⟨served, filed, unswitched, ?_, ?_⟩
  · obtain ⟨theme, agrees⟩ :=
      (theme_agrees_and_cycles {} inMemory steps served unswitched steps List.prefix_rfl).1 chose
    have dark : ((inMemory.themeRun {} steps).currentTheme {}).2 = .dark := by decide
    rw [agrees.current] at dark
    exact dark ▸ agrees
  · exact (theme_agrees_and_cycles {} inFile steps filed unswitched steps List.prefix_rfl).1 chose

end Page

end PageUpkeep
