import PageUpkeep.Proofs.Page.Independence
import PageUpkeep.Proofs.Theme.Agreement

/-! A preference survives a reload.

What one page leaves in its store is all that the next page has of it. The next page is marked before its
elements are there, its toggle is set when they are, and no sweep takes either from it.
-/

set_option autoImplicit false

namespace PageUpkeep

theorem ThemeSettings.remembered_of_written (settings : ThemeSettings) {store : Store} {theme : Theme}
    (read : store.get settings.storageKey = .ok theme.written?) :
    (settings.remembered store).1 = if theme.isPersisted then some theme else none := by
  cases theme <;> simp [remembered, read, Theme.written?, Theme.isPersisted]

theorem Sweep.text_run_of_plain (settings : AgeSettings) (now : Timestamp) {document : Document}
    {handle : Handle}
    (plain : ∀ element, document.element? handle = some element → element.isAged = false) :
    (run settings now document).document.text handle = document.text handle := by
  unfold Document.text
  rw [element?_run]
  cases found : document.element? handle with
  | none => rfl
  | some element => rw [Option.map_some, settings.refresh_of_outside now (plain element found)]

namespace Page

variable {settings : Settings} {page after : Page} {theme : Theme}

theorem agrees_of_visible (same : after.visible = page.visible) (agrees : Agrees settings.theme page theme) :
    Agrees settings.theme after theme := by
  obtain ⟨store, document⟩ := Prod.mk.inj same
  exact agrees_of_elements agrees store (document ▸ agrees.root) (congrArg Document.elements document)

theorem document_scriptLoad (read : page.store.get settings.theme.storageKey = .ok theme.written?)
    (bare : page.document.root = .empty) :
    (page.scriptLoad settings).document.rootAttribute settings.theme.rootAttribute = theme.written? ∧
      (page.scriptLoad settings).document.elements = page.document.elements ∧
      (page.scriptLoad settings).document.textWrites = page.document.textWrites ∧
      (page.scriptLoad settings).document.classWrites = page.document.classWrites := by
  have remembers := settings.theme.remembered_of_written read
  have initial := page.document_initTheme settings.theme
  rw [remembers] at initial
  rw [scriptLoad, initial]
  cases theme with
  | auto =>
    refine ⟨?_, rfl, rfl, rfl⟩
    show page.document.root.get? settings.theme.rootAttribute = none
    rw [bare, Table.get?_empty]
  | light | dark =>
    refine ⟨?_, rfl, rfl, rfl⟩
    exact (settings.theme.rootAttribute_mark _ page.document _).trans (if_pos rfl)

theorem visible_domReady (now : Timestamp) :
    (page.domReady settings now).1.visible =
      ((sweeps settings.age).next (page.updateToggle settings.theme) now).visible := by
  simp only [domReady, sweeps, visible, report]

theorem agrees_sweep (agrees : Agrees settings.theme page theme)
    (plain : page.document.ToggleIsPlain settings.theme) (now : Timestamp) :
    Agrees settings.theme ((sweeps settings.age).next page now) theme := by
  have store := store_sweeps settings.age page now
  have document := document_sweeps settings.age page now
  have read : ((sweeps settings.age).next page now).store.get settings.theme.storageKey =
      .ok theme.written? := by
    rw [store]
    exact agrees.store
  refine ⟨read, ?_, currentTheme_of_get read, ?_⟩
  · rw [document, Document.rootAttribute, Sweep.root_run]
    exact agrees.root
  · intro handle found
    rw [document, Sweep.elementById_run] at found
    rw [document, Sweep.text_run_of_plain settings.age now fun element => plain handle element found]
    exact agrees.toggle handle found

theorem agrees_sweeps (agrees : Agrees settings.theme page theme)
    (plain : page.document.ToggleIsPlain settings.theme) (times : List Timestamp) :
    Agrees settings.theme ((sweeps settings.age).run page times) theme := by
  induction times generalizing page with
  | nil => exact agrees
  | cons now rest ih =>
    rw [Party.run, List.foldl_cons]
    exact ih (agrees_sweep agrees plain now) (toggleIsPlain_sweep plain now)

/-- After a run that chose a theme, whatever it chose last, a page on the same store starts out marked with that
theme and with nothing written; and from the time that its elements are there its toggle says it too, through
all sweeps. The store fails no call of the run, and of the next page's document only the toggle matters. -/
theorem preference_survives_reload (settings : Settings) (first : Page) (steps : List ThemeStep)
    (served : IsServed settings.theme first steps)
    (unswitched : ∀ step ∈ steps, step.throwsSwitch = false)
    (chose : ∃ step ∈ steps, step.chooses = true) (fresh : Document) (bare : fresh.root = .empty)
    (plain : fresh.ToggleIsPlain settings.theme) (now : Timestamp) (later : List Timestamp) :
    let left := first.themeRun settings.theme steps
    let loaded := ({ store := left.store, document := fresh } : Page).scriptLoad settings
    let last := (sweeps settings.age).run (loaded.domReady settings now).1 later
    let name := settings.theme.rootAttribute
    loaded.document.rootAttribute name = left.document.rootAttribute name ∧
      loaded.document.elements = fresh.elements ∧ loaded.document.textWrites = fresh.textWrites ∧
      loaded.document.classWrites = fresh.classWrites ∧
      last.document.rootAttribute name = left.document.rootAttribute name ∧
      ∀ handle, last.document.elementById settings.theme.toggleId = some handle →
        last.document.text handle = (left.currentTheme settings.theme).2.name := by
  intro left loaded last name
  have taken := takesChoices_of_isServed served unswitched
  obtain ⟨theme, agrees⟩ := agrees_of_first_choice taken unswitched chose
  obtain ⟨root, elements, texts, classes⟩ :=
    @document_scriptLoad settings { store := left.store, document := fresh } theme agrees.store bare
  have store : loaded.store = left.store := store_initTheme settings.theme _
  have shown : Agrees settings.theme (loaded.updateToggle settings.theme) theme :=
    agrees_updateToggle_of_root (store ▸ agrees.store) root
  -- The toggle is the one of the document that the page was given.
  have still : (loaded.updateToggle settings.theme).document.ToggleIsPlain settings.theme := by
    refine Document.toggleIsPlain_of_bare ?_ plain
    exact sameElsewhere_updateToggle.elements.trans (congrArg _ elements)
  have ready := agrees_of_visible (visible_domReady now) (agrees_sweep shown still now)
  have lasting : (loaded.domReady settings now).1.document.ToggleIsPlain settings.theme := by
    rw [(Prod.mk.inj (visible_domReady now)).2]
    exact toggleIsPlain_sweep still now
  have swept := agrees_sweeps ready lasting later
  refine ⟨root.trans agrees.root.symm, elements, texts, classes, swept.root.trans agrees.root.symm, ?_⟩
  intro handle found
  rw [agrees.current]
  exact swept.toggle handle found

theorem preference_survives_reload_of_two_cycles :
    let document : Document := { elements := [{ id := some "theme-toggle", text := "light" }] }
    let first : Page := { store := .memory (.ofEntries [("cgit-theme", "solarized")]), document }
    let steps : List ThemeStep := [.init, .cycle, .cycle]
    let fresh : Document :=
      { elements := [.labelled "age-mins" "data-ut" "0", { id := some "theme-toggle" }] }
    let loaded := ({ store := (first.themeRun {} steps).store, document := fresh } : Page).scriptLoad {}
    let last := (sweeps {}).run (loaded.domReady {} 60).1 [120, 7200]
    IsServed {} first steps ∧ (∀ step ∈ steps, step.throwsSwitch = false) ∧
      (∃ step ∈ steps, step.chooses = true) ∧ fresh.root = .empty ∧ fresh.ToggleIsPlain {} ∧
      loaded.document.rootAttribute "data-theme" = some "dark" ∧ loaded.document.elements = fresh.elements ∧
      last.document.rootAttribute "data-theme" = some "dark" ∧ last.document.text 1 = "dark" := by
  intro document first steps fresh loaded last
  have served : IsServed {} first steps := rfl
  have unswitched : ∀ step ∈ steps, step.throwsSwitch = false := by decide
  have chose : ∃ step ∈ steps, step.chooses = true := ⟨.cycle, by decide, rfl⟩
  have plain : fresh.ToggleIsPlain {} := by decide
  obtain ⟨root, elements, _, _, still, toggle⟩ :=
    preference_survives_reload {} first steps served unswitched chose fresh rfl plain 60 [120, 7200]
  have dark : (first.themeRun {} steps).document.rootAttribute "data-theme" = some "dark" := by decide
  exact ⟨served, unswitched, chose, rfl, plain, root.trans dark, elements, still.trans dark,
    (toggle 1 (by decide)).trans (by decide)⟩

end Page

end PageUpkeep
