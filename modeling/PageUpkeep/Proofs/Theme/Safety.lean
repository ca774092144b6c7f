import PageUpkeep.Proofs.Theme.Operations

/-! The theme is safe with any store.

The steps of a run are the operations of the theme, in any order, with the switch of a store in memory
thrown anywhere between them. Whatever the store answers, the page is marked with the theme that was
chosen, the toggle shows what the store remembers then, and nothing else is touched. Only a store in a file can come
to harm, when a choice fails while its file is written, or after directories were made on the way to it.
-/

set_option autoImplicit false

namespace PageUpkeep

/-- Throws the switch of a store in memory; no other store has one. -/
def Store.switch (failing : Bool) : Store → Store
  | .memory store => .memory { store with failing }
  | .unavailable => .unavailable
  | .file store => .file store

theorem Store.stored?_switch (failing : Bool) (store : Store) (key : String) :
    (store.switch failing).stored? key = store.stored? key := by
  cases store <;> rfl

namespace Store

def isFile : Store → Bool
  | .file _ => true
  | .memory _ | .unavailable => false

theorem isFile_edit (store : Store) (edit : Edit) : (store.edit edit).1.isFile = store.isFile := by
  cases store <;> rfl

theorem isFile_switch (failing : Bool) (store : Store) : (store.switch failing).isFile = store.isFile := by
  cases store <;> rfl

end Store

def Element.bare (element : Element) : Element :=
  { element with text := "" }

namespace Document

theorem bare_setText (document : Document) (handle : Handle) (text : String) :
    (document.setText handle text).elements.map Element.bare = document.elements.map Element.bare := by
  apply List.ext_getElem?
  intro other
  have found := document.element?_setText handle other text
  unfold element? at found
  rw [List.getElem?_map, List.getElem?_map, found]
  split
  · rw [Option.map_map]
    rfl
  · rfl

theorem elementById_of_bare {first second : Document} (id : String)
    (same : second.elements.map Element.bare = first.elements.map Element.bare) :
    second.elementById id = first.elementById id := by
  have bare : ∀ document : Document, document.elementById id =
      (document.elements.map Element.bare).findIdx? fun element => element.id == some id := by
    intro document
    rw [List.findIdx?_map]
    rfl
  rw [bare, bare, same]

theorem text_setText_of_ne (document : Document) {handle other : Handle} (different : other ≠ handle)
    (text : String) : (document.setText handle text).text other = document.text other := by
  rw [Document.text, element?_setText, if_neg different]
  rfl

theorem text_setText_of_found {document : Document} {handle : Handle} {id : String}
    (found : document.elementById id = some handle) (text : String) :
    (document.setText handle text).text handle = text := by
  obtain ⟨inside, _⟩ := List.findIdx?_eq_some_iff_getElem.mp found
  have there : document.element? handle = some document.elements[handle] :=
    List.getElem?_eq_getElem inside
  simp [Document.text, element?_setText, there]

end Document

inductive ThemeStep where
  | set (theme : Theme)
  | cycle
  | init
  | updateToggle
  | stored
  | current
  | switch (failing : Bool)
  deriving DecidableEq, Repr

def ThemeStep.showsToggle : ThemeStep → Bool
  | .set _ | .cycle | .updateToggle => true
  | .init | .stored | .current | .switch _ => false

namespace Page

def themeStep (settings : ThemeSettings) (page : Page) : ThemeStep → Page
  | .set theme => page.setTheme settings theme
  | .cycle => (page.cycleTheme settings).1
  | .init => page.initTheme settings
  | .updateToggle => page.updateToggle settings
  | .stored => (page.storedTheme settings).1
  | .current => (page.currentTheme settings).1
  | .switch failing => { page with store := page.store.switch failing }

def themeRun (settings : ThemeSettings) (page : Page) (steps : List ThemeStep) : Page :=
  steps.foldl (themeStep settings) page

def chosen? (settings : ThemeSettings) (page : Page) : ThemeStep → Option Theme
  | .set theme => some theme
  | .cycle => some (page.cycleTheme settings).2
  | .init | .updateToggle | .stored | .current | .switch _ => none

variable {settings : ThemeSettings} {page : Page}

/-- Two states of a page that agree on the entries of the store under other keys. -/
def SameEntries (settings : ThemeSettings) (page after : Page) : Prop :=
  ∀ key, key ≠ settings.storageKey → after.store.stored? key = page.store.stored? key

/-- Two states of a page that agree on all of the document that is not the theme's: the other attributes of the
root, all of every element but its text, and the texts outside the toggle. -/
structure SameElsewhere (settings : ThemeSettings) (page after : Page) : Prop where
  root : ∀ name, name ≠ settings.rootAttribute →
    after.document.rootAttribute name = page.document.rootAttribute name
  elements : after.document.elements.map Element.bare = page.document.elements.map Element.bare
  texts : ∀ handle, page.document.elementById settings.toggleId ≠ some handle →
    after.document.text handle = page.document.text handle

theorem sameElsewhere_of_same {after : Page} (document : after.document = page.document) :
    SameElsewhere settings page after where
  root name _ := by rw [document]
  elements := by rw [document]
  texts handle _ := by rw [document]

theorem SameElsewhere.trans {first second third : Page} (left : SameElsewhere settings first second)
    (right : SameElsewhere settings second third) : SameElsewhere settings first third where
  root name other := (right.root name other).trans (left.root name other)
  elements := right.elements.trans left.elements
  texts := by
    intro handle outside
    -- The toggle is the same element in all three, for no id changes.
    have toggle := Document.elementById_of_bare settings.toggleId left.elements
    exact (right.texts handle (toggle ▸ outside)).trans (left.texts handle outside)

theorem sameElsewhere_mark (theme : Theme) :
    SameElsewhere settings page { page with document := settings.mark theme page.document } where
  root name other := by rw [settings.rootAttribute_mark, if_neg other]
  elements := by rw [settings.elements_mark]
  texts handle _ := by
    unfold Document.text Document.element?
    rw [settings.elements_mark]

theorem sameElsewhere_remember (theme : Theme) :
    SameElsewhere settings page (page.remember settings theme) :=
  sameElsewhere_of_same (page.document_remember settings theme)

theorem sameElsewhere_updateToggle : SameElsewhere settings page (page.updateToggle settings) := by
  have written := page.document_updateToggle settings
  refine ⟨?_, ?_, ?_⟩
  · intro name _
    rw [written]
    split <;> rfl
  · rw [written]
    split
    · rfl
    · exact page.document.bare_setText _ _
  · intro handle outside
    rw [written]
    split
    · rfl
    · rename_i toggle found
      have different : handle ≠ toggle := by
        intro same
        exact outside (same ▸ found)
      exact page.document.text_setText_of_ne different _

theorem sameElsewhere_setTheme (theme : Theme) :
    SameElsewhere settings page (page.setTheme settings theme) :=
  ((sameElsewhere_mark theme).trans (sameElsewhere_remember theme)).trans sameElsewhere_updateToggle

theorem sameElsewhere_initTheme : SameElsewhere settings page (page.initTheme settings) := by
  have document := page.document_initTheme settings
  cases remembered : (settings.remembered page.store).1 with
  | none =>
    rw [remembered] at document
    exact sameElsewhere_of_same document
  | some theme =>
    rw [remembered] at document
    exact (sameElsewhere_mark theme).trans (sameElsewhere_of_same document)

theorem sameElsewhere_step (settings : ThemeSettings) (page : Page) (step : ThemeStep) :
    SameElsewhere settings page (page.themeStep settings step) := by
  cases step with
  | set theme => exact sameElsewhere_setTheme theme
  | cycle =>
    -- Reading the current theme adds to the reports at most.
    have read : SameElsewhere settings page (page.currentTheme settings).1 := sameElsewhere_of_same rfl
    exact read.trans (sameElsewhere_setTheme _)
  | init => exact sameElsewhere_initTheme
  | updateToggle => exact sameElsewhere_updateToggle
  | stored | current | switch failing => exact sameElsewhere_of_same rfl

theorem sameElsewhere_run (settings : ThemeSettings) (page : Page) (steps : List ThemeStep) :
    SameElsewhere settings page (page.themeRun settings steps) := by
  induction steps generalizing page with
  | nil => exact sameElsewhere_of_same rfl
  | cons step rest ih => exact (sameElsewhere_step settings page step).trans (ih _)

/-! ## What a step does -/

theorem rootAttribute_setTheme (theme : Theme) :
    (page.setTheme settings theme).document.rootAttribute settings.rootAttribute = theme.written? := by
  have marked := settings.rootAttribute_mark theme page.document settings.rootAttribute
  rw [if_pos rfl] at marked
  -- The root is marked before the store is asked, and the toggle is an element.
  rw [setTheme, document_updateToggle, document_remember]
  split
  · exact marked
  · exact marked

theorem stored?_setTheme {theme : Theme}
    (success : (page.store.edit (settings.edit theme)).2 = .ok ()) :
    (page.setTheme settings theme).store.stored? settings.storageKey = theme.written? := by
  rw [store_setTheme]
  cases changed : page.store.edit (settings.edit theme) with
  | mk after answer =>
    rw [changed] at success
    cases success
    rw [Store.stored?_edit changed, settings.key_edit, settings.value?_edit, if_pos rfl]

/-- A step goes wrong: the store fails to take the theme that is chosen, and yet its entries are not what they
were. -/
def Mishap (settings : ThemeSettings) (page : Page) (step : ThemeStep) : Prop :=
  ∃ theme, page.chosen? settings step = some theme ∧
    Store.Mishap (settings.edit theme) page.store (page.themeStep settings step).store

def NoMishap (settings : ThemeSettings) (page : Page) : List ThemeStep → Prop
  | [] => True
  | step :: rest => ¬ Mishap settings page step ∧ NoMishap settings (page.themeStep settings step) rest

theorem text_updateToggle {handle : Handle}
    (found : (page.updateToggle settings).document.elementById settings.toggleId = some handle) :
    (page.updateToggle settings).document.text handle =
      ((page.updateToggle settings).currentTheme settings).2.name := by
  have elements := (@sameElsewhere_updateToggle settings page).elements
  rw [Document.elementById_of_bare settings.toggleId elements] at found
  -- Writing the toggle leaves the store as it is, so it answers the same when it is asked again.
  rw [currentTheme_snd, store_updateToggle, document_updateToggle, found]
  exact Document.text_setText_of_found found _

/-- What a step does from a state of a page, as far as the theme goes. The root is marked with the theme
that was chosen, whatever the store answers; the store remembers the theme if it took it and else what it
remembered before; the toggle shows the current theme; and all else is the same. A mishap is an exception for the
entries of the store: then there are none after the step, or there were none before it. -/
structure SafeStep (settings : ThemeSettings) (page : Page) (step : ThemeStep) : Prop where
  root : ∀ theme, page.chosen? settings step = some theme →
    (page.themeStep settings step).document.rootAttribute settings.rootAttribute = theme.written?
  taken : ∀ theme, page.chosen? settings step = some theme →
    (page.store.edit (settings.edit theme)).2 = .ok () →
    (page.themeStep settings step).store.stored? settings.storageKey = theme.written?
  kept : (∀ theme, page.chosen? settings step = some theme →
      (page.store.edit (settings.edit theme)).2 ≠ .ok ()) →
    (page.themeStep settings step).store.stored? settings.storageKey =
        page.store.stored? settings.storageKey ∨
      Mishap settings page step
  entries : SameEntries settings page (page.themeStep settings step) ∨ Mishap settings page step
  mishap : Mishap settings page step →
    (∀ key, (page.themeStep settings step).store.stored? key = none) ∨
      ∀ key, page.store.stored? key = none
  toggle : step.showsToggle = true → ∀ handle,
    (page.themeStep settings step).document.elementById settings.toggleId = some handle →
    (page.themeStep settings step).document.text handle =
      ((page.themeStep settings step).currentTheme settings).2.name
  elsewhere : SameElsewhere settings page (page.themeStep settings step)

theorem stored?_of_mishap {step : ThemeStep} (mishap : Mishap settings page step) :
    (∀ key, (page.themeStep settings step).store.stored? key = none) ∨
      ∀ key, page.store.stored? key = none := by
  obtain ⟨_, _, mishap⟩ := mishap
  exact mishap.stored?

theorem safeStep_of_choice {step : ThemeStep} {theme : Theme} {read : Page}
    (store : read.store = page.store) (chosen : page.chosen? settings step = some theme)
    (done : page.themeStep settings step = read.setTheme settings theme) :
    SafeStep settings page step where
  root other same := by
    cases chosen.symm.trans same
    rw [done]
    exact rootAttribute_setTheme theme
  taken other same success := by
    cases chosen.symm.trans same
    rw [done]
    exact stored?_setTheme (store ▸ success)
  kept failed := by
    -- The choice is put to the store once, and what became of it decides.
    have after : (page.themeStep settings step).store = (page.store.edit (settings.edit theme)).1 := by
      rw [done, store_setTheme, store]
    cases changed : page.store.edit (settings.edit theme) with
    | mk next answer =>
      rw [changed] at after
      cases answer with
      | ok _ => exact absurd (by rw [changed]) (failed theme chosen)
      | error error =>
        rcases Store.stored?_failed_edit changed with same | mishap
        · exact .inl (after ▸ same _)
        · exact .inr ⟨theme, chosen, after ▸ mishap⟩
  entries := by
    have after : (page.themeStep settings step).store = (page.store.edit (settings.edit theme)).1 := by
      rw [done, store_setTheme, store]
    rcases page.store.stored?_edit_of_ne (settings.edit theme) with same | mishap
    · refine .inl fun key other => ?_
      rw [after]
      exact same key (settings.key_edit theme ▸ other)
    · exact .inr ⟨theme, chosen, after ▸ mishap⟩
  mishap := stored?_of_mishap
  toggle := by
    intro _ handle found
    rw [done] at found ⊢
    exact text_updateToggle found
  elsewhere := sameElsewhere_step settings page step

theorem safeStep_of_no_choice {step : ThemeStep} (none : page.chosen? settings step = none)
    (entries : ∀ key, (page.themeStep settings step).store.stored? key = page.store.stored? key)
    (toggle : step.showsToggle = true → page.themeStep settings step = page.updateToggle settings) :
    SafeStep settings page step where
  root theme chosen := by simp [none] at chosen
  taken theme chosen := by simp [none] at chosen
  kept _ := .inl (entries _)
  entries := .inl fun key _ => entries key
  mishap := stored?_of_mishap
  toggle := by
    intro shows handle found
    rw [toggle shows] at found ⊢
    exact text_updateToggle found
  elsewhere := sameElsewhere_step settings page step

theorem safeStep (settings : ThemeSettings) (page : Page) (step : ThemeStep) :
    SafeStep settings page step := by
  cases step with
  | set theme => exact safeStep_of_choice rfl rfl rfl
  | cycle => exact @safeStep_of_choice settings page .cycle _ (page.currentTheme settings).1 rfl rfl rfl
  | init => exact safeStep_of_no_choice rfl (by simp [themeStep]) nofun
  | updateToggle => exact safeStep_of_no_choice rfl (by simp [themeStep]) fun _ => rfl
  | stored => exact safeStep_of_no_choice rfl (fun _ => rfl) nofun
  | current => exact safeStep_of_no_choice rfl (fun _ => rfl) nofun
  | switch failing => exact safeStep_of_no_choice rfl (Store.stored?_switch failing page.store) nofun

theorem sameEntries_run {steps : List ThemeStep} (spared : NoMishap settings page steps) :
    SameEntries settings page (page.themeRun settings steps) := by
  induction steps generalizing page with
  | nil => exact fun _ _ => rfl
  | cons step rest ih =>
    intro key other
    have first := (safeStep settings page step).entries.resolve_right spared.1
    exact (ih spared.2 key other).trans (first key other)

theorem isFile_themeStep (step : ThemeStep) :
    (page.themeStep settings step).store.isFile = page.store.isFile := by
  cases step with
  | set theme => rw [themeStep, store_setTheme, Store.isFile_edit]
  | cycle =>
    have stepped : (page.themeStep settings .cycle).store = _ :=
      (page.currentTheme settings).1.store_setTheme settings _
    rw [stepped, Store.isFile_edit]
    rfl
  | init | updateToggle => simp [themeStep]
  | stored | current => rfl
  | switch failing => exact Store.isFile_switch failing page.store

theorem not_mishap_of_isFile (loose : page.store.isFile = false) (step : ThemeStep) :
    ¬ Mishap settings page step := by
  rintro ⟨theme, _, mishap⟩
  cases store : page.store with
  | file _ =>
    rw [store] at loose
    cases loose
  | memory _ | unavailable =>
    rw [store] at mishap
    cases mishap

theorem noMishap_of_isFile {steps : List ThemeStep} (loose : page.store.isFile = false) :
    NoMishap settings page steps := by
  induction steps generalizing page with
  | nil => trivial
  | cons step rest ih => exact ⟨not_mishap_of_isFile loose step, ih ((isFile_themeStep step).trans loose)⟩

/-- Whatever a store answers and whenever it fails, every step of every run is safe, and the run as a whole touches
nothing of the document that is not the theme's. Without a mishap it touches no other entry of the store either, and
there is none where the store is not in a file. -/
theorem theme_safe_in_every_run (settings : ThemeSettings) (page : Page) (steps : List ThemeStep)
    (step : ThemeStep) :
    SafeStep settings (page.themeRun settings steps) step ∧
      SameElsewhere settings page (page.themeRun settings (steps ++ [step])) ∧
      (NoMishap settings page (steps ++ [step]) →
        SameEntries settings page (page.themeRun settings (steps ++ [step]))) ∧
      (page.store.isFile = false → NoMishap settings page (steps ++ [step])) :=
  ⟨safeStep settings _ step, sameElsewhere_run settings page _, sameEntries_run, noMishap_of_isFile⟩

/-- Entries under other keys change where the disk is full, for the file is emptied by the choice that fails; and where
the path leads through a directory that is missing at first. There the entries of a file that cannot be written come
to light with the choice that fails, and those of a file that can be written are lost with one that succeeds. -/
theorem other_entries_change_with_choice :
    let place : Place := ⟨.above 0, ["s"]⟩
    let text := "\x7b\"other\":\"1\"\x7d"
    let pageOver (path : String) (restrictions : List (Place × Restriction)) : Page :=
      { store := .file ⟨.ofString path, { nodes := [(place, .file text.toUTF8)], restrictions }⟩ }
    let full := pageOver "s" [(place, .narrow 0 .noSpace)]
    let locked := pageOver "d/../s" [(place, .fixed .permissionDenied)]
    let hidden := pageOver "d/../s" []
    let seen := pageOver "s" []
    let chosen := hidden.setTheme {} .dark
    (full.store.stored? "other" = some "1" ∧ (full.setTheme {} .dark).store.stored? "other" = none) ∧
      (locked.store.stored? "other" = none ∧
        (locked.setTheme {} .dark).store.stored? "other" = some "1") ∧
      seen.store.stored? "other" = some "1" ∧
        chosen.store.stored? "cgit-theme" = some "dark" ∧ chosen.store.stored? "other" = none := by
  decide +kernel

end Page

end PageUpkeep
