import Mathlib.Logic.Function.Conjugate
import PageUpkeep.Proofs.Runs.Interleaving
import PageUpkeep.Proofs.Theme.Safety

/-! A step of the theme, told from the store alone.

What a step does to the store, what it answers, which theme it marks the root with and which one it shows in
the toggle: all this depends on nothing but what the store answers. The document is only written to.
-/

set_option autoImplicit false

namespace PageUpkeep

def changeIfAny {Value State : Type} (change : Value → State → State) : Option Value → State → State
  | none => id
  | some value => change value

theorem changeIfAny_commute {Value Other State : Type} {first : Value → State → State}
    {second : Other → State → State} {value? : Option Value} {other? : Option Other}
    (commute : ∀ value ∈ value?, ∀ other ∈ other?, Function.Commute (first value) (second other)) :
    Function.Commute (changeIfAny first value?) (changeIfAny second other?) := by
  cases value? with
  | none => exact .id_left
  | some value =>
    cases other? with
    | none => exact .id_right
    | some other => exact commute value rfl other rfl

namespace Document

variable (document : Document) (handle : Handle) (text : String)

theorem root_setText : (document.setText handle text).root = document.root := rfl

theorem textWrites_setText :
    (document.setText handle text).textWrites = document.textWrites + document.countOf handle := rfl

theorem classWrites_setText : (document.setText handle text).classWrites = document.classWrites := rfl

theorem elementById_setText (id : String) :
    (document.setText handle text).elementById id = document.elementById id :=
  elementById_of_bare id (document.bare_setText handle text)

end Document

/-- What comes of a step: the store after it, and the themes that the document is to show. -/
structure ThemeEffect where
  store : Store
  marked? : Option Theme := none
  shown? : Option Theme := none

namespace ThemeSettings

variable (settings : ThemeSettings)

theorem remembered_of_get {first second : Store}
    (same : first.get settings.storageKey = second.get settings.storageKey) :
    settings.remembered first = settings.remembered second := by
  simp only [remembered, same]

theorem current_of_same_get {first second : Store}
    (same : first.get settings.storageKey = second.get settings.storageKey) :
    settings.current first = settings.current second :=
  congrArg (fun remembered => remembered.1.getD .auto) (settings.remembered_of_get same)

/-- A choice marks the root with the theme, and shows what the store remembers after it was told. -/
def effectOfChoice (store : Store) (theme : Theme) : ThemeEffect :=
  let after := (store.edit (settings.edit theme)).1
  { store := after, marked? := some theme, shown? := some (settings.current after) }

def effect (store : Store) : ThemeStep → ThemeEffect
  | .set theme => settings.effectOfChoice store theme
  | .cycle => settings.effectOfChoice store (settings.current store).next
  | .init => { store, marked? := (settings.remembered store).1 }
  | .updateToggle => { store, shown? := some (settings.current store) }
  | .stored | .current => { store }
  | .switch failing => { store := store.switch failing }

def display (theme : Theme) (document : Document) : Document :=
  match document.elementById settings.toggleId with
  | none => document
  | some toggle => document.setText toggle theme.name

def rootEdit (theme : Theme) : Edit :=
  if theme.isPersisted then .set settings.rootAttribute theme.name else .remove settings.rootAttribute

theorem key_rootEdit (theme : Theme) : (settings.rootEdit theme).key = settings.rootAttribute := by
  cases theme <;> rfl

theorem mark_eq (theme : Theme) (document : Document) :
    settings.mark theme document =
      { document with root := (settings.rootEdit theme).apply document.root } := by
  cases theme <;> rfl

end ThemeSettings

def ThemeEffect.write (effect : ThemeEffect) (settings : ThemeSettings) (document : Document) : Document :=
  changeIfAny settings.display effect.shown? (changeIfAny settings.mark effect.marked? document)

namespace Page

variable (settings : ThemeSettings) (page : Page)

def answer? : ThemeStep → Option Theme
  | .cycle => some (page.cycleTheme settings).2
  | .stored => (page.storedTheme settings).2
  | .current => some (page.currentTheme settings).2
  | .set _ | .init | .updateToggle | .switch _ => none

theorem document_updateToggle_eq_display :
    (page.updateToggle settings).document =
      settings.display (settings.current page.store) page.document :=
  page.document_updateToggle settings

theorem document_setTheme (theme : Theme) :
    (page.setTheme settings theme).document =
      (settings.effectOfChoice page.store theme).write settings page.document := by
  rw [setTheme, document_updateToggle_eq_display, store_remember, document_remember]
  rfl

theorem document_initTheme_eq_write :
    (page.initTheme settings).document =
      (settings.effect page.store .init).write settings page.document := by
  rw [document_initTheme, ThemeEffect.write, ThemeSettings.effect]
  cases (settings.remembered page.store).1 with
  | none => rfl
  | some theme => rfl

theorem store_themeStep (step : ThemeStep) :
    (page.themeStep settings step).store = (settings.effect page.store step).store := by
  cases step with
  | set theme => exact page.store_setTheme settings theme
  | cycle => exact (page.currentTheme settings).1.store_setTheme settings _
  | init => exact page.store_initTheme settings
  | updateToggle => exact page.store_updateToggle settings
  | stored | current | switch failing => rfl

theorem document_themeStep (step : ThemeStep) :
    (page.themeStep settings step).document =
      (settings.effect page.store step).write settings page.document := by
  cases step with
  | set theme => exact page.document_setTheme settings theme
  | cycle => exact (page.currentTheme settings).1.document_setTheme settings _
  | init => exact page.document_initTheme_eq_write settings
  | updateToggle => exact page.document_updateToggle_eq_display settings
  | stored | current | switch failing => rfl

def visible (page : Page) : Store × Document :=
  (page.store, page.document)

theorem answer?_of_get {first second : Page}
    (same : first.store.get settings.storageKey = second.store.get settings.storageKey) (step : ThemeStep) :
    first.answer? settings step = second.answer? settings step := by
  have remembered := settings.remembered_of_get same
  have current := settings.current_of_same_get same
  cases step with
  | cycle => exact congrArg (fun theme : Theme => some theme.next) current
  | stored => exact congrArg Prod.fst remembered
  | current => exact congrArg some current
  | set theme | init | updateToggle | switch failing => rfl

def themes (settings : ThemeSettings) : Party Page ThemeStep (Option Theme) where
  next := themeStep settings
  answer := answer? settings

theorem store_themes (step : ThemeStep) :
    ((themes settings).next page step).store = (settings.effect page.store step).store :=
  page.store_themeStep settings step

theorem document_themes (step : ThemeStep) :
    ((themes settings).next page step).document =
      (settings.effect page.store step).write settings page.document :=
  page.document_themeStep settings step

theorem seesOnly_themes : (themes settings).SeesOnly visible where
  next same step := by
    obtain ⟨store, document⟩ := Prod.mk.inj same
    rw [visible, visible, store_themes, store_themes, document_themes, document_themes, store, document]
  answer {first second} same step := by
    have store : first.store = second.store := congrArg Prod.fst same
    exact answer?_of_get settings (by rw [store]) step

end Page

end PageUpkeep
