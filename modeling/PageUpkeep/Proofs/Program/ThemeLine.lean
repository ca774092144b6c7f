import PageUpkeep.Program.Run
import PageUpkeep.Proofs.Theme.Effect

/-! The line that the program prints for a theme.

Whatever the program was asked to do, the line shows what the store remembers afterwards, for that is what the
toggle shows.
-/

set_option autoImplicit false

namespace PageUpkeep

/-- What stands behind a theme: its own name, or the mode of the system where the theme is left to it. -/
def Theme.modeName (system : ColorMode) : Theme → String
  | .auto => system.name
  | theme => theme.name

namespace Page

theorem name_colorMode (settings : ThemeSettings) (page : Page) (ask : StateM String ColorMode)
    (notes : String) :
    ((page.colorMode settings ask).run notes).1.2.name =
      (settings.current page.store).modeName (ask.run notes).1 := by
  rw [← page.currentTheme_snd]
  unfold colorMode
  cases page.currentTheme settings with
  | mk read theme => cases theme <;> rfl

end Page

namespace Program

def ThemeAction.step : ThemeAction → ThemeStep
  | .get => .updateToggle
  | .set theme => .set theme
  | .cycle => .cycle

theorem ThemeAction.apply_eq (action : ThemeAction) (settings : ThemeSettings) (page : Page) :
    action.apply settings page = page.themeStep settings action.step := by
  cases action <;> rfl

theorem ThemeAction.showsToggle_step (action : ThemeAction) : action.step.showsToggle = true := by
  cases action <;> rfl

def Environment.systemMode (environment : Environment) (files : FileTree) : ColorMode :=
  ((environment.askMode files).run "").1

def themeLine (environment : Environment) (files : FileTree) (theme : Theme) : String :=
  (if theme = .auto then Style.dim else Style.bold).paint environment.color theme.name ++ " (" ++
    theme.modeName (environment.systemMode files) ++ ")\n"

/-- The page of the program after it did what it was asked for. -/
def actedPage (settings : Settings) (store : FileStore) (action : ThemeAction) : Page :=
  ((togglePage settings store).scriptLoad settings).themeStep settings.theme action.step

variable (settings : Settings) (store : FileStore) (action : ThemeAction)

theorem store_scriptLoad_togglePage :
    ((togglePage settings store).scriptLoad settings).store = .file store :=
  (togglePage settings store).store_initTheme settings.theme

theorem elementById_togglePage :
    ((togglePage settings store).scriptLoad settings).document.elementById settings.theme.toggleId =
      some 0 := by
  have elements :=
    (Page.sameElsewhere_step settings.theme (togglePage settings store) .init).elements
  rw [Page.scriptLoad]
  rw [Page.themeStep] at elements
  rw [Document.elementById_of_bare settings.theme.toggleId elements]
  simp [togglePage, Document.add, Document.empty, Document.elementById]

theorem text_actedPage :
    (actedPage settings store action).document.text 0 =
      (settings.theme.current (actedPage settings store action).store).name := by
  have safe := Page.safeStep settings.theme ((togglePage settings store).scriptLoad settings) action.step
  have toggle := elementById_togglePage settings store
  rw [← Document.elementById_of_bare settings.theme.toggleId safe.elsewhere.elements] at toggle
  exact safe.toggle action.showsToggle_step 0 toggle

theorem runTheme_shows (environment : Environment) :
    let after := (actedPage settings store action).store
    let files := filesOf store.files after
    (runTheme environment settings store action).exit = 0 ∧
      (runTheme environment settings store action).files = files ∧
      (runTheme environment settings store action).out =
        themeLine environment files (settings.theme.current after) := by
  have text := text_actedPage settings store action
  have auto : ∀ theme : Theme, (theme.name = Theme.auto.name) = (theme = .auto) := by
    intro theme
    cases theme <;> simp [Theme.name]
  unfold runTheme themeLine
  rw [ThemeAction.apply_eq]
  unfold actedPage at text ⊢
  generalize ((togglePage settings store).scriptLoad settings).themeStep settings.theme action.step = page
    at text ⊢
  refine ⟨rfl, rfl, ?_⟩
  dsimp only
  rw [text, Environment.systemMode, ← Page.name_colorMode]
  simp only [auto]
  rfl

end Program

end PageUpkeep
