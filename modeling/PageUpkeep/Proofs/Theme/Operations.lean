import PageUpkeep.Page
import PageUpkeep.Proofs.Store.Entries

/-! What each operation of the theme does to the store and to the document.

An operation only looks at the store or puts one edit to it; the answers decide what the toggle shows and
what is reported, and nothing else.
-/

set_option autoImplicit false

namespace PageUpkeep

/-- How a theme is put down, on the root as well as in a store: by its name, and `auto` by nothing. -/
def Theme.written? : Theme → Option String
  | .auto => none
  | theme => some theme.name

namespace ThemeSettings

variable (settings : ThemeSettings)

theorem key_edit (theme : Theme) : (settings.edit theme).key = settings.storageKey := by
  cases theme <;> rfl

theorem value?_edit (theme : Theme) : (settings.edit theme).value? = theme.written? := by
  cases theme <;> rfl

theorem rootAttribute_mark (theme : Theme) (document : Document) (name : String) :
    (settings.mark theme document).rootAttribute name =
      if name = settings.rootAttribute then theme.written? else document.rootAttribute name := by
  cases theme with
  | auto => exact document.root.get?_erase settings.rootAttribute name
  | light => exact document.root.get?_insert settings.rootAttribute Theme.light.name name
  | dark => exact document.root.get?_insert settings.rootAttribute Theme.dark.name name

theorem elements_mark (theme : Theme) (document : Document) :
    (settings.mark theme document).elements = document.elements := by
  cases theme <;> rfl

def current (store : Store) : Theme :=
  (settings.remembered store).1.getD .auto

end ThemeSettings

namespace Page

variable (settings : ThemeSettings) (page : Page)

@[simp] theorem currentTheme_snd : (page.currentTheme settings).2 = settings.current page.store := rfl

@[simp] theorem store_updateToggle : (page.updateToggle settings).store = page.store := by
  unfold updateToggle
  split <;> rfl

theorem document_updateToggle :
    (page.updateToggle settings).document =
      match page.document.elementById settings.toggleId with
      | none => page.document
      | some toggle => page.document.setText toggle (settings.current page.store).name := by
  unfold updateToggle
  cases page.document.elementById settings.toggleId with
  | none => rfl
  | some toggle => rfl

@[simp] theorem store_remember (theme : Theme) :
    (page.remember settings theme).store = (page.store.edit (settings.edit theme)).1 := by
  unfold remember
  split
  · rename_i store changed
    rw [changed]
  · rename_i store error changed
    rw [changed]
    rfl

@[simp] theorem document_remember (theme : Theme) :
    (page.remember settings theme).document = page.document := by
  unfold remember
  split <;> rfl

@[simp] theorem store_setTheme (theme : Theme) :
    (page.setTheme settings theme).store = (page.store.edit (settings.edit theme)).1 := by
  rw [setTheme, store_updateToggle, store_remember]

@[simp] theorem store_initTheme : (page.initTheme settings).store = page.store := by
  unfold initTheme storedTheme
  cases settings.remembered page.store with
  | mk theme events =>
    cases theme with
    | none => rfl
    | some theme => rfl

theorem document_initTheme :
    (page.initTheme settings).document =
      match (settings.remembered page.store).1 with
      | none => page.document
      | some theme => settings.mark theme page.document := by
  unfold initTheme storedTheme
  cases settings.remembered page.store with
  | mk theme events =>
    cases theme with
    | none => rfl
    | some theme => rfl

end Page

end PageUpkeep
