import PageUpkeep.Proofs.Sweep.History
import PageUpkeep.Proofs.Theme.Agreement
import PageUpkeep.Proofs.Theme.Effect

/-! Two upholders of a theme on one page, each with a key, an attribute and a toggle of its own.

A step reads one entry of the store and writes that entry, one attribute of the root and one text. Where these
are not the other's, the steps of the two can be swapped, and neither has a say in what the other answers.
-/

set_option autoImplicit false

namespace PageUpkeep

namespace ThemeSettings

/-- No identifier of the one is the same identifier of the other. -/
structure Apart (first second : ThemeSettings) : Prop where
  storageKey : first.storageKey ≠ second.storageKey
  rootAttribute : first.rootAttribute ≠ second.rootAttribute
  toggleId : first.toggleId ≠ second.toggleId

theorem Apart.symm {first second : ThemeSettings} (apart : first.Apart second) : second.Apart first :=
  ⟨apart.storageKey.symm, apart.rootAttribute.symm, apart.toggleId.symm⟩

end ThemeSettings

namespace MemoryStore

def put (edit : Edit) (store : MemoryStore) : MemoryStore :=
  (store.edit edit).1

theorem get_put {edit : Edit} {key : String} (other : key ≠ edit.key) (store : MemoryStore) :
    (store.put edit).get key = store.get key := by
  cases failing : store.failing with
  | true => simp [put, MemoryStore.edit, failing]
  | false => simp [put, MemoryStore.edit, MemoryStore.get, failing, edit.get?_apply, other]

theorem put_commute {first second : Edit} (apart : first.key ≠ second.key) :
    Function.Commute (put first) (put second) := by
  intro store
  have swapped := Edit.apply_apply apart store.entries
  cases failing : store.failing with
  | true => simp [put, MemoryStore.edit, failing]
  | false => simp [put, MemoryStore.edit, failing, swapped]

end MemoryStore

namespace ThemeSettings

variable (settings : ThemeSettings)

def edit? (store : Store) : ThemeStep → Option Edit
  | .set theme => some (settings.edit theme)
  | .cycle => some (settings.edit (settings.current store).next)
  | .init | .updateToggle | .stored | .current | .switch _ => none

theorem key_edit? {store : Store} {step : ThemeStep} {edit : Edit}
    (put : edit ∈ settings.edit? store step) : edit.key = settings.storageKey := by
  cases step with
  | set theme =>
    obtain rfl := Option.some.inj put
    exact settings.key_edit theme
  | cycle =>
    obtain rfl := Option.some.inj put
    exact settings.key_edit _
  | init | updateToggle | stored | current | switch failing => cases put

theorem store_effect {step : ThemeStep} (unswitched : step.throwsSwitch = false) (store : MemoryStore) :
    (settings.effect (.memory store) step).store =
      .memory (changeIfAny MemoryStore.put (settings.edit? (.memory store) step) store) := by
  cases step with
  | set theme | cycle | init | updateToggle | stored | current => rfl
  | switch failing => cases unswitched

/-- A store that was edited, but that an upholder takes for the one it was before: it is told the same, puts the
same edits to it, and shows the same after each step. -/
structure LooksAlike (before after : Store) : Prop where
  get : after.get settings.storageKey = before.get settings.storageKey
  edit? : ∀ step, settings.edit? after step = settings.edit? before step
  marked? : ∀ step, (settings.effect after step).marked? = (settings.effect before step).marked?
  shown? : ∀ step, (settings.effect after step).shown? = (settings.effect before step).shown?

variable {settings}

theorem LooksAlike.refl (store : Store) : settings.LooksAlike store store :=
  ⟨rfl, fun _ => rfl, fun _ => rfl, fun _ => rfl⟩

theorem LooksAlike.write {before after : Store} (alike : settings.LooksAlike before after) (step : ThemeStep)
    (document : Document) :
    (settings.effect after step).write settings document =
      (settings.effect before step).write settings document := by
  rw [ThemeEffect.write, ThemeEffect.write, alike.marked?, alike.shown?]

variable {edit : Edit} (other : settings.storageKey ≠ edit.key) (store : MemoryStore)

include other

theorem current_put : settings.current (.memory (store.put edit)) = settings.current (.memory store) :=
  settings.current_of_same_get (MemoryStore.get_put other store)

theorem shown?_effectOfChoice_put (theme : Theme) :
    (settings.effectOfChoice (.memory (store.put edit)) theme).shown? =
      (settings.effectOfChoice (.memory store) theme).shown? := by
  have apart : (settings.edit theme).key ≠ edit.key := by
    rw [key_edit]
    exact other
  have swapped := MemoryStore.put_commute apart store
  have read := current_put other (store.put (settings.edit theme))
  rw [← swapped] at read
  exact congrArg some read

theorem looksAlike_put : settings.LooksAlike (.memory store) (.memory (store.put edit)) := by
  have get := MemoryStore.get_put other store
  have current := current_put other store
  have next := congrArg Theme.next current
  refine ⟨get, fun step => ?_, fun step => ?_, fun step => ?_⟩
  · unfold edit?
    rw [current]
  · cases step with
    | cycle => exact congrArg some next
    | init => exact congrArg Prod.fst (settings.remembered_of_get get)
    | set theme | updateToggle | stored | current | switch failing => rfl
  · cases step with
    | set theme => exact shown?_effectOfChoice_put other store theme
    | cycle => exact (shown?_effectOfChoice_put other store _).trans (next ▸ rfl)
    | updateToggle => exact congrArg some current
    | init | stored | current | switch failing => rfl

end ThemeSettings

namespace Document

variable (document : Document)

theorem countOf_setText (handle other : Handle) (text : String) :
    (document.setText handle text).countOf other = document.countOf other := by
  unfold countOf
  rw [element?_setText]
  split
  · rw [Option.isSome_map]
  · rfl

theorem setText_setText {handle other : Handle} (different : handle ≠ other) (text second : String) :
    (document.setText other second).setText handle text =
      (document.setText handle text).setText other second := by
  apply Document.ext
  · rfl
  · exact List.modify_modify_ne _ _ document.elements different.symm
  · rw [textWrites_setText, textWrites_setText, textWrites_setText, textWrites_setText, countOf_setText,
      countOf_setText, Nat.add_right_comm]
  · rfl

theorem elementById_ne {id other : String} (different : id ≠ other) {handle second : Handle}
    (found : document.elementById id = some handle) (also : document.elementById other = some second) :
    handle ≠ second := by
  rintro rfl
  obtain ⟨inside, named, _⟩ := List.findIdx?_eq_some_iff_getElem.mp found
  obtain ⟨_, renamed, _⟩ := List.findIdx?_eq_some_iff_getElem.mp also
  have own : document.elements[handle].id = some id := by simpa using named
  have foreign : document.elements[handle].id = some other := by simpa using renamed
  exact different (Option.some.inj (own.symm.trans foreign))

end Document

namespace ThemeSettings

variable {first second : ThemeSettings}

theorem mark_commute (apart : first.Apart second) (theme other : Theme) :
    Function.Commute (first.mark theme) (second.mark other) := by
  intro document
  have keys : (first.rootEdit theme).key ≠ (second.rootEdit other).key := by
    rw [key_rootEdit, key_rootEdit]
    exact apart.rootAttribute
  rw [mark_eq, mark_eq, mark_eq, mark_eq, Edit.apply_apply keys]

theorem display_root (settings : ThemeSettings) (theme : Theme) (document : Document) (root : Table) :
    settings.display theme { document with root } = { settings.display theme document with root } := by
  have toggle : Document.elementById { document with root } settings.toggleId =
      document.elementById settings.toggleId := rfl
  unfold display
  rw [toggle]
  split <;> rfl

theorem display_mark_commute (theme other : Theme) :
    Function.Commute (first.display theme) (second.mark other) := by
  intro document
  have unmarked : (first.display theme document).root = document.root := by
    unfold display
    split <;> rfl
  rw [mark_eq, mark_eq, display_root, unmarked]

theorem display_commute (apart : first.Apart second) (theme other : Theme) :
    Function.Commute (first.display theme) (second.display other) := by
  intro document
  unfold display
  cases own : document.elementById first.toggleId with
  | none =>
    cases foreign : document.elementById second.toggleId with
    | none => simp only [own]
    | some handle => simp only [own, Document.elementById_setText]
  | some handle =>
    cases foreign : document.elementById second.toggleId with
    | none => simp only [own, foreign, Document.elementById_setText]
    | some place =>
      have different := document.elementById_ne apart.toggleId own foreign
      simp only [own, foreign, Document.elementById_setText]
      exact document.setText_setText different theme.name other.name

end ThemeSettings

theorem ThemeEffect.write_commute {first second : ThemeSettings} (apart : first.Apart second)
    (effect other : ThemeEffect) : Function.Commute (effect.write first) (other.write second) := by
  have marks : Function.Commute (changeIfAny first.mark effect.marked?)
      (changeIfAny second.mark other.marked?) :=
    changeIfAny_commute fun theme _ other _ => ThemeSettings.mark_commute apart theme other
  have displays : Function.Commute (changeIfAny first.display effect.shown?)
      (changeIfAny second.display other.shown?) :=
    changeIfAny_commute fun theme _ other _ => ThemeSettings.display_commute apart theme other
  have displayMark : Function.Commute (changeIfAny first.display effect.shown?)
      (changeIfAny second.mark other.marked?) :=
    changeIfAny_commute fun theme _ other _ => ThemeSettings.display_mark_commute theme other
  have markDisplay : Function.Commute (changeIfAny first.mark effect.marked?)
      (changeIfAny second.display other.shown?) :=
    changeIfAny_commute fun theme _ other _ => (ThemeSettings.display_mark_commute other theme).symm
  exact (displays.comp_right displayMark).comp_left (markDisplay.comp_right marks)

structure ThemeOperation where
  step : ThemeStep
  unswitched : step.throwsSwitch = false

namespace Page

/-! ## Two upholders -/

def operations (settings : ThemeSettings) : Party Page ThemeOperation (Option Theme) where
  next page operation := (themes settings).next page operation.step
  answer page operation := (themes settings).answer page operation.step

theorem seesOnly_operations (settings : ThemeSettings) : (operations settings).SeesOnly visible where
  next same operation := (seesOnly_themes settings).next same operation.step
  answer same operation := (seesOnly_themes settings).answer same operation.step

def InMemory (page : Page) : Prop :=
  ∃ store, page.store = .memory store

variable {first second settings : ThemeSettings} {page after : Page} {store : MemoryStore}

theorem store_operations (settings : ThemeSettings) (memory : page.store = .memory store)
    (operation : ThemeOperation) :
    ((operations settings).next page operation).store =
      .memory (changeIfAny MemoryStore.put (settings.edit? page.store operation.step) store) := by
  rw [operations, store_themes, memory, settings.store_effect operation.unswitched]

theorem document_operations (operation : ThemeOperation) :
    ((operations settings).next page operation).document =
      (settings.effect page.store operation.step).write settings page.document :=
  page.document_themes settings operation.step

theorem inMemory_operations (inMemory : page.InMemory) (operation : ThemeOperation) :
    ((operations settings).next page operation).InMemory := by
  obtain ⟨store, memory⟩ := inMemory
  exact ⟨_, store_operations settings memory operation⟩

theorem looksAlike_operations (apart : first.Apart second) (inMemory : page.InMemory)
    (other : ThemeOperation) :
    first.LooksAlike page.store ((operations second).next page other).store := by
  obtain ⟨store, memory⟩ := inMemory
  rw [store_operations second memory other, memory]
  cases put : second.edit? (.memory store) other.step with
  | none => exact .refl _
  | some edit =>
    have foreign : first.storageKey ≠ edit.key := second.key_edit? put ▸ apart.storageKey
    exact ThemeSettings.looksAlike_put foreign store

theorem swap_operations (apart : first.Apart second) (inMemory : page.InMemory)
    (operation other : ThemeOperation) :
    ((operations first).next ((operations second).next page other) operation).visible =
      ((operations second).next ((operations first).next page operation) other).visible := by
  have ⟨store, memory⟩ := inMemory
  have alike := looksAlike_operations apart inMemory other
  have alikeToo := looksAlike_operations apart.symm inMemory operation
  have left := store_operations first memory operation
  have right := store_operations second memory other
  have keys : Function.Commute
      (changeIfAny MemoryStore.put (first.edit? page.store operation.step))
      (changeIfAny MemoryStore.put (second.edit? page.store other.step)) := by
    refine changeIfAny_commute fun edit own change foreign => MemoryStore.put_commute ?_
    rw [first.key_edit? own, second.key_edit? foreign]
    exact apart.storageKey
  have stores := congrArg Store.memory (keys store)
  have documents := ThemeEffect.write_commute apart (first.effect page.store operation.step)
    (second.effect page.store other.step) page.document
  rw [visible, visible, document_operations, document_operations, document_operations, document_operations,
    store_operations first right, store_operations second left, alike.edit?, alikeToo.edit?, alike.write,
    alikeToo.write, stores, documents]

theorem independent_operations (apart : first.Apart second) :
    Party.Independent InMemory visible (operations first) (operations second) where
  seesLeft := seesOnly_operations first
  seesRight := seesOnly_operations second
  holdsLeft := inMemory_operations
  holdsRight := inMemory_operations
  swap := swap_operations apart
  answerLeft inMemory operation other :=
    answer?_of_get first (looksAlike_operations apart inMemory other).get operation.step
  answerRight inMemory operation other :=
    answer?_of_get second (looksAlike_operations apart.symm inMemory operation).get other.step

/-- Two states of a page that agree on all that is one theme's own: its entry of the store, its attribute of
the root, and the text of its toggle. -/
structure SameOwn (settings : ThemeSettings) (page after : Page) : Prop where
  entry : after.store.stored? settings.storageKey = page.store.stored? settings.storageKey
  root : after.document.rootAttribute settings.rootAttribute =
    page.document.rootAttribute settings.rootAttribute
  toggle : after.document.elementById settings.toggleId = page.document.elementById settings.toggleId
  text : ∀ handle, page.document.elementById settings.toggleId = some handle →
    after.document.text handle = page.document.text handle

theorem sameOwn_of_sameElsewhere (apart : first.Apart second) (entries : SameEntries second page after)
    (elsewhere : SameElsewhere second page after) : SameOwn first page after where
  entry := entries first.storageKey apart.storageKey
  root := elsewhere.root first.rootAttribute apart.rootAttribute
  toggle := Document.elementById_of_bare first.toggleId elsewhere.elements
  text handle own := elsewhere.texts handle fun foreign =>
    page.document.elementById_ne apart.toggleId own foreign rfl

theorem inMemory_run (inMemory : page.InMemory) (performed : List ThemeOperation) :
    ((operations settings).run page performed).InMemory := by
  induction performed generalizing page with
  | nil => exact inMemory
  | cons operation rest ih => exact ih (inMemory_operations inMemory operation)

theorem sameEntries_operations (inMemory : page.InMemory) (performed : List ThemeOperation) :
    SameEntries settings page ((operations settings).run page performed) := by
  induction performed generalizing page with
  | nil => exact fun _ _ => rfl
  | cons operation rest ih =>
    obtain ⟨store, memory⟩ := inMemory
    intro key other
    have loose : page.store.isFile = false := by
      rw [memory]
      rfl
    have entries := (safeStep settings page operation.step).entries.resolve_right
      (not_mishap_of_isFile loose operation.step)
    exact (ih (inMemory_operations ⟨store, memory⟩ operation) key other).trans (entries key other)

theorem sameElsewhere_operations (settings : ThemeSettings) (page : Page) (performed : List ThemeOperation) :
    SameElsewhere settings page ((operations settings).run page performed) := by
  have run := sameElsewhere_run settings page (performed.map ThemeOperation.step)
  rw [themeRun, List.foldl_map] at run
  exact run

theorem sameOwn_of_visible {alone : Page} (apart : first.Apart second) (inMemory : alone.InMemory)
    (others : List ThemeOperation) (same : after.visible = ((operations second).run alone others).visible) :
    SameOwn first alone after := by
  obtain ⟨store, document⟩ := Prod.mk.inj same
  have own := sameOwn_of_sameElsewhere apart (sameEntries_operations inMemory others)
    (sameElsewhere_operations second alone others)
  exact ⟨store ▸ own.entry, document ▸ own.root, document ▸ own.toggle, document ▸ own.text⟩

/-- Two upholders on one page and one store in memory, be it switched on or off, do not notice each other. In
whatever turns they act, each answers what it would answer alone, and finds its entry, its attribute of the
root and its toggle as it would have left them alone; and the turns make no difference to the page. -/
theorem upholders_do_not_interfere {first second : ThemeSettings} (apart : first.Apart second)
    (store : MemoryStore) (page : Page) (memory : page.store = .memory store)
    (firsts seconds : List ThemeOperation) (turns : List (ThemeOperation ⊕ ThemeOperation))
    (ofFirst : lefts turns = firsts) (ofSecond : rights turns = seconds) :
    let both := (operations first).beside (operations second)
    lefts (both.answers page turns) = (operations first).answers page firsts ∧
      rights (both.answers page turns) = (operations second).answers page seconds ∧
      SameOwn first ((operations first).run page firsts) (both.run page turns) ∧
      SameOwn second ((operations second).run page seconds) (both.run page turns) ∧
      ∀ others : List (ThemeOperation ⊕ ThemeOperation), lefts others = firsts → rights others = seconds →
        (both.run page turns).store = (both.run page others).store ∧
          (both.run page turns).document = (both.run page others).document := by
  subst ofFirst ofSecond
  have independent := independent_operations apart
  have inMemory : page.InMemory := ⟨store, memory⟩
  have ordered := independent.run_beside inMemory turns
  refine ⟨independent.lefts_answers_beside inMemory turns, independent.rights_answers_beside inMemory turns,
    sameOwn_of_visible apart (inMemory_run inMemory _) _ ordered, ?_, ?_⟩
  · -- The second upholder could as well have gone first.
    have reversed := independent.run_run inMemory (lefts turns) (rights turns)
    exact sameOwn_of_visible apart.symm (inMemory_run inMemory _) _ (ordered.trans reversed.symm)
  · intro others ofFirst ofSecond
    have same := independent.run_beside inMemory others
    rw [ofFirst, ofSecond, ← ordered] at same
    exact Prod.mk.inj same.symm

theorem upholders_do_not_interfere_side_by_side :
    let second : ThemeSettings := ⟨"nav-theme", "data-nav", "nav-toggle"⟩
    let document : Document :=
      { elements := [{ id := some "nav-toggle" }, { id := some "theme-toggle" }] }
    let page : Page := { store := .memory (.ofEntries [("cgit-theme", "light")]), document }
    let turns : List (ThemeOperation ⊕ ThemeOperation) :=
      [.inr ⟨.set .dark, rfl⟩, .inl ⟨.init, rfl⟩, .inr ⟨.cycle, rfl⟩, .inl ⟨.cycle, rfl⟩]
    let both := (operations {}).beside (operations second)
    ThemeSettings.Apart {} second ∧ page.store = .memory (.ofEntries [("cgit-theme", "light")]) ∧
      lefts (both.answers page turns) = [none, some .dark] ∧
      rights (both.answers page turns) = [none, some .auto] ∧
      (both.run page turns).store.stored? "cgit-theme" = some "dark" ∧
      (both.run page turns).document.text 0 = "auto" := by
  intro second document page turns both
  have apart : ThemeSettings.Apart {} second := by
    constructor <;> decide
  obtain ⟨firsts, seconds, first, last, _⟩ :=
    upholders_do_not_interfere apart (.ofEntries [("cgit-theme", "light")]) page rfl _ _ turns rfl rfl
  refine ⟨apart, rfl, firsts.trans (by decide), seconds.trans (by decide), ?_, ?_⟩
  · have entry := first.entry
    exact entry.trans (by decide)
  · have text := last.text 0 (by decide)
    exact text.trans (by decide)

end Page

end PageUpkeep
