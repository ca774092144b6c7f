import PageUpkeep.Proofs.Sweep.Delay
import PageUpkeep.Proofs.Sweep.History
import PageUpkeep.Proofs.Theme.Effect

/-! The theme of a page and its sweeps, in turns.

Both write to one document and count their writes together. But a sweep does not see the root, nor the text of
an element that is in no bucket, and it changes no id; so an operation of the theme and a sweep can be swapped,
and neither has a say in what the other answers.
-/

set_option autoImplicit false

namespace PageUpkeep

/-- The toggle, if the document has one, is in none of the buckets. -/
def Document.ToggleIsPlain (settings : ThemeSettings) (document : Document) : Prop :=
  ∀ handle element, document.elementById settings.toggleId = some handle →
    document.element? handle = some element → element.isAged = false

instance (settings : ThemeSettings) (document : Document) : Decidable (document.ToggleIsPlain settings) :=
  decidable_of_iff
    (∀ handle ∈ document.elementById settings.toggleId, ∀ element ∈ document.element? handle,
      element.isAged = false)
    ⟨fun plain handle element toggle found => plain handle toggle element found,
      fun plain handle toggle element found => plain handle element toggle found⟩

theorem Element.isAged_of_className {first second : Element} (same : first.className = second.className) :
    first.isAged = second.isAged := by
  unfold isAged isInOneOf hasClass
  rw [same]

namespace Document

variable {first second document : Document} {handle : Handle}

theorem populates_of_bare (same : second.elements.map Element.bare = first.elements.map Element.bare) :
    second.populates = first.populates := by
  have bare : ∀ (document : Document) (bucket : AgeBucket), document.populates bucket =
      (document.elements.map Element.bare).any fun element => element.hasClass bucket.className := by
    intro document bucket
    rw [List.any_map]
    rfl
  funext bucket
  rw [bare, bare, same]

theorem toggleIsPlain_of_bare {settings : ThemeSettings}
    (same : second.elements.map Element.bare = first.elements.map Element.bare)
    (plain : first.ToggleIsPlain settings) : second.ToggleIsPlain settings := by
  intro handle element toggle found
  rw [elementById_of_bare settings.toggleId same] at toggle
  -- Without their texts the two toggles are one and the same element.
  have bare := congrArg (fun elements => elements[handle]?) same
  simp only [List.getElem?_map] at bare
  rw [show second.elements[handle]? = some element from found] at bare
  obtain ⟨before, held, alike⟩ := Option.map_eq_some_iff.mp bare.symm
  have className : element.className = before.className := (congrArg Element.className alike).symm
  rw [Element.isAged_of_className className]
  exact plain handle before toggle held

theorem countP_setText {counts : Element → Bool}
    (outside : ∀ element : Element, element.isAged = false → counts element = false)
    (plain : ∀ element, document.element? handle = some element → element.isAged = false)
    (text : String) :
    (document.setText handle text).elements.countP counts = document.elements.countP counts := by
  cases found : document.element? handle with
  | none =>
    have beyond : document.elements.length ≤ handle := List.getElem?_eq_none_iff.mp found
    have kept : (document.setText handle text).elements = document.elements :=
      List.modify_eq_self beyond
    rw [kept]
  | some element =>
    have unaged := plain element found
    have written : ({ element with text } : Element).isAged = false :=
      (Element.isAged_of_className rfl).trans unaged
    have replaced : (document.setText handle text).elements =
        document.elements.set handle { element with text } :=
      congrArg Document.elements (update_of_found found fun element => { element with text })
    have counted := Sweep.countP_set_settled found (outside _ written)
    rw [outside element unaged, if_neg Bool.false_ne_true, Nat.add_zero] at counted
    rw [replaced, counted]

end Document

namespace Sweep

variable (settings : AgeSettings) (now : Timestamp) (document : Document)

theorem elementById_run (id : String) :
    (run settings now document).document.elementById id = document.elementById id := by
  have kept : ∀ element : Element,
      (settings.refresh now AgeBucket.table element).id = element.id := by
    intro element
    unfold AgeSettings.refresh AgeSettings.relabel
    split
    · split <;> rfl
    · rfl
  unfold Document.elementById
  rw [elements_run, List.findIdx?_map]
  simp only [Function.comp_def, kept]

theorem countOf_run (handle : Handle) :
    (run settings now document).document.countOf handle = document.countOf handle := by
  rw [Document.countOf, element?_run, Option.isSome_map]
  rfl

theorem toggleIsPlain_run {theme : ThemeSettings} (plain : document.ToggleIsPlain theme) :
    (run settings now document).document.ToggleIsPlain theme := by
  intro handle element toggle found
  rw [elementById_run] at toggle
  rw [element?_run] at found
  obtain ⟨before, held, rfl⟩ := Option.map_eq_some_iff.mp found
  rw [AgeSettings.isAged_refresh]
  exact plain handle before toggle held

theorem document_run_root (root : Table) :
    (run settings now { document with root }).document =
      { (run settings now document).document with root } := by
  apply Document.ext
  · exact root_run settings now _
  · rw [elements_run, elements_run]
  · rw [textWrites_run, textWrites_run]
  · rw [classWrites_run, classWrites_run]

theorem element?_run_setText {handle : Handle}
    (plain : ∀ element, document.element? handle = some element → element.isAged = false)
    (text : String) (other : Handle) :
    (run settings now (document.setText handle text)).document.element? other =
      ((run settings now document).document.setText handle text).element? other := by
  rw [element?_run, Document.element?_setText, Document.element?_setText, element?_run]
  split
  · rename_i same
    subst same
    cases found : document.element? other with
    | none => rfl
    | some element =>
      -- Before and after the text is set, no sweep has anything to do with the element.
      have unaged := plain element found
      have written : ({ element with text } : Element).isAged = false :=
        (Element.isAged_of_className rfl).trans unaged
      rw [Option.map_some, Option.map_some, Option.map_some, Option.map_some,
        settings.refresh_of_outside now unaged, settings.refresh_of_outside now written]
  · rfl

theorem document_run_setText {handle : Handle}
    (plain : ∀ element, document.element? handle = some element → element.isAged = false)
    (text : String) :
    (run settings now (document.setText handle text)).document =
      (run settings now document).document.setText handle text := by
  have outside : ∀ stale : Element → Bool, ∀ element : Element, element.isAged = false →
      (element.isAged && stale element) = false := by
    intro stale element unaged
    rw [unaged, Bool.false_and]
  have texts := Document.countP_setText (outside (settings.isTextStale now)) plain text
  have classes := Document.countP_setText (outside (settings.isClassStale now)) plain text
  apply Document.ext
  · rw [root_run, Document.root_setText, Document.root_setText, root_run]
  · exact List.ext_getElem? (element?_run_setText settings now document plain text)
  · rw [textWrites_run, texts, Document.textWrites_setText, Document.textWrites_setText, textWrites_run,
      countOf_run, Nat.add_right_comm]
  · rw [classWrites_run, classes, Document.classWrites_setText, Document.classWrites_setText,
      classWrites_run]

theorem delay_run_of_bare {first second : Document}
    (same : second.elements.map Element.bare = first.elements.map Element.bare) :
    (run settings now second).delay = (run settings now first).delay := by
  rw [delay_run_eq, delay_run_eq, Document.populates_of_bare same]

end Sweep

namespace ThemeSettings

variable (settings : ThemeSettings)

variable (ages : AgeSettings) (now : Timestamp)

theorem document_run_mark (theme : Theme) (document : Document) :
    (Sweep.run ages now (settings.mark theme document)).document =
      settings.mark theme (Sweep.run ages now document).document := by
  rw [mark_eq, mark_eq, Sweep.document_run_root, Sweep.root_run]

theorem document_run_display (theme : Theme) {document : Document}
    (plain : document.ToggleIsPlain settings) :
    (Sweep.run ages now (settings.display theme document)).document =
      settings.display theme (Sweep.run ages now document).document := by
  unfold display
  rw [Sweep.elementById_run]
  cases toggle : document.elementById settings.toggleId with
  | none => rfl
  | some handle =>
    exact Sweep.document_run_setText ages now document (fun element => plain handle element toggle) theme.name

end ThemeSettings

namespace ThemeEffect

variable (effect : ThemeEffect) (settings : ThemeSettings)

theorem document_run_write (ages : AgeSettings) (now : Timestamp) {document : Document}
    (plain : document.ToggleIsPlain settings) :
    (Sweep.run ages now (effect.write settings document)).document =
      effect.write settings (Sweep.run ages now document).document := by
  obtain ⟨_, marked?, shown?⟩ := effect
  -- What is marked on the root leaves the toggle as plain as it is.
  have marked : ∀ theme, (settings.mark theme document).ToggleIsPlain settings := by
    intro theme
    exact Document.toggleIsPlain_of_bare (congrArg _ (settings.elements_mark theme document)) plain
  cases marked? <;> cases shown? <;>
    simp [write, changeIfAny, settings.document_run_mark, settings.document_run_display, plain, marked]

end ThemeEffect

namespace Page

/-- What keeps the ages of a page up to date, at each turn at a time. It answers how long to wait. -/
def sweeps (settings : AgeSettings) : Party Page Timestamp UInt64 where
  next page now := (page.tick settings now).1
  answer page now := (page.tick settings now).2

theorem store_sweeps (settings : AgeSettings) (page : Page) (now : Timestamp) :
    ((sweeps settings).next page now).store = page.store := by
  simp only [sweeps, tick, report]

theorem document_sweeps (settings : AgeSettings) (page : Page) (now : Timestamp) :
    ((sweeps settings).next page now).document = (Sweep.run settings now page.document).document := by
  simp only [sweeps, tick, report]

theorem answer_sweeps (settings : AgeSettings) (page : Page) (now : Timestamp) :
    (sweeps settings).answer page now = (Sweep.run settings now page.document).delay := by
  simp only [sweeps, tick]

theorem seesOnly_sweeps (settings : AgeSettings) : (sweeps settings).SeesOnly visible where
  next same now := by
    obtain ⟨store, document⟩ := Prod.mk.inj same
    rw [visible, visible, store_sweeps, store_sweeps, document_sweeps, document_sweeps, store, document]
  answer same now := by
    rw [answer_sweeps, answer_sweeps, (Prod.mk.inj same).2]

theorem toggleIsPlain_sweep {settings : Settings} {page : Page}
    (plain : page.document.ToggleIsPlain settings.theme) (now : Timestamp) :
    ((sweeps settings.age).next page now).document.ToggleIsPlain settings.theme := by
  rw [document_sweeps]
  exact Sweep.toggleIsPlain_run settings.age now page.document plain

theorem swap_sweeps (settings : Settings) {page : Page}
    (plain : page.document.ToggleIsPlain settings.theme) (step : ThemeStep) (now : Timestamp) :
    ((themes settings.theme).next ((sweeps settings.age).next page now) step).visible =
      ((sweeps settings.age).next ((themes settings.theme).next page step) now).visible := by
  rw [visible, visible, store_themes, document_themes, store_sweeps, document_sweeps, store_sweeps,
    document_sweeps, store_themes, document_themes, ThemeEffect.document_run_write _ _ _ _ plain]

theorem independent_sweeps (settings : Settings) :
    Party.Independent (fun page : Page => page.document.ToggleIsPlain settings.theme) visible
      (themes settings.theme) (sweeps settings.age) where
  seesLeft := seesOnly_themes settings.theme
  seesRight := seesOnly_sweeps settings.age
  holdsLeft {page} plain step :=
    Document.toggleIsPlain_of_bare (sameElsewhere_step settings.theme page step).elements plain
  holdsRight := toggleIsPlain_sweep
  swap plain step now := swap_sweeps settings plain step now
  answerLeft {page} _ step now := by
    have kept := store_sweeps settings.age page now
    exact answer?_of_get settings.theme (by rw [kept]) step
  answerRight {page} _ step now := by
    rw [answer_sweeps, answer_sweeps]
    exact Sweep.delay_run_of_bare settings.age now (sameElsewhere_step settings.theme page step).elements

/-- In whatever turns the operations of the theme and the sweeps of a page are taken, what is left behind is
what all the operations and then all the sweeps would leave, the counts of writes included, and each of them
answers what it would answer then. The store may fail whenever it likes. -/
theorem theme_and_sweeps_are_independent (settings : Settings) (page : Page)
    (plain : page.document.ToggleIsPlain settings.theme) (operations : List ThemeStep)
    (times : List Timestamp) (turns : List (ThemeStep ⊕ Timestamp)) (ofOperations : lefts turns = operations)
    (ofTimes : rights turns = times) :
    let both := (themes settings.theme).beside (sweeps settings.age)
    let themed := (themes settings.theme).run page operations
    let last := (sweeps settings.age).run themed times
    (both.run page turns).store = last.store ∧
      (both.run page turns).document = last.document ∧
      lefts (both.answers page turns) = (themes settings.theme).answers page operations ∧
      rights (both.answers page turns) = (sweeps settings.age).answers themed times := by
  subst ofOperations ofTimes
  have independent := independent_sweeps settings
  have same := Prod.mk.inj (independent.run_beside plain turns)
  refine ⟨same.1, same.2, independent.lefts_answers_beside plain turns, ?_⟩
  -- The sweeps answer what they would answer if no operation had gone before.
  rw [independent.rights_answers_beside plain turns,
    independent.symm.answers_run plain (rights turns) (lefts turns)]

/-- A minute and an hour pass between operations on a store that fails from the first to the last. -/
theorem theme_and_sweeps_are_independent_of_failure :
    let document : Document :=
      { elements := [.labelled "age-mins" "data-ut" "0", { id := some "theme-toggle" }] }
    let page : Page := { store := .unavailable, document }
    let turns : List (ThemeStep ⊕ Timestamp) := [.inr 60, .inl .cycle, .inl .init, .inr 7200, .inl .cycle]
    let both := (themes {}).beside (sweeps {})
    document.ToggleIsPlain {} ∧ lefts turns = [.cycle, .init, .cycle] ∧ rights turns = [60, 7200] ∧
      (both.run page turns).document =
        ((sweeps {}).run ((themes {}).run page [.cycle, .init, .cycle]) [60, 7200]).document ∧
      lefts (both.answers page turns) = [some .light, none, some .light] ∧
      rights (both.answers page turns) = [10, 10] := by
  intro document page turns both
  have plain : document.ToggleIsPlain {} := by decide
  obtain ⟨_, documents, operations, sweeps⟩ :=
    theme_and_sweeps_are_independent {} page plain _ _ turns rfl rfl
  exact ⟨plain, rfl, rfl, documents, operations, sweeps.trans (by decide)⟩

end Page

end PageUpkeep
