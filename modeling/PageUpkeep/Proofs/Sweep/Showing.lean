import PageUpkeep.Proofs.Sweep.History

/-! What showing an age writes, and what is reported of it.

The report is made from what was read before, not from what was written. For an element of the document the two
come to the same. A number that names no element reads as empty, as no label does, so each time it is reported as
written to, though nothing is there to write to.
-/

set_option autoImplicit false

namespace PageUpkeep

theorem AgeLabel.text_ne_empty (label : AgeLabel) : label.text ≠ "" := by
  intro empty
  have characters := congrArg String.toList empty
  simp [text] at characters

namespace Document

variable {document : Document} {handle : Handle} {element : Element}

section Missing

variable (missing : document.element? handle = none)

include missing

theorem update_of_missing (change : Element → Element) : document.update handle change = document := by
  have outside : document.elements.length ≤ handle := List.getElem?_eq_none_iff.mp missing
  rw [update, List.modify_eq_self outside]

theorem setText_of_missing (text : String) : document.setText handle text = document := by
  simp [setText, countOf, missing, update_of_missing missing]

theorem setClassName_of_missing (className : String) :
    document.setClassName handle className = document := by
  simp [setClassName, countOf, missing, update_of_missing missing]

theorem showAge_of_missing (age : UInt64) : document.showAge handle age = (document, true) := by
  -- The empty text is no label's, so it is taken to be out of date.
  have stale : (document.text handle != (AgeLabel.ofAge age).text) = true := by
    simp [text, missing, Ne.symm (AgeLabel.text_ne_empty _)]
  simp [showAge, stale, setText_of_missing missing, setClassName_of_missing missing]

end Missing

theorem showAge_of_current {age : UInt64} (found : document.element? handle = some element)
    (sameText : element.text = (AgeLabel.ofAge age).text)
    (sameClass : element.className = (AgeLabel.ofAge age).className) :
    document.showAge handle age = (document, false) := by
  simp [showAge, text_of_found found, className_of_found found, sameText, sameClass]

theorem document_showAge (document : Document) (handle : Handle) (age : UInt64) :
    (document.showAge handle age).1 =
      { document.update handle fun element =>
          { element with
            text := (AgeLabel.ofAge age).text, className := (AgeLabel.ofAge age).className } with
        textWrites := document.textWrites +
          if (document.element? handle).any fun element => element.text != (AgeLabel.ofAge age).text
          then 1 else 0
        classWrites := document.classWrites +
          if (document.element? handle).any fun element =>
            element.className != (AgeLabel.ofAge age).className
          then 1 else 0 } := by
  cases found : document.element? handle with
  | none =>
    rw [showAge_of_missing found, update_of_missing found]
    rfl
  | some element =>
    rw [showAge_of_found found, update_of_found found]
    rfl

theorem element?_showAge (document : Document) (handle other : Handle) (age : UInt64) :
    (document.showAge handle age).1.element? other =
      if other = handle then
        (document.element? other).map fun element =>
          { element with
            text := (AgeLabel.ofAge age).text, className := (AgeLabel.ofAge age).className }
      else document.element? other := by
  rw [document_showAge]
  exact element?_update document handle other _

theorem showAge_snd_iff (document : Document) (handle : Handle) (age : UInt64) :
    (document.showAge handle age).2 = true ↔
      document.writes < (document.showAge handle age).1.writes ∨ document.element? handle = none := by
  rw [document_showAge]
  cases found : document.element? handle with
  | none => simp [showAge_of_missing found]
  | some element =>
    have counted : ∀ staleText staleClass : Bool, (staleText || staleClass) = true ↔
        document.textWrites + document.classWrites <
          document.textWrites + (if staleText then 1 else 0) +
            (document.classWrites + if staleClass then 1 else 0) := by
      intro staleText staleClass
      cases staleText with
      | false => cases staleClass <;> simp
      | true =>
        rw [Bool.true_or, if_pos rfl]
        cases staleClass <;> simp only [if_true, Bool.false_eq_true, if_false, true_iff] <;> omega
    rw [showAge_snd_of_found found, counted]
    simp [writes]

theorem showAge_again (document : Document) (handle : Handle) (age : UInt64) :
    (document.showAge handle age).1.showAge handle age =
      ((document.showAge handle age).1, (document.element? handle).isNone) := by
  cases found : document.element? handle with
  | none =>
    rw [showAge_of_missing found]
    exact showAge_of_missing found age
  | some element =>
    have shown := element?_showAge document handle handle age
    rw [if_pos rfl, found, Option.map_some] at shown
    exact showAge_of_current shown rfl rfl

/-- Whatever number is given and whatever age: a report means a write, unless the number names no element, when
there is a report each time and never a write. Either count goes on by one at most, just where the element's text
or class was not that of the age. A second time nothing is written, and it is reported only of a number without
an element. The root and all other elements stay as they are, and the element itself but for these two. -/
theorem showAge_reports (document : Document) (handle : Handle) (age : UInt64) :
    let label := AgeLabel.ofAge age
    let shown := document.showAge handle age
    let again := shown.1.showAge handle age
    (shown.2 = true ↔ document.writes < shown.1.writes ∨ document.element? handle = none) ∧
      (again.2 = true ↔ document.element? handle = none) ∧ again.1 = shown.1 ∧
      (shown.1.textWrites = document.textWrites +
        if (document.element? handle).any fun element => element.text != label.text
        then 1 else 0) ∧
      (shown.1.classWrites = document.classWrites +
        if (document.element? handle).any fun element => element.className != label.className
        then 1 else 0) ∧
      shown.1.root = document.root ∧
      ∀ other, shown.1.element? other =
        if other = handle then
          (document.element? other).map fun element =>
            { element with text := label.text, className := label.className }
        else document.element? other := by
  intro label shown again
  have repeated : again = (shown.1, (document.element? handle).isNone) :=
    showAge_again document handle age
  have written := document_showAge document handle age
  have rootKept : shown.1.root = document.root := by
    rw [congrArg root written]
    rfl
  refine ⟨showAge_snd_iff document handle age, ?_, ?_, congrArg textWrites written,
    congrArg classWrites written, rootKept,
    fun other => element?_showAge document handle other age⟩
  · rw [repeated]
    exact Option.isNone_iff_eq_none
  · rw [repeated]

/-- In a document without elements a write is reported, once and again, and there is none. -/
theorem report_without_write :
    let shown := Document.empty.showAge 0 125
    let again := shown.1.showAge 0 125
    ¬ (shown.2 = true ↔ Document.empty.writes < shown.1.writes) ∧ ¬ again.2 = false := by
  intro shown again
  have reported : shown = (Document.empty, true) := showAge_of_missing rfl 125
  have repeated : again = (Document.empty, true) := by
    have once : again = shown.1.showAge 0 125 := rfl
    rw [once, reported]
    exact showAge_of_missing rfl 125
  rw [repeated, reported]
  simp

end Document

end PageUpkeep
