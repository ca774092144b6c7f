import PageUpkeep.Table
import PageUpkeep.Text.Blank

/-! A flat document: attributes of the root, and elements in the order in which they were added.

Elements are never removed, so the number of an element, counted from zero, names it for good. Writes
of a text or of a class are counted, one by one; a number that names no element reads as empty, and a
write to it changes nothing and counts for nothing.
-/

set_option autoImplicit false

namespace PageUpkeep

structure Element where
  id : Option String := none
  className : String := ""
  text : String := ""
  attributes : Table := .empty
  deriving DecidableEq, Repr

namespace Element

def hasClass (element : Element) (className : String) : Bool :=
  (Text.words element.className.toList).contains className.toList

def labelled (className attributeName value : String) : Element :=
  { className, attributes := Table.empty.insert attributeName value }

end Element

abbrev Handle := Nat

structure Document where
  root : Table := .empty
  elements : List Element := []
  textWrites : Nat := 0
  classWrites : Nat := 0
  deriving DecidableEq, Repr

namespace Document

def empty : Document := {}

instance : Inhabited Document := ⟨empty⟩

/-- Adds an element after all others; its number is how many there were. -/
def add (document : Document) (element : Element) : Document :=
  { document with elements := document.elements ++ [element] }

def writes (document : Document) : Nat :=
  document.textWrites + document.classWrites

def element? (document : Document) (handle : Handle) : Option Element :=
  document.elements[handle]?

def rootAttribute (document : Document) (name : String) : Option String :=
  document.root.get? name

def elementById (document : Document) (id : String) : Option Handle :=
  document.elements.findIdx? fun element => element.id == some id

def elementsByClass (document : Document) (className : String) : List Handle :=
  (List.range document.elements.length).filter fun handle =>
    match document.element? handle with
    | some element => element.hasClass className
    | none => false

def attributeOf (document : Document) (handle : Handle) (name : String) : Option String :=
  (document.element? handle).bind fun element => element.attributes.get? name

def text (document : Document) (handle : Handle) : String :=
  ((document.element? handle).map Element.text).getD ""

def className (document : Document) (handle : Handle) : String :=
  ((document.element? handle).map Element.className).getD ""

def update (document : Document) (handle : Handle) (change : Element → Element) : Document :=
  { document with elements := document.elements.modify handle change }

def countOf (document : Document) (handle : Handle) : Nat :=
  if (document.element? handle).isSome then 1 else 0

def setRootAttribute (document : Document) (name value : String) : Document :=
  { document with root := document.root.insert name value }

def removeRootAttribute (document : Document) (name : String) : Document :=
  { document with root := document.root.erase name }

/-- Sets an attribute of an element. This is part of making a page and not counted as a write. -/
def setAttribute (document : Document) (handle : Handle) (name value : String) : Document :=
  document.update handle fun element =>
    { element with attributes := element.attributes.insert name value }

def setText (document : Document) (handle : Handle) (text : String) : Document :=
  { document.update handle fun element => { element with text } with
    textWrites := document.textWrites + document.countOf handle }

def setClassName (document : Document) (handle : Handle) (className : String) : Document :=
  { document.update handle fun element => { element with className } with
    classWrites := document.classWrites + document.countOf handle }

/-! ## What writing does to what is read -/

theorem element?_update (document : Document) (handle other : Handle) (change : Element → Element) :
    (document.update handle change).element? other =
      if other = handle then (document.element? other).map change else document.element? other := by
  unfold element? update
  rw [List.getElem?_modify]
  by_cases same : other = handle
  · simp [same]
  · simp [same, Ne.symm same]

@[simp] theorem length_update (document : Document) (handle : Handle) (change : Element → Element) :
    (document.update handle change).elements.length = document.elements.length := by
  simp [update]

theorem element?_setText (document : Document) (handle other : Handle) (text : String) :
    (document.setText handle text).element? other =
      if other = handle then (document.element? other).map fun element => { element with text }
      else document.element? other :=
  element?_update document handle other _

theorem mem_elementsByClass (document : Document) (className : String) (handle : Handle) :
    handle ∈ document.elementsByClass className ↔
      ∃ element, document.element? handle = some element ∧ element.hasClass className = true := by
  unfold elementsByClass
  rw [List.mem_filter, List.mem_range]
  constructor
  · rintro ⟨_, holds⟩
    split at holds
    · rename_i element found
      exact ⟨element, found, holds⟩
    · cases holds
  · rintro ⟨element, found, holds⟩
    exact ⟨(List.getElem?_eq_some_iff.mp found).1, by simp [found, holds]⟩

end Document

end PageUpkeep
