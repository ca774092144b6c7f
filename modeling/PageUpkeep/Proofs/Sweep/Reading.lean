import PageUpkeep.Proofs.Sweep.Pointwise
import PageUpkeep.Proofs.Text.IntegerForm

/-! The one grammar of timestamps in attributes.

A sweep takes an element to tell a moment just where the text of its attribute, but for blanks at its ends, has the
form of an integer of 64 bits. An element with any other text is passed over: it is reported, and the sweep leaves
it as it was.
-/

set_option autoImplicit false

namespace PageUpkeep

namespace Timestamp

/-- A text that tells a number of seconds: a decimal integer of 64 bits, blanks around it aside. -/
def Tells (value : String) (seconds : Int) : Prop :=
  ∃ core, Text.TrimsTo value.toList core ∧ Text.Integer.IntegerForm core seconds ∧
    -9223372036854775808 ≤ seconds ∧ seconds ≤ 9223372036854775807

theorem ofAttribute?_eq_some_iff {value : String} {timestamp : Timestamp} :
    ofAttribute? value = some timestamp ↔ Tells value timestamp.toInt := by
  have least : -9223372036854775808 ≤ timestamp.toInt := Int64.le_toInt timestamp
  have greatest : timestamp.toInt ≤ 9223372036854775807 := Int.le_sub_one_of_lt (Int64.toInt_lt timestamp)
  have told : ofAttribute? value = some timestamp ↔
      Text.Integer.readInt64 (Text.trim value.toList) = .ok timestamp := by
    unfold ofAttribute?
    cases Text.Integer.readInt64 (Text.trim value.toList) <;> simp [Except.toOption]
  -- A text trims to one text only, and every timestamp is inside the bounds.
  simp only [Tells, ← Text.trim_eq_iff, exists_eq_left', least, greatest, and_true]
  rw [told, Text.Integer.readInt64_eq_ok_iff]

theorem exists_ofAttribute?_iff {value : String} {seconds : Int} :
    (∃ timestamp, ofAttribute? value = some timestamp ∧ timestamp.toInt = seconds) ↔ Tells value seconds := by
  constructor
  · rintro ⟨timestamp, read, rfl⟩
    exact ofAttribute?_eq_some_iff.mp read
  · intro tells
    obtain ⟨core, trims, form, least, greatest⟩ := tells
    have same : (Int64.ofInt seconds).toInt = seconds :=
      Int64.toInt_ofInt_of_le least (Int.lt_of_le_sub_one greatest)
    refine ⟨Int64.ofInt seconds, ofAttribute?_eq_some_iff.mpr ?_, same⟩
    rw [same]
    exact ⟨core, trims, form, least, greatest⟩

theorem ofAttribute?_eq_none_iff {value : String} :
    ofAttribute? value = none ↔ ∀ seconds, ¬ Tells value seconds := by
  simp only [← exists_ofAttribute?_iff, Option.eq_none_iff_forall_ne_some]
  constructor
  · rintro untold _ ⟨timestamp, read, _⟩
    exact untold timestamp read
  · intro untold timestamp read
    exact untold timestamp.toInt ⟨timestamp, read, rfl⟩

end Timestamp

namespace AgeSettings

variable {settings : AgeSettings} {document : Document} {handle : Handle} {value : String}

theorem timestampOf_eq_ok_iff (present : document.attributeOf handle settings.timestampAttribute = some value)
    {timestamp : Timestamp} :
    settings.timestampOf document handle = .ok timestamp ↔
      Timestamp.ofAttribute? value = some timestamp := by
  cases read : Timestamp.ofAttribute? value <;> simp [timestampOf, present, read]

theorem timestampOf_of_untold (present : document.attributeOf handle settings.timestampAttribute = some value)
    (untold : Timestamp.ofAttribute? value = none) :
    settings.timestampOf document handle =
      .error (.labelWithInvalidTimestamp settings.timestampAttribute value) := by
  simp [timestampOf, present, untold]

theorem timestampOf_added (settings : AgeSettings) (document : Document) (className : String)
    (timestamp : Timestamp) :
    settings.timestampOf
        (document.add (.labelled className settings.timestampAttribute timestamp.toAttribute))
        document.elements.length = .ok timestamp := by
  have present : (document.add (.labelled className settings.timestampAttribute
      timestamp.toAttribute)).attributeOf document.elements.length settings.timestampAttribute =
        some timestamp.toAttribute := by
    simp [Document.attributeOf, Document.element?, Document.add, Element.labelled, Table.get?_insert]
  exact (timestampOf_eq_ok_iff present).mpr timestamp.ofAttribute?_toAttribute

end AgeSettings

namespace Sweep

variable {settings : AgeSettings} {handle : Handle} {value : String}

theorem element?_run_of_untold {document : Document} (now : Timestamp)
    (present : document.attributeOf handle settings.timestampAttribute = some value)
    (untold : Timestamp.ofAttribute? value = none) :
    (run settings now document).document.element? handle = document.element? handle := by
  obtain ⟨element, found, stored⟩ := Option.bind_eq_some_iff.mp present
  have silent : settings.label? now element = none := by
    simp [AgeSettings.label?, AgeSettings.moment?, stored, untold]
  rw [element?_run, found, Option.map_some, AgeSettings.refresh, settings.relabel_of_none now silent, ite_self]

/-- Whatever stands in the attribute: the sweep takes it for the seconds that it tells by the grammar, and a visit
shows the age since then. Where it tells none, a visit comes to a report and the sweep leaves the element as it
was. And an element made with a timestamp is read as that. -/
theorem reads_one_grammar (settings : AgeSettings) (now : Timestamp) (sweep : Sweep) :
    (∀ handle value, sweep.document.attributeOf handle settings.timestampAttribute = some value →
      (∀ seconds : Int,
        (∃ timestamp, settings.timestampOf sweep.document handle = .ok timestamp ∧
          timestamp.toInt = seconds) ↔ Timestamp.Tells value seconds) ∧
      (∀ timestamp : Timestamp, Timestamp.Tells value timestamp.toInt →
        (visit settings now sweep handle).document =
            (sweep.document.showAge handle (timestamp.age now)).1 ∧
          (visit settings now sweep handle).seen = sweep.seen + 1) ∧
      ((∀ seconds, ¬ Timestamp.Tells value seconds) →
        visit settings now sweep handle =
            { sweep with
              log := sweep.log ++ [.labelWithInvalidTimestamp settings.timestampAttribute value] } ∧
          (run settings now sweep.document).document.element? handle =
            sweep.document.element? handle)) ∧
    ∀ (className : String) (timestamp : Timestamp),
      settings.timestampOf
          (sweep.document.add (.labelled className settings.timestampAttribute timestamp.toAttribute))
          sweep.document.elements.length = .ok timestamp := by
  refine ⟨?_, settings.timestampOf_added sweep.document⟩
  intro handle value present
  refine ⟨?_, ?_, ?_⟩
  · intro seconds
    simp only [AgeSettings.timestampOf_eq_ok_iff present]
    exact Timestamp.exists_ofAttribute?_iff
  · intro timestamp tells
    have read := (AgeSettings.timestampOf_eq_ok_iff present).mpr (Timestamp.ofAttribute?_eq_some_iff.mpr tells)
    rw [visit, read]
    exact ⟨rfl, rfl⟩
  · intro unreadable
    have untold := Timestamp.ofAttribute?_eq_none_iff.mpr unreadable
    refine ⟨?_, element?_run_of_untold now present untold⟩
    rw [visit, AgeSettings.timestampOf_of_untold present untold]

theorem reads_one_grammar_of_padded :
    let settings : AgeSettings := {}
    let padded : String := "\u2003+007\n"
    let document : Document :=
      { elements := [.labelled "age-mins" "data-ut" padded, .labelled "age-mins" "data-ut" "yesterday"] }
    document.attributeOf 0 "data-ut" = some padded ∧
      document.attributeOf 1 "data-ut" = some "yesterday" ∧
      Timestamp.Tells padded 7 ∧ (∀ seconds, ¬ Timestamp.Tells "yesterday" seconds) ∧
      (∃ timestamp, settings.timestampOf document 0 = .ok timestamp ∧ timestamp.toInt = 7) ∧
      (visit settings 127 { document } 0).document = (document.showAge 0 120).1 ∧
      visit settings 127 { document } 1 =
        { document, log := [.labelWithInvalidTimestamp "data-ut" "yesterday"] } ∧
      (run settings 127 document).document.element? 1 = document.element? 1 := by
  intro settings padded document
  have first : document.attributeOf 0 "data-ut" = some padded := by decide
  have second : document.attributeOf 1 "data-ut" = some "yesterday" := by decide
  have tells : Timestamp.Tells padded 7 :=
    Timestamp.exists_ofAttribute?_iff.mp ⟨7, by decide, by decide⟩
  have untold : ∀ seconds, ¬ Timestamp.Tells "yesterday" seconds :=
    Timestamp.ofAttribute?_eq_none_iff.mp (by decide)
  obtain ⟨reads, _⟩ := reads_one_grammar settings 127 { document }
  obtain ⟨taken, shown, _⟩ := reads 0 padded first
  obtain ⟨_, _, passed⟩ := reads 1 "yesterday" second
  have age : Timestamp.age 7 127 = 120 := by decide
  have visited := (shown 7 tells).1
  rw [age] at visited
  exact ⟨first, second, tells, untold, (taken 7).mpr tells, visited, passed untold⟩

end Sweep

end PageUpkeep
