import PageUpkeep.Html.Escape
import PageUpkeep.Proofs.Text.FixedWidth

/-! Markup of one element, and its attributes and its text read off it again.

The values of attributes stand in apostrophes, and none of the texts holds anything that would have to be
escaped. So apostrophes are only where values begin and end, and what comes before a value ends in its name.
-/

set_option autoImplicit false

namespace PageUpkeep.Html

variable {text : String}

def IsPlain (text : String) : Prop :=
  text.toList.all isPlain = true
  deriving Decidable

@[simp] theorem isPlain_append {first second : String} :
    IsPlain (first ++ second) ↔ IsPlain first ∧ IsPlain second := by
  simp [IsPlain]

theorem IsPlain.ofDecimals (decimals : ∀ c ∈ text.toList, Text.IsDecimal c) : IsPlain text :=
  List.all_eq_true.mpr fun c member => (decimals c member).isPlain

theorem IsPlain.escape (plain : IsPlain text) : Html.escape text = text :=
  escape_of_isPlain plain

theorem IsPlain.escapeChar {c : Char} (plain : IsPlain text) (member : c ∈ text.toList) :
    Html.escapeChar c = [c] :=
  escapeChar_of_isPlain (List.all_eq_true.mp plain c member)

theorem IsPlain.notMem {c : Char} (plain : IsPlain text) (special : isPlain c = false) :
    c ∉ text.toList := by
  intro member
  rw [List.all_eq_true.mp plain c member] at special
  exact Bool.noConfusion special

def attributeText (entry : String × String) : String :=
  " " ++ entry.1 ++ "='" ++ entry.2 ++ "'"

def element (tag : String) (attributes : List (String × String)) (text : String) : String :=
  "<" ++ tag ++ String.join (attributes.map attributeText) ++ ">" ++ text ++ "</" ++ tag ++ ">"

/-- The value that comes after a name, in a list of texts of which every second one is a value. -/
def valueOf (name : String) : List (List Char) → Option String
  | before :: value :: rest =>
    if ' ' :: name.toList ++ ['='] <:+ before then some (String.ofList value) else valueOf name rest
  | _ => none

def attribute? (name markup : String) : Option String :=
  valueOf name (markup.toList.splitOn '\'')

def content (markup : String) : String :=
  let inside := (markup.toList.dropWhile (· != '>')).drop 1
  String.ofList (inside.takeWhile (· != '<'))

/-- Name and value are plain, and the name is a single word. -/
structure IsClear (entry : String × String) : Prop where
  name : IsPlain entry.1
  value : IsPlain entry.2
  word : ' ' ∉ entry.1.toList

theorem eq_of_suffix {name other : List Char} (word : ' ' ∉ other)
    (ends : ' ' :: name ++ ['='] <:+ ' ' :: other ++ ['=']) : name = other := by
  rcases List.suffix_cons_iff.mp ends with same | inside
  · simpa using same
  · have blank : ' ' ∈ other ++ ['='] := inside.subset List.mem_cons_self
    simp [word] at blank

theorem suffix_iff {name other front : List Char} (word : ' ' ∉ name) (otherWord : ' ' ∉ other) :
    ' ' :: name ++ ['='] <:+ front ++ (' ' :: other ++ ['=']) ↔ name = other := by
  constructor
  · intro ends
    rcases List.suffix_or_suffix_of_suffix ends (List.suffix_append front _) with shorter | longer
    · exact eq_of_suffix otherWord shorter
    · exact (eq_of_suffix word longer).symm
  · rintro rfl
    exact List.suffix_append front _

variable {attributes : List (String × String)} {tag : String}

@[simp] theorem toList_attributeText (entry : String × String) :
    (attributeText entry).toList =
      ' ' :: (entry.1.toList ++ '=' :: '\'' :: (entry.2.toList ++ ['\''])) := by
  simp [attributeText]

@[simp] theorem toList_element (tag : String) (attributes : List (String × String)) (text : String) :
    (element tag attributes text).toList =
      '<' :: (tag.toList ++ (attributes.flatMap (fun entry => (attributeText entry).toList) ++
        '>' :: (text.toList ++ '<' :: '/' :: (tag.toList ++ ['>'])))) := by
  simp [element, List.flatMap_map]

theorem valueOf_attributes {name : String} (word : ' ' ∉ name.toList)
    (clear : ∀ entry ∈ attributes, IsClear entry) {front back : List Char}
    (quiet : '\'' ∉ front) (closing : '\'' ∉ back) :
    valueOf name
        ((front ++ (attributes.flatMap (fun entry => (attributeText entry).toList) ++ back)).splitOn '\'') =
      attributes.lookup name := by
  induction attributes generalizing front with
  | nil =>
    have none : '\'' ∉ front ++ back := by simp [quiet, closing]
    simp [List.splitOn_eq_singleton none, valueOf]
  | cons entry rest ih =>
    obtain ⟨plainName, plainValue, entryWord⟩ := clear entry List.mem_cons_self
    have before : '\'' ∉ front ++ (' ' :: entry.1.toList ++ ['=']) := by
      simp [quiet, plainName.notMem (by decide : isPlain '\'' = false)]
    have value : '\'' ∉ entry.2.toList := plainValue.notMem (by decide)
    have later := ih (fun entry member => clear entry (List.mem_cons_of_mem _ member)) (List.not_mem_nil)
    -- The value of the first attribute stands between the first two quotes.
    have text : front ++ ((entry :: rest).flatMap (fun entry => (attributeText entry).toList) ++ back) =
        (front ++ (' ' :: entry.1.toList ++ ['='])) ++ '\'' :: (entry.2.toList ++ '\'' ::
          ([] ++ (rest.flatMap (fun entry => (attributeText entry).toList) ++ back))) := by
      simp
    rw [text, List.splitOn_append_cons_self_of_not_mem before,
      List.splitOn_append_cons_self_of_not_mem value, valueOf, later, List.lookup_cons]
    simp only [suffix_iff word entryWord, String.toList_inj, String.ofList_toList]
    by_cases same : name = entry.1
    · simp [same]
    · simp [same, beq_eq_false_iff_ne.mpr same]

theorem attribute?_element {name : String} (word : ' ' ∉ name.toList) (tagPlain : IsPlain tag)
    (clear : ∀ entry ∈ attributes, IsClear entry) (plain : IsPlain text) :
    attribute? name (element tag attributes text) = attributes.lookup name := by
  have apostrophe : isPlain '\'' = false := by decide
  have quiet : '\'' ∉ '<' :: tag.toList := by simp [tagPlain.notMem apostrophe]
  have closing : '\'' ∉ '>' :: (text.toList ++ '<' :: '/' :: (tag.toList ++ ['>'])) := by
    simp [tagPlain.notMem apostrophe, plain.notMem apostrophe]
  rw [attribute?, toList_element]
  exact valueOf_attributes word clear quiet closing

theorem content_element (tagPlain : IsPlain tag) (clear : ∀ entry ∈ attributes, IsClear entry)
    (plain : IsPlain text) : content (element tag attributes text) = text := by
  have tagEnd : isPlain '>' = false := by decide
  have front : '>' ∉ '<' :: (tag.toList ++ attributes.flatMap fun entry => (attributeText entry).toList) := by
    intro member
    rcases List.mem_append.mp (List.mem_of_ne_of_mem (by decide) member) with inTag | inAttributes
    · exact tagPlain.notMem tagEnd inTag
    · obtain ⟨entry, isEntry, within⟩ := List.mem_flatMap.mp inAttributes
      have isClear := clear entry isEntry
      simp [isClear.name.notMem tagEnd, isClear.value.notMem tagEnd] at within
  have inside : '<' ∉ text.toList := plain.notMem (by decide)
  rw [content, toList_element, ← List.append_assoc, ← List.cons_append, Text.dropWhile_mark front]
  simp [Text.takeWhile_mark inside]

end PageUpkeep.Html
