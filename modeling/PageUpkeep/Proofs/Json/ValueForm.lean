import PageUpkeep.Proofs.Json.NumberForm
import PageUpkeep.Proofs.Json.TableForm

/-! The grammar of JSON values of any depth, told without a reader, and passing over them.

A value is passed over to exactly its end: with a value of any form in front, what follows it is left to the
lists and objects that are still open, and nothing that is not a value is passed over.
-/

set_option autoImplicit false

namespace PageUpkeep.Json

/-- The forms of what stands between quotes if surrogates need not be paired. -/
inductive InnerForm : List Char → Prop where
  | nil : InnerForm []
  | plain {c : Char} {inner : List Char} (quote : c ≠ '"') (backslash : c ≠ '\\')
      (control : isControl c = false) (more : InnerForm inner) : InnerForm (c :: inner)
  | letter {mark meant : Char} {inner : List Char} (escape : plainEscape? mark = some meant)
      (more : InnerForm inner) : InnerForm ('\\' :: mark :: inner)
  | number {value : Nat} {digits inner : List Char} (hex : HexForm value digits) (more : InnerForm inner) :
      InnerForm ('\\' :: 'u' :: (digits ++ inner))

/-- The forms of a text with its quotes; a surrogate without its pair leaves a text that tells nothing. -/
inductive QuotedForm : Option String → List Char → Prop where
  | told {text : String} {source : List Char} (form : StringForm text source) :
      QuotedForm (some text) source
  | untold {inner : List Char} (form : InnerForm inner) (nothing : ∀ text, ¬ TextForm text inner) :
      QuotedForm none ('"' :: (inner ++ ['"']))

theorem innerForm_of_textForm {text inner : List Char} (form : TextForm text inner) : InnerForm inner := by
  induction form with
  | nil => exact .nil
  | cons head tail ih =>
    cases head with
    | plain quote backslash control => exact .plain quote backslash control ih
    | letter escape => exact .letter escape ih
    | number hex => exact .number hex ih
    | pair first second =>
      simp only [List.cons_append, List.append_assoc]
      exact .number first (.number second ih)

theorem inner_of_quotedForm {text? : Option String} {source : List Char} (form : QuotedForm text? source) :
    ∃ inner, InnerForm inner ∧ source = '"' :: (inner ++ ['"']) := by
  cases form with
  | told form =>
    obtain ⟨form⟩ := form
    exact ⟨_, innerForm_of_textForm form, rfl⟩
  | untold form => exact ⟨_, form, rfl⟩

theorem exists_quotedForm {inner : List Char} (form : InnerForm inner) :
    ∃ text?, QuotedForm text? ('"' :: (inner ++ ['"'])) := by
  by_cases told : ∃ text, TextForm text inner
  · obtain ⟨text, form⟩ := told
    exact ⟨some (String.ofList text), .told (.quotes (by rwa [String.toList_ofList]))⟩
  · exact ⟨none, .untold form fun text form => told ⟨text, form⟩⟩

theorem skipText_of_escape {s after : List Char} (escape : skipEscape s = .ok after) :
    skipText ('\\' :: s) = skipText after := by
  rw [skipText]
  split
  · rename_i quote
    exact absurd quote (by decide)
  · split
    · split
      · rename_i fault failed
        rw [escape] at failed
        cases failed
      · rename_i later skipped
        rw [escape] at skipped
        cases skipped
        rfl
    · contradiction

theorem skipEscape_of_letter {mark meant : Char} (escape : plainEscape? mark = some meant)
    (rest : List Char) : skipEscape (mark :: rest) = .ok rest := by
  unfold skipEscape
  split
  · rename_i empty
    cases empty
  · rename_i digits same
    -- No letter escape is written with a `u`.
    obtain ⟨rfl, rfl⟩ := List.cons.inj same
    simp [plainEscape?] at escape
  · rename_i other after _ same
    obtain ⟨rfl, rfl⟩ := List.cons.inj same
    simp [escape]

theorem skipText_of_form {inner : List Char} (form : InnerForm inner) (rest : List Char) :
    skipText (inner ++ '"' :: rest) = .ok rest := by
  induction form with
  | nil =>
    rw [List.nil_append, skipText]
    simp
  | plain quote backslash control more ih =>
    rw [List.cons_append, skipText]
    simp [quote, backslash, control, ih]
  | letter escape more ih => exact (skipText_of_escape (skipEscape_of_letter escape _)).trans ih
  | number hex more ih =>
    rw [List.cons_append, List.cons_append, List.append_assoc]
    refine (skipText_of_escape ?_).trans ih
    simp [skipEscape, readHex_of_form hex, Except.map]

theorem form_of_skipText {s rest : List Char} (skipped : skipText s = .ok rest) :
    ∃ inner, InnerForm inner ∧ s = inner ++ '"' :: rest := by
  -- Induction along the skipper: each turn of it takes one character or one escape.
  fun_induction skipText s generalizing rest with
  | case1 => cases skipped
  | case2 after =>
    cases skipped
    exact ⟨[], .nil, rfl⟩
  | case3 => cases skipped
  | case4 after later escape shorter notQuote ih =>
    obtain ⟨inner, more, rfl⟩ := ih skipped
    unfold skipEscape at escape
    split at escape
    · cases escape
    · obtain ⟨⟨value, left⟩, hex, same⟩ := map_eq_ok escape
      cases same
      obtain ⟨digits, form, rfl⟩ := form_of_readHex hex
      exact ⟨_, .number form more, by simp⟩
    · split at escape
      · rename_i meant told
        cases escape
        exact ⟨_, .letter told more, rfl⟩
      · cases escape
  | case5 => cases skipped
  | case6 c after quote backslash control ih =>
    obtain ⟨inner, more, rfl⟩ := ih skipped
    exact ⟨_, .plain quote backslash (Bool.eq_false_iff.mpr control) more, rfl⟩

theorem innerForm_inj {inner other rest after : List Char} (form : InnerForm inner)
    (second : InnerForm other) (same : inner ++ '"' :: rest = other ++ '"' :: after) : inner = other := by
  have skipped := skipText_of_form form rest
  rw [same, skipText_of_form second after] at skipped
  cases skipped
  exact List.append_cancel_right same

theorem readText_of_untold {inner : List Char} (form : InnerForm inner)
    (nothing : ∀ text, ¬ TextForm text inner) (rest : List Char) :
    ∃ fault, readText (inner ++ '"' :: rest) = .error fault := by
  cases read : readText (inner ++ '"' :: rest) with
  | error fault => exact ⟨fault, rfl⟩
  | ok result =>
    obtain ⟨other, told, same⟩ := form_of_readText read
    rw [innerForm_inj form (innerForm_of_textForm told) same] at nothing
    exact absurd told (nothing _)

/-! ## Values -/

/-- A value as a text tells it. A text that tells nothing is still a value, or a key. -/
inductive Value where
  | null
  | boolean (value : Bool)
  | number (digits : List Char)
  | text (text? : Option String)
  | list (items : List Value)
  | object (members : List (Option String × Value))

inductive Piece where
  | value (value : Value)
  | spaced (value : Value)
  | items (items : List Value)
  | members (members : List (Option String × Value))

inductive HeadForm : Option String → List Char → Prop where
  | head {key : Option String} {before source between : List Char} (before_spaces : Spaces before)
      (quoted : QuotedForm key source) (between_spaces : Spaces between) :
      HeadForm key (before ++ (source ++ (between ++ [':'])))

/-- The forms of values, of values with blanks around them, and of what stands inside lists and objects. -/
inductive Form : Piece → List Char → Prop where
  | null : Form (.value .null) ['n', 'u', 'l', 'l']
  | yes : Form (.value (.boolean true)) ['t', 'r', 'u', 'e']
  | no : Form (.value (.boolean false)) ['f', 'a', 'l', 's', 'e']
  | number {digits : List Char} (form : NumberForm digits) : Form (.value (.number digits)) digits
  | text {text? : Option String} {source : List Char} (form : QuotedForm text? source) :
      Form (.value (.text text?)) source
  | list {items : List Value} {source : List Char} (inside : Form (.items items) source) :
      Form (.value (.list items)) ('[' :: (source ++ [']']))
  | object {members : List (Option String × Value)} {source : List Char}
      (inside : Form (.members members) source) :
      Form (.value (.object members)) ('\x7b' :: (source ++ ['\x7d']))
  | spaced {value : Value} {before source after : List Char} (before_spaces : Spaces before)
      (form : Form (.value value) source) (after_spaces : Spaces after) :
      Form (.spaced value) (before ++ (source ++ after))
  | noItems {gap : List Char} (spaces : Spaces gap) : Form (.items []) gap
  | lastItem {item : Value} {source : List Char} (form : Form (.spaced item) source) :
      Form (.items [item]) source
  | item {item next : Value} {items : List Value} {source others : List Char}
      (form : Form (.spaced item) source) (more : Form (.items (next :: items)) others) :
      Form (.items (item :: next :: items)) (source ++ ',' :: others)
  | noMembers {gap : List Char} (spaces : Spaces gap) : Form (.members []) gap
  | lastMember {key : Option String} {value : Value} {head source : List Char}
      (named : HeadForm key head) (form : Form (.spaced value) source) :
      Form (.members [(key, value)]) (head ++ source)
  | member {key : Option String} {value : Value} {next : Option String × Value}
      {members : List (Option String × Value)} {head source others : List Char}
      (named : HeadForm key head) (form : Form (.spaced value) source)
      (more : Form (.members (next :: members)) others) :
      Form (.members ((key, value) :: next :: members)) (head ++ (source ++ ',' :: others))

theorem Form.bare {value : Value} {source : List Char} (form : Form (.value value) source) :
    Form (.spaced value) source := by
  simpa using @Form.spaced value [] source [] .nil form .nil

theorem exists_of_spaced {value : Value} {source : List Char} (form : Form (.spaced value) source) :
    ∃ before body after, Spaces before ∧ Form (.value value) body ∧ Spaces after ∧
      source = before ++ (body ++ after) := by
  cases form with
  | spaced before form after => exact ⟨_, _, _, before, form, after, rfl⟩

def Value.begins : Value → Char → Bool
  | .null, c => c == 'n'
  | .boolean true, c => c == 't'
  | .boolean false, c => c == 'f'
  | .number _, c => c == '-' || c.isDigit
  | .text _, c => c == '"'
  | .list _, c => c == '['
  | .object _, c => c == '\x7b'

theorem digit_or_minus_of_numberForm {digits : List Char} (form : NumberForm digits) :
    ∃ c more, digits = c :: more ∧ (c == '-' || c.isDigit) = true := by
  cases form with
  | number signed wholeForm =>
    rcases signed with rfl | rfl
    · cases wholeForm with
      | zero => exact ⟨'0', _, rfl, by decide⟩
      | digits _ form =>
        cases form with
        | digits first => exact ⟨_, _, rfl, by simp [first]⟩
    · exact ⟨'-', _, rfl, by decide⟩

theorem begins_of_form {value : Value} {source : List Char} (form : Form (.value value) source) :
    ∃ c more, source = c :: more ∧ value.begins c = true := by
  cases form with
  | null | yes | no | list | object => exact ⟨_, _, rfl, by simp [Value.begins]⟩
  | number form => exact digit_or_minus_of_numberForm form
  | text form =>
    obtain ⟨inner, _, rfl⟩ := inner_of_quotedForm form
    exact ⟨_, _, rfl, by simp [Value.begins]⟩

theorem token_of_begins {value : Value} {c : Char} (begins : value.begins c = true) :
    isSpace c = false ∧ c ≠ ']' := by
  have apart : ∀ d, (isSpace d = true ∨ d = ']') → value.begins d = false := by
    intro d other
    simp only [isSpace, Bool.or_eq_true, beq_iff_eq] at other
    rcases other with (((rfl | rfl) | rfl) | rfl) | rfl <;> rcases value with _ | (_ | _) | _ | _ | _ | _ <;> rfl
  constructor
  · refine Bool.eq_false_iff.mpr fun space => ?_
    exact Bool.eq_false_iff.mp (apart c (.inl space)) begins
  · intro closing
    exact Bool.eq_false_iff.mp (apart c (.inr closing)) begins

theorem first_of_spaced {value : Value} {source : List Char} (form : Form (.spaced value) source) :
    ∃ gap c more, Spaces gap ∧ source = gap ++ c :: more ∧ isSpace c = false ∧ c ≠ ']' := by
  obtain ⟨before, body, after, spaces, inside, _, rfl⟩ := exists_of_spaced form
  obtain ⟨c, more, rfl, begins⟩ := begins_of_form inside
  exact ⟨before, c, _, spaces, rfl, token_of_begins begins⟩

theorem first_of_items {item : Value} {items : List Value} {source : List Char}
    (form : Form (.items (item :: items)) source) :
    ∃ gap c more, Spaces gap ∧ source = gap ++ c :: more ∧ isSpace c = false ∧ c ≠ ']' := by
  cases form with
  | lastItem form => exact first_of_spaced form
  | item form more =>
    obtain ⟨gap, c, others, spaces, rfl, token⟩ := first_of_spaced form
    exact ⟨gap, c, _, spaces, List.append_assoc _ _ _, token⟩

theorem quote_of_headForm {key : Option String} {head : List Char} (form : HeadForm key head) :
    ∃ gap more, Spaces gap ∧ head = gap ++ '"' :: more := by
  obtain ⟨spaces, quoted, _⟩ := form
  obtain ⟨inner, _, rfl⟩ := inner_of_quotedForm quoted
  exact ⟨_, _, spaces, rfl⟩

theorem quote_of_members {member : Option String × Value} {members : List (Option String × Value)}
    {source : List Char} (form : Form (.members (member :: members)) source) :
    ∃ gap more, Spaces gap ∧ source = gap ++ '"' :: more := by
  cases form with
  | lastMember named | member named =>
    obtain ⟨gap, more, spaces, rfl⟩ := quote_of_headForm named
    exact ⟨gap, _, spaces, List.append_assoc _ _ _⟩

structure WrittenMember where
  key : String
  value : Value
  source : List Char
  form : Form (.value value) source

def WrittenMember.told (member : WrittenMember) : Option String × Value :=
  (some member.key, member.value)

theorem form_text (value : String) : Form (.value (.text (some value))) (text value) :=
  .text (.told (stringForm_text value))

def WrittenMember.ofText (key value : String) : WrittenMember :=
  ⟨key, .text (some value), text value, form_text value⟩

theorem headForm_text (key : String) : HeadForm (some key) (text key ++ [':']) :=
  @HeadForm.head (some key) [] _ [] .nil (.told (stringForm_text key)) .nil

theorem form_members (member : WrittenMember) (members : List WrittenMember) :
    Form (.members ((member :: members).map WrittenMember.told))
      ([','].intercalate ((member :: members).map fun member => text member.key ++ ':' :: member.source)) := by
  induction members generalizing member with
  | nil =>
    simpa [WrittenMember.told] using Form.lastMember (headForm_text member.key) member.form.bare
  | cons next members ih =>
    simpa [WrittenMember.told, List.intercalate_cons_cons] using
      Form.member (headForm_text member.key) member.form.bare (ih next)

theorem form_object (member : WrittenMember) (members : List WrittenMember) :
    Form (.value (.object ((member :: members).map WrittenMember.told)))
      (object ((member :: members).map fun member => (member.key, member.source))) := by
  have form := Form.object (form_members member members)
  simpa [object, text, List.map_map, Function.comp_def] using form

end PageUpkeep.Json
