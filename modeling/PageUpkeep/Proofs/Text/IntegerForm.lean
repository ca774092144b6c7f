import Mathlib.Data.List.Induction
import PageUpkeep.Proofs.Text.Decimal

/-! The texts that are read as integers, told without a reader, and what trimming leaves of a text.

An integer may have one sign in front, a plus too, and any number of zeros. Its value is that of its digits, each
worth ten times as much as the next. Every text of this form is read, as its value, if that is inside the bounds,
and no other text is.
-/

set_option autoImplicit false

namespace PageUpkeep.Text

structure TrimsTo (cs core : List Char) : Prop where
  around : ∃ before after, cs = before ++ (core ++ after) ∧
    isBlankText before = true ∧ isBlankText after = true
  first : ∀ c ∈ core.head?, isBlank c = false
  last : ∀ c ∈ core.getLast?, isBlank c = false

theorem dropWhile_blanks {before rest : List Char} (blank : isBlankText before = true)
    (first : ∀ c ∈ rest.head?, isBlank c = false) : (before ++ rest).dropWhile isBlank = rest := by
  rw [List.dropWhile_append_of_pos (List.all_eq_true.mp blank)]
  cases rest with
  | nil => rfl
  | cons c more => exact List.dropWhile_cons_of_neg (by simp [first c rfl])

theorem isBlank_head?_dropWhile (cs : List Char) : ∀ c ∈ (cs.dropWhile isBlank).head?, isBlank c = false := by
  intro c front
  have stops := List.head?_dropWhile_not isBlank cs
  rw [Option.mem_def.mp front] at stops
  exact stops

theorem isBlankText_takeWhile (cs : List Char) : isBlankText (cs.takeWhile isBlank) = true :=
  List.all_eq_true.mpr fun _ member => List.mem_takeWhile_imp member

theorem trimsTo_trim (cs : List Char) : TrimsTo cs (trim cs) := by
  -- What is dropped at the front and what is dropped at the back stand around what is left.
  let rest := cs.dropWhile isBlank
  let after := (rest.reverse.takeWhile isBlank).reverse
  have back : rest = trim cs ++ after := by
    have parts := congrArg List.reverse (List.takeWhile_append_dropWhile (p := isBlank) (l := rest.reverse))
    rw [List.reverse_append, List.reverse_reverse] at parts
    exact parts.symm
  have whole : cs = cs.takeWhile isBlank ++ (trim cs ++ after) := by
    rw [← back]
    exact List.takeWhile_append_dropWhile.symm
  have blankAfter : isBlankText after = true := by
    rw [isBlankText, List.all_reverse]
    exact isBlankText_takeWhile _
  refine ⟨⟨cs.takeWhile isBlank, after, whole, isBlankText_takeWhile cs, blankAfter⟩, ?_, ?_⟩
  · intro c first
    have front : c ∈ rest.head? := by
      rw [back, List.head?_append, Option.mem_def.mp first]
      rfl
    exact isBlank_head?_dropWhile cs c front
  · intro c last
    rw [trim, List.getLast?_reverse] at last
    exact isBlank_head?_dropWhile rest.reverse c last

theorem TrimsTo.trim_eq {cs core : List Char} (trims : TrimsTo cs core) : trim cs = core := by
  obtain ⟨⟨before, after, rfl, blankBefore, blankAfter⟩, first, last⟩ := trims
  have blankBehind : isBlankText after.reverse = true := by
    rw [isBlankText, List.all_reverse]
    exact blankAfter
  cases core with
  | nil =>
    -- Nothing but blanks: all of them are taken from the front already.
    have blank : isBlankText (before ++ after) = true := by
      rw [isBlankText, List.all_append, Bool.and_eq_true]
      exact ⟨blankBefore, blankAfter⟩
    have nothing : (before ++ after ++ []).dropWhile isBlank = [] := dropWhile_blanks blank (by simp)
    rw [List.append_nil] at nothing
    rw [List.nil_append, trim, nothing]
    rfl
  | cons c more =>
    have start : ∀ d ∈ (c :: more ++ after).head?, isBlank d = false := first
    rw [trim, dropWhile_blanks blankBefore start, List.reverse_append, dropWhile_blanks blankBehind,
      List.reverse_reverse]
    rw [List.head?_reverse]
    exact last

theorem trim_eq_iff {cs core : List Char} : trim cs = core ↔ TrimsTo cs core :=
  ⟨fun same => same ▸ trimsTo_trim cs, TrimsTo.trim_eq⟩

namespace Integer

inductive DecimalForm : List Char → Nat → Prop where
  | digit (value : Fin 10) : DecimalForm [Nat.digitChar value] value
  | more {digits : List Char} {front : Nat} (form : DecimalForm digits front) (value : Fin 10) :
      DecimalForm (digits ++ [Nat.digitChar value]) (10 * front + value)

theorem ofDigitChars_concat (digits : List Char) (value : Fin 10) :
    Nat.ofDigitChars 10 (digits ++ [Nat.digitChar value]) 0 =
      10 * Nat.ofDigitChars 10 digits 0 + value := by
  have worth : ∀ value : Fin 10, (Nat.digitChar value).toNat - '0'.toNat = value := by decide
  rw [Nat.ofDigitChars_append, Nat.ofDigitChars_cons, Nat.ofDigitChars_nil, worth]

theorem DecimalForm.ne_nil {digits : List Char} {n : Nat} (form : DecimalForm digits n) : digits ≠ [] := by
  cases form with
  | digit value => exact List.cons_ne_nil _ _
  | more form value => exact List.concat_ne_nil _ _

theorem DecimalForm.isDigit {digits : List Char} {n : Nat} (form : DecimalForm digits n) :
    ∀ c ∈ digits, c.isDigit = true := by
  have digit : ∀ value : Fin 10, (Nat.digitChar value).isDigit = true := by decide
  induction form with
  | digit value => simp [digit]
  | more form value ih =>
    intro c member
    rcases List.mem_append.mp member with front | last
    · exact ih c front
    · rw [List.mem_singleton.mp last]
      exact digit value

theorem DecimalForm.ofDigitChars_eq {digits : List Char} {n : Nat} (form : DecimalForm digits n) :
    Nat.ofDigitChars 10 digits 0 = n := by
  induction form with
  | digit value => simpa using ofDigitChars_concat [] value
  | more form value ih => rw [ofDigitChars_concat, ih]

theorem decimalForm_of_isDigit {digits : List Char} (nonempty : digits ≠ [])
    (digit : ∀ c ∈ digits, c.isDigit = true) : DecimalForm digits (Nat.ofDigitChars 10 digits 0) := by
  induction digits using List.reverseRecOn with
  | nil => exact absurd rfl nonempty
  | append_singleton front c ih =>
    obtain ⟨value, rfl⟩ := exists_digitChar_of_isDigit (digit c (by simp))
    rw [ofDigitChars_concat]
    by_cases single : front = []
    · subst single
      simpa using DecimalForm.digit value
    · exact .more (ih single fun d member => digit d (List.mem_append_left _ member)) value

theorem magnitude_eq_ok_iff {limit n : Nat} {overflow : IntegerFault} {digits : List Char}
    (nonempty : digits ≠ []) :
    magnitude limit overflow digits = .ok n ↔ DecimalForm digits n ∧ n ≤ limit := by
  constructor
  · intro read
    simp only [magnitude] at read
    split at read
    · contradiction
    · rename_i within
      split at read
      · rename_i length
        have whole : digits.takeWhile Char.isDigit = digits :=
          (List.takeWhile_prefix Char.isDigit).eq_of_length length
        rw [whole] at within read
        cases read
        exact ⟨decimalForm_of_isDigit nonempty (List.takeWhile_eq_self_iff.mp whole), Nat.not_lt.mp within⟩
      · contradiction
  · rintro ⟨form, within⟩
    have whole : digits.takeWhile Char.isDigit = digits := List.takeWhile_eq_self_iff.mpr form.isDigit
    simp [magnitude, whole, form.ofDigitChars_eq, Nat.not_lt.mpr within]

/-- Digits, with a sign in front of them or without one, and the number that they tell. -/
inductive IntegerForm : List Char → Int → Prop where
  | bare {digits : List Char} {n : Nat} (form : DecimalForm digits n) : IntegerForm digits n
  | plus {digits : List Char} {n : Nat} (form : DecimalForm digits n) : IntegerForm ('+' :: digits) n
  | minus {digits : List Char} {n : Nat} (form : DecimalForm digits n) : IntegerForm ('-' :: digits) (-n)

theorem map_magnitude_eq_ok_iff {limit : Nat} {overflow : IntegerFault} {digits : List Char}
    (nonempty : digits ≠ []) {signed : Nat → Int} {n : Int} :
    (magnitude limit overflow digits).map signed = .ok n ↔
      ∃ size, DecimalForm digits size ∧ size ≤ limit ∧ signed size = n := by
  constructor
  · intro taken
    cases read : magnitude limit overflow digits with
    | error fault =>
      rw [read] at taken
      contradiction
    | ok size =>
      rw [read] at taken
      obtain ⟨form, within⟩ := (magnitude_eq_ok_iff nonempty).mp read
      exact ⟨size, form, within, Except.ok.inj taken⟩
  · rintro ⟨size, form, within, rfl⟩
    rw [(magnitude_eq_ok_iff nonempty).mpr ⟨form, within⟩]
    rfl

variable {least greatest n : Int} {digits cs : List Char}

theorem read_plus (nonempty : digits ≠ []) :
    read least greatest ('+' :: digits) = (magnitude greatest.toNat .tooLarge digits).map Int.ofNat := by
  cases digits with
  | nil => exact absurd rfl nonempty
  | cons c more => rfl

theorem read_minus (nonempty : digits ≠ []) :
    read least greatest ('-' :: digits) =
      (magnitude (-least).toNat .tooSmall digits).map fun n => -Int.ofNat n := by
  cases digits with
  | nil => exact absurd rfl nonempty
  | cons c more => rfl

theorem integerForm_of_read (down : least ≤ 0) (up : 0 ≤ greatest)
    (taken : read least greatest cs = .ok n) : IntegerForm cs n ∧ least ≤ n ∧ n ≤ greatest := by
  cases cs with
  | nil => contradiction
  | cons first rest =>
    by_cases plus : first = '+'
    · -- A sign that stands alone is refused, so there are digits behind it.
      subst plus
      have nonempty : rest ≠ [] := by
        rintro rfl
        contradiction
      rw [read_plus nonempty, map_magnitude_eq_ok_iff nonempty] at taken
      obtain ⟨size, form, within, rfl⟩ := taken
      rw [Int.ofNat_eq_natCast]
      exact ⟨.plus form, by omega, by omega⟩
    · by_cases minus : first = '-'
      · subst minus
        have nonempty : rest ≠ [] := by
          rintro rfl
          contradiction
        rw [read_minus nonempty, map_magnitude_eq_ok_iff nonempty] at taken
        obtain ⟨size, form, within, rfl⟩ := taken
        rw [Int.ofNat_eq_natCast]
        exact ⟨.minus form, by omega, by omega⟩
      · rw [read_bare plus minus, map_magnitude_eq_ok_iff (List.cons_ne_nil _ _)] at taken
        obtain ⟨size, form, within, rfl⟩ := taken
        rw [Int.ofNat_eq_natCast]
        exact ⟨.bare form, by omega, by omega⟩

theorem read_of_integerForm (form : IntegerForm cs n) (above : least ≤ n) (below : n ≤ greatest) :
    read least greatest cs = .ok n := by
  cases form with
  | @bare _ size form =>
    cases cs with
    | nil => exact absurd rfl form.ne_nil
    | cons first rest =>
      have digit : first.isDigit = true := form.isDigit first List.mem_cons_self
      rw [read_of_isDigit digit, map_magnitude_eq_ok_iff (List.cons_ne_nil _ _)]
      exact ⟨size, form, by omega, rfl⟩
  | @plus _ size form =>
    rw [read_plus form.ne_nil, map_magnitude_eq_ok_iff form.ne_nil]
    exact ⟨size, form, by omega, rfl⟩
  | @minus _ size form =>
    rw [read_minus form.ne_nil, map_magnitude_eq_ok_iff form.ne_nil]
    exact ⟨size, form, by omega, rfl⟩

/-- Where zero lies inside the bounds, what is read are the texts of this form whose number does too. -/
theorem read_eq_ok_iff (down : least ≤ 0) (up : 0 ≤ greatest) :
    read least greatest cs = .ok n ↔ IntegerForm cs n ∧ least ≤ n ∧ n ≤ greatest :=
  ⟨integerForm_of_read down up, fun ⟨form, above, below⟩ => read_of_integerForm form above below⟩

theorem readInt64_eq_ok_iff {word : Int64} : readInt64 cs = .ok word ↔ IntegerForm cs word.toInt := by
  have above := Int64.le_iff_toInt_le.mp (Int64.minValue_le word)
  have below := Int64.le_iff_toInt_le.mp (Int64.le_maxValue word)
  unfold readInt64
  constructor
  · intro taken
    cases number : read Int64.minValue.toInt Int64.maxValue.toInt cs with
    | error fault =>
      rw [number] at taken
      contradiction
    | ok n =>
      rw [number] at taken
      obtain ⟨form, least, greatest⟩ := (read_eq_ok_iff (by decide) (by decide)).mp number
      have same : n = word.toInt := by
        rw [← Except.ok.inj taken]
        exact (Int64.toInt_ofInt_of_le least (Int.lt_add_one_of_le greatest)).symm
      rw [← same]
      exact form
  · intro form
    rw [(read_eq_ok_iff (by decide) (by decide)).mpr ⟨form, above, below⟩, Except.map, Int64.ofInt_toInt]

end Integer

end PageUpkeep.Text
