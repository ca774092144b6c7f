import PageUpkeep.Json.Numeral
import PageUpkeep.Proofs.Json.QuotedForm

/-! The grammar of numbers in JSON, told without a reader.

A number is read up to the first character that could not go on with it, so what stands behind it decides
where it ends: neither a digit, nor a point, nor the letter of an exponent.
-/

set_option autoImplicit false

namespace PageUpkeep.Json

inductive DigitsForm : List Char → Prop where
  | digits {c : Char} {more : List Char} (first : c.isDigit = true)
      (others : ∀ d ∈ more, d.isDigit = true) : DigitsForm (c :: more)

inductive WholeForm : List Char → Prop where
  | zero : WholeForm ['0']
  | digits {c : Char} {more : List Char} (notZero : c ≠ '0') (form : DigitsForm (c :: more)) :
      WholeForm (c :: more)

inductive FractionForm : List Char → Prop where
  | none : FractionForm []
  | digits {digits : List Char} (form : DigitsForm digits) : FractionForm ('.' :: digits)

inductive ExponentForm : List Char → Prop where
  | none : ExponentForm []
  | digits {mark : Char} {sign digits : List Char} (letter : mark = 'e' ∨ mark = 'E')
      (signed : sign = [] ∨ sign = ['+'] ∨ sign = ['-']) (form : DigitsForm digits) :
      ExponentForm (mark :: (sign ++ digits))

inductive NumberForm : List Char → Prop where
  | number {sign whole fraction exponent : List Char} (signed : sign = [] ∨ sign = ['-'])
      (whole_form : WholeForm whole) (fraction_form : FractionForm fraction)
      (exponent_form : ExponentForm exponent) : NumberForm (sign ++ (whole ++ (fraction ++ exponent)))

/-- The character at the front, if there is one, is not among those that `p` tells. -/
def Stops (p : Char → Bool) (rest : List Char) : Prop :=
  ∀ c ∈ rest.head?, p c = false

def continuesFraction (c : Char) : Bool :=
  c.isDigit || c == '.'

def continuesNumber (c : Char) : Bool :=
  continuesFraction c || c == 'e' || c == 'E'

theorem Stops.mono {p q : Char → Bool} (weaker : ∀ c, q c = true → p c = true) {rest : List Char}
    (stops : Stops p rest) : Stops q rest := by
  intro c first
  refine Bool.eq_false_iff.mpr fun told => ?_
  exact Bool.eq_false_iff.mp (stops c first) (weaker c told)

theorem Stops.cons {p : Char → Bool} {c : Char} (other : p c = false) (rest : List Char) :
    Stops p (c :: rest) := by
  intro d first
  cases first
  exact other

namespace Numeral

variable (atEnd : Cause) {rest : List Char}

theorem takeWhile_digits {digits : List Char} (form : ∀ d ∈ digits, d.isDigit = true)
    (stops : Stops Char.isDigit rest) : (digits ++ rest).takeWhile Char.isDigit = digits := by
  rw [List.takeWhile_append_of_pos form]
  cases rest with
  | nil => simp
  | cons c more => rw [List.takeWhile_cons_of_neg (Bool.eq_false_iff.mp (stops c rfl)), List.append_nil]

theorem dropWhile_digits {digits : List Char} (form : ∀ d ∈ digits, d.isDigit = true)
    (stops : Stops Char.isDigit rest) : (digits ++ rest).dropWhile Char.isDigit = rest := by
  rw [List.dropWhile_append_of_pos form]
  cases rest with
  | nil => rfl
  | cons c more => exact List.dropWhile_cons_of_neg (Bool.eq_false_iff.mp (stops c rfl))

theorem readWhole_of_form {whole : List Char} (form : WholeForm whole) (stops : Stops Char.isDigit rest) :
    readWhole atEnd (whole ++ rest) = .ok (whole, rest) := by
  cases form with
  | zero =>
    cases rest with
    | nil => rfl
    | cons c more => simp [readWhole, stops c rfl]
  | digits notZero form =>
    cases form with
    | digits first others =>
      rw [List.cons_append, readWhole.eq_def]
      split
      · contradiction
      · rename_i zero
        exact absurd (List.cons.inj zero).1 notZero
      · rename_i same
        cases same
        rw [if_pos first, takeWhile_digits others stops, dropWhile_digits others stops]

theorem readFraction_of_form {fraction : List Char} (form : FractionForm fraction)
    (stops : Stops continuesFraction rest) :
    ∃ digits, readFraction atEnd (fraction ++ rest) = .ok (digits, rest) := by
  cases form with
  | none =>
    refine ⟨[], ?_⟩
    rw [List.nil_append, readFraction.eq_def]
    split
    · rename_i more
      exact absurd (stops '.' rfl) (by decide)
    · rfl
  | digits form =>
    have noDigit : Stops Char.isDigit rest := stops.mono fun c digit => by simp [continuesFraction, digit]
    cases form with
    | @digits c more first others =>
      have all : ∀ d ∈ c :: more, d.isDigit = true := List.forall_mem_cons.mpr ⟨first, others⟩
      refine ⟨c :: more, ?_⟩
      rw [List.cons_append, List.cons_append]
      simp only [readFraction, if_pos first]
      rw [← List.cons_append, takeWhile_digits all noDigit, dropWhile_digits all noDigit]

theorem readExponentDigits_of_form {digits : List Char} (form : DigitsForm digits)
    (stops : Stops Char.isDigit rest) :
    readExponentDigits atEnd (digits ++ rest) = .ok (digits, rest) := by
  cases form with
  | digits first others =>
    rw [List.cons_append, readExponentDigits, if_pos first, takeWhile_digits others stops,
      dropWhile_digits others stops]

theorem readExponent_of_form {exponent : List Char} (form : ExponentForm exponent)
    (stops : Stops continuesNumber rest) :
    ∃ found, readExponent atEnd (exponent ++ rest) = .ok (found, rest) := by
  cases form with
  | none =>
    refine ⟨none, ?_⟩
    rw [List.nil_append, readExponent.eq_def]
    split
    case h_7 => rfl
    all_goals exact absurd (stops _ rfl) (by decide)
  | @digits mark sign digits letter signed form =>
    have noDigit : Stops Char.isDigit rest :=
      stops.mono fun c digit => by simp [continuesNumber, continuesFraction, digit]
    have read := readExponentDigits_of_form atEnd form noDigit
    rcases signed with rfl | rfl | rfl
    · -- Without a sign the letter is followed by a digit, which is neither sign.
      refine ⟨some (false, digits), ?_⟩
      cases form with
      | @digits c more first others =>
        have notMinus : c ≠ '-' := by rintro rfl; exact absurd first (by decide)
        have notPlus : c ≠ '+' := by rintro rfl; exact absurd first (by decide)
        rw [List.cons_append] at read ⊢
        rcases letter with rfl | rfl <;> simp [readExponent, notMinus, notPlus, read, Except.map]
    · exact ⟨some (false, digits), by rcases letter with rfl | rfl <;> simp [readExponent, read, Except.map]⟩
    · exact ⟨some (true, digits), by rcases letter with rfl | rfl <;> simp [readExponent, read, Except.map]⟩

theorem stops_exponent {exponent : List Char} (form : ExponentForm exponent)
    (stops : Stops continuesNumber rest) : Stops continuesFraction (exponent ++ rest) := by
  cases form with
  | none => exact stops.mono fun c told => by simp [continuesNumber, told]
  | digits letter =>
    refine Stops.cons ?_ _
    rcases letter with rfl | rfl <;> decide

theorem stops_fraction {fraction : List Char} (form : FractionForm fraction)
    (stops : Stops continuesFraction rest) : Stops Char.isDigit (fraction ++ rest) := by
  cases form with
  | none => exact stops.mono fun c digit => by simp [continuesFraction, digit]
  | digits => exact Stops.cons (by decide) _

theorem readUnsigned_of_form {whole fraction exponent : List Char} (negative : Bool)
    (wholeForm : WholeForm whole) (fractionForm : FractionForm fraction)
    (exponentForm : ExponentForm exponent) (stops : Stops continuesNumber rest) :
    ∃ numeral, readUnsigned atEnd negative (whole ++ (fraction ++ (exponent ++ rest))) =
      .ok (numeral, rest) := by
  have beforeExponent := stops_exponent exponentForm stops
  have beforeFraction := stops_fraction fractionForm beforeExponent
  have wholeRead := readWhole_of_form atEnd wholeForm beforeFraction
  obtain ⟨digits, fractionRead⟩ := readFraction_of_form atEnd fractionForm beforeExponent
  obtain ⟨found, exponentRead⟩ := readExponent_of_form atEnd exponentForm stops
  exact ⟨⟨negative, whole, digits, found⟩, by
    simp only [readUnsigned, wholeRead, fractionRead, exponentRead]⟩

theorem ne_minus_of_wholeForm {whole : List Char} (form : WholeForm whole) (others more : List Char) :
    whole ++ others ≠ '-' :: more := by
  cases form with
  | zero => simp
  | digits _ form =>
    cases form with
    | digits first =>
      intro same
      rw [(List.cons.inj same).1] at first
      exact absurd first (by decide)

theorem read_of_form {source : List Char} (form : NumberForm source) (stops : Stops continuesNumber rest) :
    ∃ numeral, Numeral.read atEnd (source ++ rest) = .ok (numeral, rest) := by
  cases form with
  | @number sign whole fraction exponent signed wholeForm fractionForm exponentForm =>
    have taken := fun negative =>
      readUnsigned_of_form atEnd negative wholeForm fractionForm exponentForm stops
    simp only [List.append_assoc]
    rcases signed with rfl | rfl
    · obtain ⟨numeral, taken⟩ := taken false
      refine ⟨numeral, ?_⟩
      rw [List.nil_append, Numeral.read.eq_def]
      split
      · rename_i minus
        exact absurd minus (ne_minus_of_wholeForm wholeForm _ _)
      · exact taken
    · obtain ⟨numeral, taken⟩ := taken true
      exact ⟨numeral, taken⟩

/-! ## The reader takes nothing else -/

theorem digits_of_takeWhile {c : Char} (more : List Char) (first : c.isDigit = true) :
    DigitsForm (c :: more.takeWhile Char.isDigit) ∧
      c :: more = (c :: more.takeWhile Char.isDigit) ++ more.dropWhile Char.isDigit := by
  refine ⟨.digits first fun d member => List.all_eq_true.mp List.all_takeWhile d member, ?_⟩
  rw [List.cons_append, List.takeWhile_append_dropWhile]

variable {atEnd} {s : List Char}

theorem form_of_readWhole {whole : List Char} (read : readWhole atEnd s = .ok (whole, rest)) :
    WholeForm whole ∧ s = whole ++ rest := by
  unfold readWhole at read
  split at read
  · cases read
  · split at read
    · split at read
      · cases read
      · cases read
        exact ⟨.zero, rfl⟩
    · cases read
      exact ⟨.zero, rfl⟩
  · rename_i c after notZero
    split at read
    · rename_i first
      cases read
      obtain ⟨digits, whole⟩ := digits_of_takeWhile after first
      exact ⟨.digits notZero digits, whole⟩
    · cases read

theorem form_of_readFraction {digits : List Char} (read : readFraction atEnd s = .ok (digits, rest)) :
    ∃ fraction, FractionForm fraction ∧ s = fraction ++ rest := by
  unfold readFraction at read
  split at read
  · split at read
    · cases read
    · rename_i c after
      split at read
      · rename_i first
        cases read
        obtain ⟨digits, whole⟩ := digits_of_takeWhile after first
        rw [List.dropWhile_cons_of_pos first]
        exact ⟨_, .digits digits, by rw [List.cons_append, ← whole]⟩
      · cases read
  · cases read
    exact ⟨[], .none, rfl⟩

theorem form_of_readExponentDigits {digits : List Char}
    (read : readExponentDigits atEnd s = .ok (digits, rest)) : DigitsForm digits ∧ s = digits ++ rest := by
  unfold readExponentDigits at read
  split at read
  · cases read
  · split at read
    · rename_i first
      cases read
      exact digits_of_takeWhile _ first
    · cases read

theorem form_of_signed {mark : Char} {sign : List Char} {negative : Bool}
    {found : Option (Bool × List Char)} (letter : mark = 'e' ∨ mark = 'E')
    (signed : sign = [] ∨ sign = ['+'] ∨ sign = ['-'])
    (read : (readExponentDigits atEnd s).map (fun read => (some (negative, read.1), read.2)) =
      .ok (found, rest)) :
    ∃ exponent, ExponentForm exponent ∧ mark :: (sign ++ s) = exponent ++ rest := by
  obtain ⟨⟨digits, after⟩, taken, same⟩ := map_eq_ok read
  cases same
  obtain ⟨form, rfl⟩ := form_of_readExponentDigits taken
  exact ⟨_, .digits letter signed form, by simp⟩

theorem form_of_readExponent {found : Option (Bool × List Char)}
    (read : readExponent atEnd s = .ok (found, rest)) :
    ∃ exponent, ExponentForm exponent ∧ s = exponent ++ rest := by
  unfold readExponent at read
  split at read
  · exact form_of_signed (.inl rfl) (.inr (.inr rfl)) read
  · exact form_of_signed (.inr rfl) (.inr (.inr rfl)) read
  · exact form_of_signed (.inl rfl) (.inr (.inl rfl)) read
  · exact form_of_signed (.inr rfl) (.inr (.inl rfl)) read
  · exact form_of_signed (.inl rfl) (.inl rfl) read
  · exact form_of_signed (.inr rfl) (.inl rfl) read
  · cases read
    exact ⟨[], .none, rfl⟩

theorem form_of_readUnsigned {negative : Bool} {numeral : Numeral}
    (read : readUnsigned atEnd negative s = .ok (numeral, rest)) :
    ∃ whole fraction exponent, WholeForm whole ∧ FractionForm fraction ∧ ExponentForm exponent ∧
      s = whole ++ (fraction ++ (exponent ++ rest)) := by
  unfold readUnsigned at read
  split at read
  · cases read
  · rename_i whole afterWhole first
    split at read
    · cases read
    · rename_i fraction afterFraction second
      split at read
      · cases read
      · rename_i third
        cases read
        obtain ⟨wholeForm, rfl⟩ := form_of_readWhole first
        obtain ⟨fraction, fractionForm, rfl⟩ := form_of_readFraction second
        obtain ⟨exponent, exponentForm, rfl⟩ := form_of_readExponent third
        exact ⟨whole, fraction, exponent, wholeForm, fractionForm, exponentForm, rfl⟩

theorem form_of_read {numeral : Numeral} (read : Numeral.read atEnd s = .ok (numeral, rest)) :
    ∃ source, NumberForm source ∧ s = source ++ rest := by
  unfold Numeral.read at read
  split at read
  · obtain ⟨whole, fraction, exponent, wholeForm, fractionForm, exponentForm, rfl⟩ :=
      form_of_readUnsigned read
    exact ⟨_, .number (.inr rfl) wholeForm fractionForm exponentForm, by simp⟩
  · obtain ⟨whole, fraction, exponent, wholeForm, fractionForm, exponentForm, rfl⟩ :=
      form_of_readUnsigned read
    exact ⟨_, .number (.inl rfl) wholeForm fractionForm exponentForm, by simp⟩

end Numeral

end PageUpkeep.Json
