import PageUpkeep.Json.Quoted

/-! The grammar of what stands between quotes in JSON, told without a reader.

A character stands for itself unless it is a quote, a backslash or a control character; every character
may be escaped, by a letter where it has one, by its number, or by a pair of surrogates. The reader takes
all of these forms, and the printer writes one of them.
-/

set_option autoImplicit false

namespace PageUpkeep.Json

inductive HexForm : Nat → List Char → Prop where
  | digits {a b c d : Char} {x y z w : Nat} (first : Text.hexValue? a = some x)
      (second : Text.hexValue? b = some y) (third : Text.hexValue? c = some z)
      (fourth : Text.hexValue? d = some w) : HexForm (((x * 16 + y) * 16 + z) * 16 + w) [a, b, c, d]

inductive CharForm : Char → List Char → Prop where
  | plain {c : Char} (quote : c ≠ '"') (backslash : c ≠ '\\') (control : isControl c = false) :
      CharForm c [c]
  | letter {c mark : Char} (escape : plainEscape? mark = some c) : CharForm c ['\\', mark]
  | number {c : Char} {digits : List Char} (hex : HexForm c.toNat digits) :
      CharForm c ('\\' :: 'u' :: digits)
  | pair {c : Char} {high low : Nat} {highDigits lowDigits : List Char} (first : HexForm high highDigits)
      (second : HexForm low lowDigits) (highRange : 0xd800 ≤ high ∧ high ≤ 0xdbff)
      (lowRange : 0xdc00 ≤ low ∧ low ≤ 0xdfff)
      (meant : c.toNat = 0x10000 + (high - 0xd800) * 0x400 + (low - 0xdc00)) :
      CharForm c ('\\' :: 'u' :: (highDigits ++ '\\' :: 'u' :: lowDigits))

inductive TextForm : List Char → List Char → Prop where
  | nil : TextForm [] []
  | cons {c : Char} {form text inner : List Char} (head : CharForm c form) (tail : TextForm text inner) :
      TextForm (c :: text) (form ++ inner)

theorem readHex_of_form {value : Nat} {digits : List Char} (form : HexForm value digits)
    (rest : List Char) : readHex (digits ++ rest) = .ok (value, rest) := by
  cases form with
  | digits first second third fourth => simp [readHex, first, second, third, fourth]

theorem readLowSurrogate_of_form {high low : Nat} {digits : List Char} (form : HexForm low digits)
    (range : 0xdc00 ≤ low ∧ low ≤ 0xdfff) (rest : List Char) :
    readLowSurrogate high ('\\' :: 'u' :: (digits ++ rest)) =
      .ok (Char.ofNat (0x10000 + (high - 0xd800) * 0x400 + (low - 0xdc00)), rest) := by
  simp [readLowSurrogate, readHex_of_form form, range]

theorem not_surrogate (c : Char) : ¬ (0xd800 ≤ c.toNat ∧ c.toNat ≤ 0xdfff) := by
  intro inside
  rcases c.valid with below | ⟨above, _⟩
  · exact absurd inside.1 (Nat.not_le.mpr below)
  · exact absurd inside.2 (Nat.not_le.mpr above)

theorem readEscape_of_letter {c mark : Char} (escape : plainEscape? mark = some c) (rest : List Char) :
    readEscape (mark :: rest) = .ok (c, rest) := by
  unfold readEscape
  split
  · rename_i empty
    cases empty
  · rename_i digits same
    -- No letter escape is written with a `u`.
    obtain ⟨rfl, rfl⟩ := List.cons.inj same
    simp [plainEscape?] at escape
  · rename_i other after _ same
    obtain ⟨rfl, rfl⟩ := List.cons.inj same
    simp [escape]

theorem readEscape_of_number {c : Char} {digits : List Char} (hex : HexForm c.toNat digits)
    (rest : List Char) : readEscape ('u' :: (digits ++ rest)) = .ok (c, rest) := by
  have outside := not_surrogate c
  -- A character is no surrogate, so neither of the two cases of surrogates applies.
  have notLow : ¬ (0xdc00 ≤ c.toNat ∧ c.toNat ≤ 0xdfff) := by omega
  have notHigh : ¬ (0xd800 ≤ c.toNat ∧ c.toNat ≤ 0xdbff) := by omega
  simp only [readEscape, readHex_of_form hex, if_neg notLow, if_neg notHigh, Char.ofNat_toNat]

theorem readEscape_of_pair {c : Char} {high low : Nat} {highDigits lowDigits : List Char}
    (first : HexForm high highDigits) (second : HexForm low lowDigits)
    (highRange : 0xd800 ≤ high ∧ high ≤ 0xdbff) (lowRange : 0xdc00 ≤ low ∧ low ≤ 0xdfff)
    (meant : c.toNat = 0x10000 + (high - 0xd800) * 0x400 + (low - 0xdc00)) (rest : List Char) :
    readEscape ('u' :: (highDigits ++ '\\' :: 'u' :: (lowDigits ++ rest))) = .ok (c, rest) := by
  have notLow : ¬ (0xdc00 ≤ high ∧ high ≤ 0xdfff) := by omega
  simp only [readEscape, readHex_of_form first, if_neg notLow, if_pos highRange,
    readLowSurrogate_of_form second lowRange, ← meant, Char.ofNat_toNat]

theorem readText_of_escape {c : Char} {s after : List Char} (escape : readEscape s = .ok (c, after)) :
    readText ('\\' :: s) = (readText after).map fun read => (c :: read.1, read.2) := by
  rw [readText]
  split
  · rename_i quote
    exact absurd quote (by decide)
  · split
    · -- The reader keeps the equation of its escape, so its cases are taken before ours is put in.
      split
      · rename_i fault failed
        rw [escape] at failed
        cases failed
      · rename_i meant later read
        rw [escape] at read
        cases read
        rfl
    · contradiction

theorem readText_of_char {c : Char} {form : List Char} (head : CharForm c form) (rest : List Char) :
    readText (form ++ rest) = (readText rest).map fun read => (c :: read.1, read.2) := by
  cases head with
  | plain quote backslash control =>
    rw [List.singleton_append, readText]
    simp [quote, backslash, control]
  | letter escape => exact readText_of_escape (readEscape_of_letter escape rest)
  | number hex => exact readText_of_escape (readEscape_of_number hex rest)
  | pair first second highRange lowRange meant =>
    simp only [List.cons_append, List.append_assoc]
    exact readText_of_escape (readEscape_of_pair first second highRange lowRange meant rest)

theorem readText_of_form {text inner : List Char} (form : TextForm text inner) (rest : List Char) :
    readText (inner ++ '"' :: rest) = .ok (text, rest) := by
  induction form with
  | nil =>
    rw [List.nil_append, readText]
    simp
  | cons head tail ih =>
    rw [List.append_assoc, readText_of_char head, ih]
    rfl

/-! ## The reader takes nothing else -/

theorem map_eq_ok {α β : Type} {read : Except Fault α} {f : α → β} {result : β}
    (mapped : read.map f = .ok result) : ∃ value, read = .ok value ∧ f value = result := by
  cases read with
  | error fault => cases mapped
  | ok value => exact ⟨value, rfl, Except.ok.inj mapped⟩

theorem toNat_sub_lt {c upper : Char} {first bound : Nat} (below : c ≤ upper)
    (small : upper.toNat - first < bound) : c.toNat - first < bound :=
  Nat.lt_of_le_of_lt (Nat.sub_le_sub_right (UInt32.le_iff_toNat_le.mp below) first) small

theorem hexValue?_lt {c : Char} {value : Nat} (digit : Text.hexValue? c = some value) : value < 16 := by
  have decimals : '9'.toNat - '0'.toNat < 16 := by decide
  have smallLetters : 'f'.toNat - 'a'.toNat < 6 := by decide
  have capitals : 'F'.toNat - 'A'.toNat < 6 := by decide
  unfold Text.hexValue? at digit
  split at digit
  · rename_i range
    cases digit
    exact toNat_sub_lt range.2 decimals
  · split at digit
    · rename_i range
      cases digit
      exact Nat.add_lt_add_right (toNat_sub_lt range.2 smallLetters) 10
    · split at digit
      · rename_i range
        cases digit
        exact Nat.add_lt_add_right (toNat_sub_lt range.2 capitals) 10
      · cases digit

theorem HexForm.lt {value : Nat} {digits : List Char} (form : HexForm value digits) : value < 0x10000 := by
  cases form with
  | digits first second third fourth =>
    have := hexValue?_lt first
    have := hexValue?_lt second
    have := hexValue?_lt third
    have := hexValue?_lt fourth
    omega

theorem form_of_readHex {s rest : List Char} {value : Nat} (read : readHex s = .ok (value, rest)) :
    ∃ digits, HexForm value digits ∧ s = digits ++ rest := by
  unfold readHex at read
  split at read
  · rename_i a b c d after
    split at read
    · rename_i x y z w first second third fourth
      cases read
      exact ⟨[a, b, c, d], .digits first second third fourth, rfl⟩
    · cases read
  · cases read

theorem toNat_ofNat_of_valid {value : Nat} (valid : value.isValidChar) :
    (Char.ofNat value).toNat = value := by
  rw [Char.ofNat, dif_pos valid]
  rfl

theorem form_of_readLowSurrogate {high : Nat} {s rest : List Char} {c : Char}
    (read : readLowSurrogate high s = .ok (c, rest)) :
    ∃ low digits, HexForm low digits ∧ (0xdc00 ≤ low ∧ low ≤ 0xdfff) ∧
      c = Char.ofNat (0x10000 + (high - 0xd800) * 0x400 + (low - 0xdc00)) ∧
      s = '\\' :: 'u' :: (digits ++ rest) := by
  unfold readLowSurrogate at read
  split at read
  · cases read
  · cases read
  · split at read
    · cases read
    · rename_i low after hex
      obtain ⟨digits, second, rfl⟩ := form_of_readHex hex
      split at read
      · rename_i range
        simp only [Except.ok.injEq, Prod.mk.injEq] at read
        obtain ⟨meant, rfl⟩ := read
        exact ⟨low, digits, second, range, meant.symm, rfl⟩
      · cases read
  · cases read
  · cases read

theorem form_of_readEscape {s rest : List Char} {c : Char} (read : readEscape s = .ok (c, rest)) :
    ∃ form, CharForm c ('\\' :: form) ∧ s = form ++ rest := by
  unfold readEscape at read
  split at read
  · cases read
  · rename_i digits
    split at read
    · cases read
    · rename_i value after hex
      obtain ⟨firstDigits, first, rfl⟩ := form_of_readHex hex
      split at read
      · cases read
      · rename_i notLow
        split at read
        · rename_i highRange
          obtain ⟨low, secondDigits, second, lowRange, meant, rfl⟩ := form_of_readLowSurrogate read
          have valid : (0x10000 + (value - 0xd800) * 0x400 + (low - 0xdc00)).isValidChar := by
            simp only [Nat.isValidChar]
            omega
          have number := toNat_ofNat_of_valid valid
          rw [← meant] at number
          exact ⟨_, .pair first second highRange lowRange number, by simp⟩
        · -- Four digits that make no surrogate make a character.
          rename_i notHigh
          cases read
          have small := first.lt
          have valid : value.isValidChar := by
            simp only [Nat.isValidChar]
            omega
          rw [← toNat_ofNat_of_valid valid] at first
          exact ⟨'u' :: firstDigits, .number first, rfl⟩
  · rename_i mark after _
    split at read
    · rename_i meant escape
      cases read
      exact ⟨[mark], .letter escape, rfl⟩
    · cases read

theorem form_of_readText {s text rest : List Char} (read : readText s = .ok (text, rest)) :
    ∃ inner, TextForm text inner ∧ s = inner ++ '"' :: rest := by
  -- Induction along the reader: each turn of it takes the form of one character.
  fun_induction readText s generalizing text rest with
  | case1 => cases read
  | case2 after =>
    cases read
    exact ⟨[], .nil, rfl⟩
  | case3 => cases read
  | case4 after meant later escape shorter notQuote ih =>
    obtain ⟨⟨more, left⟩, further, same⟩ := map_eq_ok read
    cases same
    obtain ⟨form, head, rfl⟩ := form_of_readEscape escape
    obtain ⟨inner, tail, rfl⟩ := ih further
    exact ⟨_, .cons head tail, by simp⟩
  | case5 => cases read
  | case6 c after quote backslash control ih =>
    obtain ⟨⟨more, left⟩, further, same⟩ := map_eq_ok read
    cases same
    obtain ⟨inner, tail, rfl⟩ := ih further
    exact ⟨_, .cons (.plain quote backslash (Bool.eq_false_iff.mpr control)) tail, rfl⟩

theorem hexForm_of_control {c : Char} (control : isControl c = true) :
    HexForm c.toNat ['0', '0', Nat.digitChar (c.toNat / 16), Nat.digitChar (c.toNat % 16)] := by
  have small : c.toNat < 32 := of_decide_eq_true control
  have digit : ∀ n < 16, Text.hexValue? (Nat.digitChar n) = some n := by decide
  have zero : Text.hexValue? '0' = some 0 := by decide
  have form := HexForm.digits zero zero (digit (c.toNat / 16) (by omega)) (digit (c.toNat % 16) (by omega))
  have value : ((0 * 16 + 0) * 16 + c.toNat / 16) * 16 + c.toNat % 16 = c.toNat := by omega
  rw [value] at form
  exact form

theorem charForm_quoteChar (c : Char) : CharForm c (quoteChar c) := by
  unfold quoteChar
  -- Seven characters have a letter of their own; the other control characters are written by number.
  split
  · subst c
    exact .letter rfl
  · rename_i quote
    split
    · subst c
      exact .letter rfl
    · rename_i backslash
      repeat' split
      all_goals first
        | subst c; exact .letter rfl
        | exact .number (hexForm_of_control ‹_›)
        | exact .plain quote backslash (Bool.eq_false_iff.mpr ‹_›)

theorem textForm_quoted (text : List Char) : TextForm text (text.flatMap quoteChar) := by
  induction text with
  | nil => exact .nil
  | cons c rest ih =>
    rw [List.flatMap_cons]
    exact .cons (charForm_quoteChar c) ih

end PageUpkeep.Json
