import PageUpkeep.Age.Timestamp
import PageUpkeep.Html.Escape
import Mathlib.Data.List.TakeWhile

/-! Decimal texts: what they are made of, and that they are read as what they were printed from.

They consist of digits, after a minus sign where it is needed. So there are no blanks to be trimmed in them
and nothing to be escaped.
-/

set_option autoImplicit false

namespace PageUpkeep

namespace Text

def IsDecimal (c : Char) : Prop :=
  c = '-' ∨ c.isDigit = true

theorem exists_digitChar_of_isDigit {c : Char} (digit : c.isDigit = true) :
    ∃ value : Fin 10, c = Nat.digitChar value := by
  obtain ⟨least, greatest⟩ : 48 ≤ c.toNat ∧ c.toNat ≤ 57 := Char.isDigit_iff_toNat.mp digit
  refine ⟨⟨c.toNat - 48, by omega⟩, Char.toNat_inj.mp ?_⟩
  rw [Nat.toNat_digitChar_of_lt_ten (by omega)]
  dsimp only
  omega

theorem IsDecimal.elim {c : Char} (decimal : IsDecimal c) (property : Char → Prop) (sign : property '-')
    (digits : ∀ value : Fin 10, property (Nat.digitChar value)) : property c := by
  rcases decimal with rfl | digit
  · exact sign
  · obtain ⟨value, rfl⟩ := exists_digitChar_of_isDigit digit
    exact digits value

theorem IsDecimal.isBlank_eq_false {c : Char} (decimal : IsDecimal c) : isBlank c = false :=
  decimal.elim (fun c => isBlank c = false) (by decide) (by decide)

theorem IsDecimal.isPlain {c : Char} (decimal : IsDecimal c) : Html.isPlain c = true :=
  decimal.elim (fun c => Html.isPlain c = true) (by decide) (by decide)

theorem trim_of_visible {cs : List Char} (visible : ∀ c ∈ cs, isBlank c = false) : trim cs = cs := by
  have kept : ∀ ds : List Char, (∀ c ∈ ds, isBlank c = false) → ds.dropWhile isBlank = ds := by
    intro ds all
    apply List.dropWhile_eq_self_iff.mpr
    intro inside
    rw [all _ (List.getElem_mem inside)]
    exact Bool.false_ne_true
  have reversed : ∀ c ∈ cs.reverse, isBlank c = false := by
    intro c member
    exact visible c (List.mem_reverse.mp member)
  rw [trim, kept cs visible, kept _ reversed, List.reverse_reverse]

namespace Integer

theorem toList_print (n : Int) :
    (print n).toList = (if n < 0 then ['-'] else []) ++ Nat.toDigits 10 n.natAbs := by
  rw [print, Int.repr_eq_if]
  by_cases negative : n < 0
  · have size : (-n).toNat = n.natAbs := by omega
    rw [if_neg (by omega), if_pos negative, size, String.toList_append, Nat.toList_repr]
    rfl
  · have size : n.toNat = n.natAbs := by omega
    rw [if_pos (by omega), if_neg negative, size, Nat.toList_repr, List.nil_append]

theorem isDigit_of_mem_toDigits {n : Nat} {c : Char} (member : c ∈ Nat.toDigits 10 n) : c.isDigit = true :=
  Nat.isDigit_of_mem_toDigits (by decide) (by decide) member

theorem isDecimal_of_mem_print {n : Int} {c : Char} (member : c ∈ (print n).toList) : IsDecimal c := by
  rw [toList_print] at member
  rcases List.mem_append.mp member with sign | digit
  · split at sign
    · exact .inl (List.mem_singleton.mp sign)
    · cases sign
  · exact .inr (isDigit_of_mem_toDigits digit)

theorem magnitude_toDigits {limit n : Nat} (within : n ≤ limit) (overflow : IntegerFault) :
    magnitude limit overflow (Nat.toDigits 10 n) = .ok n := by
  have whole : (Nat.toDigits 10 n).takeWhile Char.isDigit = Nat.toDigits 10 n :=
    List.takeWhile_eq_self_iff.mpr fun _ member => isDigit_of_mem_toDigits member
  simp [magnitude, whole, Nat.not_lt.mpr within]

theorem read_bare {least greatest : Int} {first : Char} (notPlus : first ≠ '+') (notMinus : first ≠ '-')
    (rest : List Char) :
    read least greatest (first :: rest) =
      (magnitude greatest.toNat .tooLarge (first :: rest)).map Int.ofNat := by
  unfold read
  split <;> simp_all

theorem read_of_isDigit {least greatest : Int} {first : Char} {rest : List Char}
    (leading : first.isDigit = true) :
    read least greatest (first :: rest) =
      (magnitude greatest.toNat .tooLarge (first :: rest)).map Int.ofNat := by
  apply read_bare
  · rintro rfl
    contradiction
  · rintro rfl
    contradiction

theorem read_print {least greatest n : Int} (above : least ≤ n) (below : n ≤ greatest) :
    read least greatest (print n).toList = .ok n := by
  rw [toList_print]
  cases digits : Nat.toDigits 10 n.natAbs with
  | nil => exact absurd digits Nat.toDigits_ne_nil
  | cons first rest =>
    by_cases negative : n < 0
    · have size := @magnitude_toDigits (-least).toNat n.natAbs (by omega) .tooSmall
      have value : -Int.ofNat n.natAbs = n := by
        rw [Int.ofNat_eq_natCast]
        omega
      rw [digits] at size
      rw [if_pos negative, List.cons_append, List.nil_append, read, size, Except.map, value]
      exact nofun
    · have size := @magnitude_toDigits greatest.toNat n.natAbs (by omega) .tooLarge
      have value : Int.ofNat n.natAbs = n := Int.natAbs_of_nonneg (by omega)
      have leading : first.isDigit = true := isDigit_of_mem_toDigits (digits ▸ List.mem_cons_self)
      rw [digits] at size
      rw [if_neg negative, List.nil_append, read_of_isDigit leading, size, Except.map, value]

theorem readInt64_print (n : Int64) : readInt64 (print n.toInt).toList = .ok n := by
  have above := Int64.le_iff_toInt_le.mp (Int64.minValue_le n)
  have below := Int64.le_iff_toInt_le.mp (Int64.le_maxValue n)
  rw [readInt64, read_print above below]
  simp [Except.map]

end Integer

end Text

namespace Timestamp

theorem ofAttribute?_toAttribute (timestamp : Timestamp) :
    ofAttribute? timestamp.toAttribute = some timestamp := by
  have visible : ∀ c ∈ timestamp.toAttribute.toList, Text.isBlank c = false :=
    fun _ member => (Text.Integer.isDecimal_of_mem_print member).isBlank_eq_false
  rw [ofAttribute?, Text.trim_of_visible visible, toAttribute, Text.Integer.readInt64_print]
  rfl

end Timestamp

end PageUpkeep
