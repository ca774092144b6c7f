import PageUpkeep.Proofs.Age.Partition
import PageUpkeep.Proofs.Text.FixedWidth

/-! How well a label tells its age.

The number of a label is the age in units of its bucket, to the nearest, a half upwards; no step of finding it
leaves 64 bits. The bounds of a bucket are those of its ages, rounded: only in minutes is there a zero or a one,
so that all other units are rightly in the plural.
-/

set_option autoImplicit false

namespace PageUpkeep

namespace AgeBucket

def Shows (bucket : AgeBucket) (value : Nat) : Prop :=
  match bucket with
  | minutes => value ≤ 120
  | hours => 2 ≤ value ∧ value ≤ 48
  | days => 2 ≤ value ∧ value ≤ 14
  | weeks => 2 ≤ value ∧ value ≤ 9
  | months => 2 ≤ value ∧ value ≤ 25
  | years => 2 ≤ value

theorem shows_of_bounds {bucket : AgeBucket} {age : Nat} (reached : bucket.least ≤ age)
    (unreached : ∀ next : AgeBucket, next.index = bucket.index + 1 → age < next.least) :
    bucket.Shows ((age + bucket.divisor.toNat / 2) / bucket.divisor.toNat) := by
  -- Rounding keeps the order, so the numbers lie between those of the least age and of the last one.
  have least : (bucket.least + bucket.divisor.toNat / 2) / bucket.divisor.toNat ≤
      (age + bucket.divisor.toNat / 2) / bucket.divisor.toNat :=
    Nat.div_le_div_right (Nat.add_le_add_right reached _)
  have last : ∀ next : AgeBucket, next.index = bucket.index + 1 →
      (age + bucket.divisor.toNat / 2) / bucket.divisor.toNat ≤
        (next.least - 1 + bucket.divisor.toNat / 2) / bucket.divisor.toNat := by
    intro next after
    have before := unreached next after
    exact Nat.div_le_div_right (Nat.add_le_add_right (Nat.le_sub_one_of_lt before) _)
  cases bucket with
  | minutes => exact last hours rfl
  | hours => exact ⟨least, last days rfl⟩
  | days => exact ⟨least, last weeks rfl⟩
  | weeks => exact ⟨least, last months rfl⟩
  | months => exact ⟨least, last years rfl⟩
  | years => exact least

theorem eq_of_unit {first second : AgeBucket} (same : first.unit.toList = second.unit.toList) :
    first = second := by
  revert same
  cases first <;> cases second <;> decide

end AgeBucket

namespace AgeLabel

theorem toNat_value (age : UInt64) :
    (ofAge age).value.toNat =
      (age.toNat + (ofAge age).bucket.divisor.toNat / 2) / (ofAge age).bucket.divisor.toNat :=
  toNat_roundDiv _ _ (AgeBucket.divisor_pos _)

theorem shows_value (age : UInt64) : (ofAge age).bucket.Shows (ofAge age).value.toNat := by
  rw [toNat_value]
  apply AgeBucket.shows_of_bounds
  · exact (AgeBucket.index_le_index_ofAge_iff _ age).mp (Nat.le_refl _)
  · intro next after
    have unreached := (not_congr (AgeBucket.index_le_index_ofAge_iff next age)).mp
      (after ▸ Nat.not_succ_le_self _)
    exact Nat.lt_of_not_le unreached

theorem toList_text (label : AgeLabel) :
    label.text.toList = Nat.toDigits 10 label.value.toNat ++ ' ' :: label.bucket.unit.toList := by
  rw [text, String.toList_append, String.toList_append, Nat.toList_repr, List.append_assoc]
  rfl

theorem unit_of_text (label : AgeLabel) :
    label.text.toList.dropWhile (· != ' ') = ' ' :: label.bucket.unit.toList := by
  have quiet : ' ' ∉ Nat.toDigits 10 label.value.toNat := by
    intro blank
    exact absurd (Text.Integer.isDigit_of_mem_toDigits blank) (by decide)
  rw [toList_text, Text.dropWhile_mark quiet]

theorem bucket_eq_of_text {first second : AgeLabel} (same : first.text = second.text) :
    first.bucket = second.bucket := by
  have units := first.unit_of_text
  rw [same, second.unit_of_text] at units
  exact AgeBucket.eq_of_unit (List.cons.inj units).2.symm

/-- A label tells its age to the nearest unit of its bucket, a half upwards, found without leaving 64 bits;
it tells two units at least, unless in minutes, and no more than its bucket has room for; and no text is shown
in two buckets. -/
theorem ofAge_is_accurate (age other : UInt64) :
    let label := ofAge age
    let value := label.value.toNat
    let unit := label.bucket.divisor.toNat
    roundDiv? age label.bucket.divisor = some label.value ∧
      2 * (age.toNat : Int) - unit < 2 * value * unit ∧ 2 * (value : Int) * unit ≤ 2 * age.toNat + unit ∧
      label.bucket.Shows value ∧
      (label.text = (ofAge other).text → label.className = (ofAge other).className) := by
  intro label value unit
  have positive : 0 < unit := label.bucket.divisor_pos
  have nearest : 2 * age.toNat < 2 * (value * unit) + unit ∧ 2 * (value * unit) ≤ 2 * age.toNat + unit := by
    rw [show value = (age.toNat + unit / 2) / unit from toNat_value age]
    exact nearest_add_half age.toNat positive
  refine ⟨roundDiv?_eq_some age positive, ?_, ?_, shows_value age, ?_⟩
  · rw [Int.mul_assoc]
    omega
  · rw [Int.mul_assoc]
    omega
  · intro same
    exact congrArg AgeBucket.className (bucket_eq_of_text same)

theorem ofAge_is_accurate_at_greatest_age :
    let label : AgeLabel := ⟨.years, 584942417355⟩
    ofAge 18446744073709551615 = label ∧ label.text = (ofAge 18446744073709551614).text ∧
      roundDiv? 18446744073709551615 31536000 = some 584942417355 ∧
      AgeBucket.years.Shows 584942417355 ∧
      label.className = (ofAge 18446744073709551614).className := by
  intro label
  have told : ofAge 18446744073709551615 = label := by decide
  have before : ofAge 18446744073709551614 = label := by decide
  have same : (ofAge 18446744073709551615).text = (ofAge 18446744073709551614).text := by
    rw [told, before]
  obtain ⟨rounded, _, _, shown, classes⟩ :=
    ofAge_is_accurate 18446744073709551615 18446744073709551614
  have className := classes same
  rw [told] at rounded shown className same
  exact ⟨told, same, rounded, shown, className⟩

end AgeLabel

end PageUpkeep
