import PageUpkeep.Age.Label

/-! Rounding half up in 64 bits.

The rounded quotient is the quotient of the dividend with half a divisor added to it. Rounding never adds the
two, for the sum may leave 64 bits; what it does instead stays inside them at every step.
-/

set_option autoImplicit false

namespace PageUpkeep

theorem div_add_half (dividend : Nat) {divisor : Nat} (positive : 0 < divisor) :
    (dividend / divisor + if divisor - divisor / 2 ≤ dividend % divisor then 1 else 0) =
      (dividend + divisor / 2) / divisor := by
  have parts := Nat.div_add_mod dividend divisor
  have inside := Nat.mod_lt dividend positive
  rw [Nat.mul_comm] at parts
  symm
  -- The lower half fills the quotient up to the next number just where the remainder reaches the upper half.
  split
  · apply Nat.div_eq_of_lt_le
    · rw [Nat.add_mul]
      omega
    · rw [Nat.add_mul, Nat.add_mul]
      omega
  · apply Nat.div_eq_of_lt_le
    · rw [Nat.add_zero]
      omega
    · rw [Nat.add_zero, Nat.add_mul]
      omega

theorem add_half_div_le (dividend : Nat) {divisor : Nat} (positive : 0 < divisor) :
    (dividend + divisor / 2) / divisor ≤ dividend := by
  apply Nat.le_of_lt_succ
  apply Nat.div_lt_of_lt_mul
  have grown : dividend ≤ divisor * dividend := Nat.le_mul_of_pos_left dividend positive
  rw [Nat.mul_succ]
  omega

theorem half_le (divisor : UInt64) : divisor / 2 ≤ divisor := by
  rw [UInt64.le_iff_toNat_le, UInt64.toNat_div]
  exact Nat.div_le_self _ _

theorem toNat_roundUp (dividend divisor : UInt64) :
    (if divisor - divisor / 2 ≤ dividend % divisor then 1 else 0 : UInt64).toNat =
      if divisor.toNat - divisor.toNat / 2 ≤ dividend.toNat % divisor.toNat then 1 else 0 := by
  have half : (divisor / 2).toNat = divisor.toNat / 2 := UInt64.toNat_div _ _
  simp only [UInt64.le_iff_toNat_le, UInt64.toNat_mod, UInt64.toNat_sub_of_le _ _ (half_le divisor), half]
  split
  · rfl
  · rfl

theorem roundDiv_fits (dividend : UInt64) {divisor : UInt64} (positive : 0 < divisor.toNat) :
    (dividend / divisor).toNat +
        (if divisor - divisor / 2 ≤ dividend % divisor then 1 else 0 : UInt64).toNat < UInt64.size := by
  -- Together they are no more than what is divided.
  rw [toNat_roundUp, UInt64.toNat_div, div_add_half _ positive]
  exact Nat.lt_of_le_of_lt (add_half_div_le _ positive) dividend.toNat_lt

/-- Rounding in 64 bits is rounding half up: none of its steps can leave them. -/
theorem toNat_roundDiv (dividend divisor : UInt64) (positive : 0 < divisor.toNat) :
    (roundDiv dividend divisor).toNat =
      (dividend.toNat + divisor.toNat / 2) / divisor.toNat := by
  rw [roundDiv, UInt64.toNat_add, Nat.mod_eq_of_lt (roundDiv_fits dividend positive), toNat_roundUp,
    UInt64.toNat_div, div_add_half _ positive]

theorem nearest_add_half (dividend : Nat) {divisor : Nat} (positive : 0 < divisor) :
    2 * dividend < 2 * ((dividend + divisor / 2) / divisor * divisor) + divisor ∧
      2 * ((dividend + divisor / 2) / divisor * divisor) ≤ 2 * dividend + divisor := by
  have parts := Nat.div_add_mod (dividend + divisor / 2) divisor
  have inside := Nat.mod_lt (dividend + divisor / 2) positive
  rw [Nat.mul_comm] at parts
  omega

theorem roundDiv_mono {first second divisor : UInt64} (positive : 0 < divisor.toNat)
    (older : first.toNat ≤ second.toNat) :
    (roundDiv first divisor).toNat ≤ (roundDiv second divisor).toNat := by
  rw [toNat_roundDiv first divisor positive, toNat_roundDiv second divisor positive]
  exact Nat.div_le_div_right (Nat.add_le_add_right older _)

/-- Half-up rounding goes on by one at most while its argument goes on by one divisor at most. -/
theorem roundDiv_next {first second divisor : UInt64} (positive : 0 < divisor.toNat)
    (older : first.toNat ≤ second.toNat) (soon : second.toNat ≤ first.toNat + divisor.toNat) :
    (roundDiv second divisor).toNat = (roundDiv first divisor).toNat ∨
      (roundDiv second divisor).toNat = (roundDiv first divisor).toNat + 1 := by
  have lower := roundDiv_mono positive older
  rw [toNat_roundDiv first divisor positive, toNat_roundDiv second divisor positive] at lower ⊢
  have upper : (second.toNat + divisor.toNat / 2) / divisor.toNat ≤
      (first.toNat + divisor.toNat / 2) / divisor.toNat + 1 := by
    rw [← Nat.add_div_right _ positive]
    exact Nat.div_le_div_right (by omega)
  omega

namespace Word

def divide? (dividend divisor : UInt64) : Option UInt64 :=
  if divisor = 0 then none else some (dividend / divisor)

def remainder? (dividend divisor : UInt64) : Option UInt64 :=
  if divisor = 0 then none else some (dividend % divisor)

def subtract? (first second : UInt64) : Option UInt64 :=
  if second ≤ first then some (first - second) else none

def add? (first second : UInt64) : Option UInt64 :=
  if first.toNat + second.toNat < UInt64.size then some (first + second) else none

end Word

/-- Rounding where each step is looked at, given up at the first one that leaves 64 bits. -/
def roundDiv? (dividend divisor : UInt64) : Option UInt64 := do
  let quotient ← Word.divide? dividend divisor
  let remainder ← Word.remainder? dividend divisor
  let half ← Word.divide? divisor 2
  let upper ← Word.subtract? divisor half
  Word.add? quotient (if upper ≤ remainder then 1 else 0)

theorem roundDiv?_eq_some (dividend : UInt64) {divisor : UInt64} (positive : 0 < divisor.toNat) :
    roundDiv? dividend divisor = some (roundDiv dividend divisor) := by
  have divides : divisor ≠ 0 := by
    rintro rfl
    exact Nat.lt_irrefl _ positive
  have halved : Word.divide? divisor 2 = some (divisor / 2) := if_neg (by decide)
  have upper : Word.subtract? divisor (divisor / 2) = some (divisor - divisor / 2) := if_pos (half_le divisor)
  rw [roundDiv?, Word.divide?, Word.remainder?, if_neg divides, if_neg divides, halved]
  simp only [Option.bind_eq_bind, Option.bind_some, upper]
  exact if_pos (roundDiv_fits dividend positive)

theorem add_half_div_eq (dividend divisor : Nat) :
    (dividend + divisor / 2) / divisor = (2 * dividend + divisor) / (2 * divisor) := by
  -- An odd divisor loses nothing: its half is cut off, but so is the half of the sum.
  have half : (2 * dividend + divisor) / 2 = dividend + divisor / 2 := by omega
  rw [← Nat.div_div_eq_div_mul, half]

/-- Whatever is divided by, zero aside: each step of rounding stays inside 64 bits, the result is the one that
numbers of any size have, larger numbers are not rounded to smaller ones, and the result goes on by one at most
while what is rounded goes on by one divisor at most. -/
theorem roundDiv_exact {divisor : UInt64} (positive : 0 < divisor) :
    (∀ dividend : UInt64,
        roundDiv? dividend divisor = some (roundDiv dividend divisor) ∧
          (roundDiv dividend divisor).toNat =
            (2 * dividend.toNat + divisor.toNat) / (2 * divisor.toNat)) ∧
      ∀ first second : UInt64, first ≤ second →
        roundDiv first divisor ≤ roundDiv second divisor ∧
          (second.toNat - first.toNat ≤ divisor.toNat →
            (roundDiv second divisor).toNat ≤ (roundDiv first divisor).toNat + 1) := by
  have divides : 0 < divisor.toNat := UInt64.lt_iff_toNat_lt.mp positive
  constructor
  · intro dividend
    refine ⟨roundDiv?_eq_some dividend divides, ?_⟩
    rw [toNat_roundDiv dividend divisor divides, add_half_div_eq]
  · intro first second larger
    have order : first.toNat ≤ second.toNat := UInt64.le_iff_toNat_le.mp larger
    refine ⟨UInt64.le_iff_toNat_le.mpr (roundDiv_mono divides order), fun near => ?_⟩
    have soon : second.toNat ≤ first.toNat + divisor.toNat := by omega
    have next := roundDiv_next divides order soon
    omega

/-- At the upper end of 64 bits, where doubling would leave them: with the least divisor, and with the greatest,
which is odd. -/
theorem roundDiv_exact_at_greatest :
    let greatest : UInt64 := 18446744073709551615
    let lower : UInt64 := 9223372036854775807
    let upper : UInt64 := 9223372036854775808
    (0 : UInt64) < 1 ∧ 0 < greatest ∧ lower ≤ upper ∧ upper.toNat - lower.toNat ≤ greatest.toNat ∧
      roundDiv? greatest 1 = some greatest ∧
      (roundDiv greatest 1).toNat = (2 * 18446744073709551615 + 1) / 2 ∧
      roundDiv? upper greatest = some 1 ∧ roundDiv? lower greatest = some 0 ∧
      roundDiv lower greatest ≤ roundDiv upper greatest ∧
      (roundDiv upper greatest).toNat ≤ (roundDiv lower greatest).toNat + 1 := by
  intro greatest lower upper
  have least : (0 : UInt64) < 1 := by decide
  have positive : 0 < greatest := by decide
  have larger : lower ≤ upper := by decide
  have near : upper.toNat - lower.toNat ≤ greatest.toNat := by decide
  obtain ⟨whole, _⟩ := roundDiv_exact least
  obtain ⟨rounds, keeps⟩ := roundDiv_exact positive
  obtain ⟨order, next⟩ := keeps lower upper larger
  have single : roundDiv greatest 1 = greatest := by decide
  have up : roundDiv upper greatest = 1 := by decide
  have down : roundDiv lower greatest = 0 := by decide
  refine ⟨least, positive, larger, near, ?_, (whole greatest).2, ?_, ?_, order, next near⟩
  · rw [(whole greatest).1, single]
  · rw [(rounds upper).1, up]
  · rw [(rounds lower).1, down]

end PageUpkeep
