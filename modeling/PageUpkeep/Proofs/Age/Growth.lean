import PageUpkeep.Age.Timestamp
import PageUpkeep.Proofs.Age.Rounding

/-! How a label grows while the clock goes on.

Ages keep step with the clock except at the two ends of their range, where they stand still. As long as
the clock advances by no more than the refresh of its bucket, a label goes to the next bucket at most
and, inside its bucket, to the next number at most.
-/

set_option autoImplicit false

namespace PageUpkeep

namespace Timestamp

theorem toNat_age (timestamp now : Timestamp) :
    (timestamp.age now).toNat = min (now.toInt - timestamp.toInt).toNat greatestAge := by
  have small : min (now.toInt - timestamp.toInt).toNat greatestAge < 2 ^ 64 :=
    Nat.lt_of_le_of_lt (Nat.min_le_right _ _) (by decide)
  exact UInt64.toNat_ofNat_of_lt' small

theorem age_mono (timestamp : Timestamp) {now later : Timestamp} (onward : now.toInt ≤ later.toInt) :
    (timestamp.age now).toNat ≤ (timestamp.age later).toNat := by
  rw [toNat_age, toNat_age]
  omega

theorem age_le_age_add (timestamp : Timestamp) {now later : Timestamp} {delay : Nat}
    (soon : later.toInt ≤ now.toInt + delay) :
    (timestamp.age later).toNat ≤ (timestamp.age now).toNat + delay := by
  rw [toNat_age, toNat_age]
  omega

end Timestamp

namespace AgeBucket

theorem ofAge_eq (age : UInt64) :
    ofAge age =
      if age.toNat < 7200 then minutes
      else if age.toNat < 172800 then hours
      else if age.toNat < 1209600 then days
      else if age.toNat < 5184000 then weeks
      else if age.toNat < 65700000 then months
      else years := by
  simp only [ofAge, table, List.find?, contains, limit?, UInt64.lt_iff_toNat_lt]
  grind

def least : AgeBucket → Nat
  | minutes => 0
  | hours => 7200
  | days => 172800
  | weeks => 1209600
  | months => 5184000
  | years => 65700000

theorem index_le_index_ofAge_iff (bucket : AgeBucket) (age : UInt64) :
    bucket.index ≤ (ofAge age).index ↔ bucket.least ≤ age.toNat := by
  rw [ofAge_eq]
  cases bucket <;> grind [index, least]

theorem index_ofAge_mono {age later : UInt64} (older : age.toNat ≤ later.toNat) :
    (ofAge age).index ≤ (ofAge later).index := by
  have reached := (index_le_index_ofAge_iff (ofAge age) age).mp (Nat.le_refl _)
  exact (index_le_index_ofAge_iff (ofAge age) later).mpr (Nat.le_trans reached older)

theorem refresh_mono {first second : AgeBucket} (finer : first.index ≤ second.index) :
    first.refresh ≤ second.refresh := by
  revert finer
  cases first <;> cases second <;> decide

theorem refresh_le_idleRefresh (bucket : AgeBucket) : bucket.refresh ≤ idleRefresh := by
  cases bucket <;> decide

theorem add_refresh_lt_least {first next second : AgeBucket} (after : next.index = first.index + 1)
    (beyond : next.index < second.index) : next.least + first.refresh.toNat ≤ second.least := by
  revert after beyond
  cases first <;> cases next <;> cases second <;> decide

theorem exists_next {first second : AgeBucket} (finer : first.index < second.index) :
    ∃ next : AgeBucket, next.index = first.index + 1 := by
  cases first
  case years => cases second <;> exact absurd finer (by decide)
  case minutes => exact ⟨hours, rfl⟩
  case hours => exact ⟨days, rfl⟩
  case days => exact ⟨weeks, rfl⟩
  case weeks => exact ⟨months, rfl⟩
  case months => exact ⟨years, rfl⟩

theorem index_ofAge_le_succ {age later : UInt64}
    (soon : later.toNat ≤ age.toNat + (ofAge age).refresh.toNat) :
    (ofAge later).index ≤ (ofAge age).index + 1 := by
  apply Nat.le_of_not_lt
  intro leapt
  -- A leap would pass the whole bucket next to the first, which takes longer than a refresh.
  obtain ⟨next, after⟩ := exists_next (Nat.lt_trans (Nat.lt_succ_self _) leapt)
  have gap := add_refresh_lt_least after (after ▸ leapt)
  have reached := (index_le_index_ofAge_iff (ofAge later) later).mp (Nat.le_refl _)
  have unreached := (not_congr (index_le_index_ofAge_iff next age)).mp (by omega)
  omega

theorem refresh_le_divisor (bucket : AgeBucket) : bucket.refresh.toNat ≤ bucket.divisor.toNat := by
  cases bucket <;> decide

theorem divisor_pos (bucket : AgeBucket) : 0 < bucket.divisor.toNat := by
  cases bucket <;> decide

end AgeBucket

namespace AgeLabel

theorem ofAge_mono {age later : UInt64} (older : age.toNat ≤ later.toNat) :
    (ofAge age).bucket.index ≤ (ofAge later).bucket.index ∧
      ((ofAge age).bucket = (ofAge later).bucket → (ofAge age).value ≤ (ofAge later).value) := by
  refine ⟨AgeBucket.index_ofAge_mono older, fun same => ?_⟩
  have units : AgeBucket.ofAge age = AgeBucket.ofAge later := same
  have values := roundDiv_mono (AgeBucket.divisor_pos (AgeBucket.ofAge later)) older
  rw [UInt64.le_iff_toNat_le]
  simpa only [ofAge, units] using values

theorem ofAge_next {age later : UInt64} (older : age.toNat ≤ later.toNat)
    (soon : later.toNat ≤ age.toNat + (ofAge age).bucket.refresh.toNat) :
    ((ofAge later).bucket.index = (ofAge age).bucket.index ∨
        (ofAge later).bucket.index = (ofAge age).bucket.index + 1) ∧
      ((ofAge later).bucket = (ofAge age).bucket →
        (ofAge later).value.toNat = (ofAge age).value.toNat ∨
          (ofAge later).value.toNat = (ofAge age).value.toNat + 1) := by
  constructor
  · have onward := AgeBucket.index_ofAge_mono older
    have bounded := AgeBucket.index_ofAge_le_succ soon
    change (AgeBucket.ofAge later).index = (AgeBucket.ofAge age).index ∨
      (AgeBucket.ofAge later).index = (AgeBucket.ofAge age).index + 1
    omega
  · intro same
    -- In the same bucket both values count the same unit, which is no shorter than the refresh.
    have withinUnit := AgeBucket.refresh_le_divisor (AgeBucket.ofAge age)
    have units : AgeBucket.ofAge later = AgeBucket.ofAge age := same
    have soonEnough : later.toNat ≤ age.toNat + (AgeBucket.ofAge age).divisor.toNat :=
      Nat.le_trans soon (Nat.add_le_add_left withinUnit _)
    have next := roundDiv_next (AgeBucket.divisor_pos _) older soonEnough
    simpa only [ofAge, units] using next

end AgeLabel

end PageUpkeep
