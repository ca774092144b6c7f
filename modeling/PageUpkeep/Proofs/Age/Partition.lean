import Mathlib.Data.Prod.Lex
import PageUpkeep.Proofs.Age.Growth

/-! The buckets divide the ages in order.

The buckets that would take an age are its own and all coarser ones. What is older is never in a finer bucket
and, inside a bucket, never less; so labels, compared by bucket first and by number next, only go forward.
-/

set_option autoImplicit false

namespace PageUpkeep

namespace AgeBucket

theorem index_le_years (bucket : AgeBucket) : bucket.index ≤ years.index := by
  cases bucket <;> decide

theorem eq_of_index {first second : AgeBucket} (same : first.index = second.index) : first = second := by
  have found := first.table_get?_index
  rw [same, second.table_get?_index] at found
  exact (Option.some.inj found).symm

theorem contains_iff_of_next {bucket next : AgeBucket} (after : next.index = bucket.index + 1)
    (age : UInt64) : bucket.contains age = true ↔ age.toNat < next.least := by
  cases bucket <;> cases next <;> cases after <;>
    simp [contains, limit?, least, UInt64.lt_iff_toNat_lt]

/-- The search for the first bucket that takes an age stops where all further ones would take it too. -/
theorem contains_iff (bucket : AgeBucket) (age : UInt64) :
    bucket.contains age = true ↔ (ofAge age).index ≤ bucket.index := by
  rcases Nat.lt_or_eq_of_le bucket.index_le_years with finer | last
  · obtain ⟨next, after⟩ := exists_next finer
    -- An age below the least one of the next bucket is one that does not reach the next bucket.
    rw [contains_iff_of_next after, ← Nat.not_le, ← index_le_index_ofAge_iff, after, Nat.not_le,
      Nat.lt_succ_iff]
  · rw [eq_of_index last]
    exact iff_of_true rfl (index_le_years _)

theorem index_get_table (position : Fin table.length) : (table.get position).index = position := by
  revert position
  decide

end AgeBucket

theorem AgeLabel.toLex_ofAge_mono {age later : UInt64} (older : age ≤ later) :
    toLex ((ofAge age).bucket.index, (ofAge age).value) ≤
      toLex ((ofAge later).bucket.index, (ofAge later).value) := by
  obtain ⟨buckets, values⟩ := ofAge_mono (UInt64.le_iff_toNat_le.mp older)
  apply Prod.Lex.toLex_le_toLex.mpr
  rcases Nat.lt_or_eq_of_le buckets with coarser | same
  · exact .inl coarser
  · exact .inr ⟨same, values (AgeBucket.eq_of_index same)⟩

/-- Of the buckets in the table just those from the one of an age on take that age; and with age a label goes
on to coarser buckets and, inside a bucket, to greater numbers, and never back. -/
theorem AgeBucket.divide_ages_in_order :
    (∀ (age : UInt64) (position : Fin table.length),
      (table.get position).contains age = true ↔ (ofAge age).index ≤ position) ∧
    ∀ age later : UInt64, age ≤ later →
      toLex ((ofAge age).index, (AgeLabel.ofAge age).value) ≤
        toLex ((ofAge later).index, (AgeLabel.ofAge later).value) := by
  constructor
  · intro age position
    rw [contains_iff, index_get_table]
  · intro age later older
    exact AgeLabel.toLex_ofAge_mono older

theorem AgeBucket.divide_ages_in_order_at_two_hours :
    minutes.contains 7199 = true ∧ minutes.contains 7200 = false ∧ (7199 : UInt64) ≤ 7200 ∧
      toLex (minutes.index, (120 : UInt64)) ≤ toLex (hours.index, 2) := by
  have early : AgeLabel.ofAge 7199 = ⟨.minutes, 120⟩ := by decide
  have late : AgeLabel.ofAge 7200 = ⟨.hours, 2⟩ := by decide
  obtain ⟨takes, goesOn⟩ := divide_ages_in_order
  have onward := goesOn 7199 7200 (by decide)
  rw [early, late] at onward
  have within := (takes 7199 ⟨0, by decide⟩).mpr (by decide)
  have beyond := (not_congr (takes 7200 ⟨0, by decide⟩)).mpr (by decide)
  exact ⟨within, Bool.eq_false_iff.mpr beyond, by decide, onward⟩

end PageUpkeep
