import Mathlib.Algebra.BigOperators.Intervals
import Mathlib.Tactic.IntervalCases
import PageUpkeep.Calendar.Date

/-! The number of a day, counted out.

From 1970-01-01 on a date is as many days away as the years before it have, and the months of its own year
before it, and the days of its own month before it; a date before 1970 is reached by going back whole years
first. The number that a date has by its formula is this count.
-/

set_option autoImplicit false

namespace PageUpkeep.Date

def daysInYear (year : Int) : Nat :=
  if isLeapYear year then 366 else 365

/-- The days from 1970-01-01 to a date, by the lengths of years and months. -/
def daysFromEpoch (date : Date) : Int :=
  let yearsSince := ∑ year ∈ Finset.range (date.year - 1970).toNat, daysInYear (1970 + year)
  let yearsUntil := ∑ year ∈ Finset.range (1970 - date.year).toNat, daysInYear (date.year + year)
  let months := ∑ month ∈ Finset.Ico 1 date.month, daysInMonth date.year month
  yearsSince - yearsUntil + months + (date.day - 1)

theorem isLeapYear_iff (year : Int) :
    isLeapYear year = true ↔ year % 4 = 0 ∧ (year % 100 ≠ 0 ∨ year % 400 = 0) := by
  simp [isLeapYear]

theorem toDays_year_succ (year : Int) :
    toDays ⟨year + 1, 1, 1⟩ = toDays ⟨year, 1, 1⟩ + daysInYear year := by
  have leap := isLeapYear_iff year
  simp only [toDays, if_pos (by decide : 1 ≤ 2), daysInYear]
  split
  · rename_i whole
    have := leap.mp whole
    omega
  · rename_i short
    have := (not_congr leap).mp short
    omega

theorem toDays_month_succ (year : Int) {month : Nat} (first : 1 ≤ month) (notLast : month < 12) :
    toDays ⟨year, month + 1, 1⟩ = toDays ⟨year, month, 1⟩ + daysInMonth year month := by
  by_cases february : month = 2
  · -- Here the year of the formula begins, and the day before it is there in leap years only.
    subst february
    have leap := isLeapYear_iff year
    simp only [toDays, daysBefore, daysInMonth, if_pos (Nat.le_refl 2), if_neg (by decide : ¬ 2 + 1 ≤ 2),
      if_true]
    split
    · rename_i whole
      have := leap.mp whole
      omega
    · rename_i short
      have := (not_congr leap).mp short
      omega
  · interval_cases month <;> simp [toDays, daysBefore, daysInMonth] at february ⊢ <;> omega

theorem sum_daysInYear (first : Int) (count : Nat) :
    ((∑ year ∈ Finset.range count, daysInYear (first + year) : Nat) : Int) =
      toDays ⟨first + count, 1, 1⟩ - toDays ⟨first, 1, 1⟩ := by
  induction count with
  | zero => simp
  | succ count ih =>
    have next := toDays_year_succ (first + count)
    rw [Finset.sum_range_succ, Nat.cast_add, ih, Nat.cast_succ, ← Int.add_assoc, next]
    omega

theorem sum_daysInMonth (year : Int) {month : Nat} (first : 1 ≤ month) (last : month ≤ 12) :
    ((∑ earlier ∈ Finset.Ico 1 month, daysInMonth year earlier : Nat) : Int) =
      toDays ⟨year, month, 1⟩ - toDays ⟨year, 1, 1⟩ := by
  induction month, first using Nat.le_induction with
  | base => simp
  | succ month first ih =>
    rw [Finset.sum_Ico_succ_top first, Nat.cast_add, ih (Nat.le_of_succ_le last),
      toDays_month_succ year first last]
    omega

theorem toDays_day (year : Int) (month day : Nat) :
    toDays ⟨year, month, day⟩ = toDays ⟨year, month, 1⟩ + (day - 1) := by
  unfold toDays
  dsimp only
  omega

theorem toDays_eq_daysFromEpoch {date : Date} (valid : date.IsValid) :
    date.toDays = date.daysFromEpoch := by
  obtain ⟨first, last, _, _⟩ := valid
  have day := toDays_day date.year date.month date.day
  have months := sum_daysInMonth date.year first last
  have epoch : toDays ⟨1970, 1, 1⟩ = 0 := by decide
  have later := sum_daysInYear 1970 (date.year - 1970).toNat
  have earlier := sum_daysInYear date.year (1970 - date.year).toNat
  rw [daysFromEpoch, months, day, later, earlier]
  -- One of the two spans of years is empty.
  rcases Int.le_total 1970 date.year with after | before
  · have reached : 1970 + ((date.year - 1970).toNat : Int) = date.year := by omega
    have none : (1970 - date.year).toNat = 0 := by omega
    rw [reached, none, epoch, Int.natCast_zero, Int.add_zero]
    omega
  · have reached : date.year + ((1970 - date.year).toNat : Int) = 1970 := by omega
    have none : (date.year - 1970).toNat = 0 := by omega
    rw [reached, none, epoch, Int.natCast_zero, Int.add_zero, epoch]
    omega

end PageUpkeep.Date
