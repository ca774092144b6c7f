import PageUpkeep.Calendar.LocalTime

/-! The years that can be told, by their number and by their first and last second. -/

set_option autoImplicit false

namespace PageUpkeep

namespace Date

variable {date : Date}

theorem daysInMonth_le (year : Int) (month : Nat) : daysInMonth year month ≤ 31 := by
  unfold daysInMonth
  split
  · split <;> decide
  · split <;> decide

theorem toDays_within_year (valid : date.IsValid) :
    toDays ⟨date.year, 1, 1⟩ ≤ date.toDays ∧ date.toDays < toDays ⟨date.year + 1, 1, 1⟩ := by
  obtain ⟨least, greatest, first, last⟩ := valid
  have days := daysInMonth_le date.year date.month
  simp only [toDays, daysBefore]
  by_cases early : date.month ≤ 2
  · have wrap : (date.month + 9) % 12 = date.month + 9 := by omega
    rw [if_pos early, if_pos (by decide), if_pos (by decide), wrap]
    omega
  · have wrap : (date.month + 9) % 12 = date.month - 3 := by omega
    rw [if_neg early, if_pos (by decide), if_pos (by decide), wrap]
    omega

theorem toDays_january_mono {year later : Int} (order : year ≤ later) :
    toDays ⟨year, 1, 1⟩ ≤ toDays ⟨later, 1, 1⟩ := by
  simp only [toDays, if_pos (by decide : 1 ≤ 2)]
  omega

theorem lt_year_iff (valid : date.IsValid) (year : Int) :
    date.year < year ↔ date.toDays < toDays ⟨year, 1, 1⟩ := by
  obtain ⟨begun, ending⟩ := toDays_within_year valid
  constructor
  · intro earlier
    exact Int.lt_of_lt_of_le ending (toDays_january_mono (Int.add_one_le_of_lt earlier))
  · intro before
    apply Int.not_le.mp
    intro later
    have reached := toDays_january_mono later
    omega

end Date

namespace LocalTime

theorem second_ofSeconds_lt (seconds : Int) : (ofSeconds seconds).second < 24 * 60 * 60 := by
  simp only [ofSeconds, daySeconds]
  omega

theorem isTellable_iff (seconds : Int) :
    isTellable seconds = true ↔
      -9999 ≤ (ofSeconds seconds).date.year ∧ (ofSeconds seconds).date.year ≤ 9999 := by
  have valid := Date.isValid_ofDays (seconds / daySeconds)
  have first := Date.lt_year_iff valid (-9999)
  have last := Date.lt_year_iff valid 10000
  have firstDay : Date.toDays ⟨-9999, 1, 1⟩ = -4371587 := by decide
  have dayAfter : Date.toDays ⟨10000, 1, 1⟩ = 2932897 := by decide
  rw [Date.toDays_ofDays, firstDay, daySeconds] at first
  rw [Date.toDays_ofDays, dayAfter, daySeconds] at last
  simp only [isTellable, Bool.and_eq_true, decide_eq_true_eq]
  simp only [ofSeconds, earliest, latest, daySeconds]
  omega

end LocalTime

end PageUpkeep
