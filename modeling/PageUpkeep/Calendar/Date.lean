/-! Dates of the Gregorian calendar, carried on without a break into all years before and after, and
their days counted from 1970-01-01.

Years are taken to begin in March, so that a leap day is the last day of its year. Such years come in
cycles of 400 with 146097 days: three centuries of 36524 days and one of 36525, in every century runs
of four years with 1461 days, of which only the very last of a century may lack a day, and in every
run years of 365 days, of which the last may have one more. So within its cycle a day is found by
three divisions, each but the middle one bounded by the last part.
-/

set_option autoImplicit false

namespace PageUpkeep

structure Date where
  year : Int
  month : Nat
  day : Nat
  deriving DecidableEq, Repr

namespace Date

def isLeapYear (year : Int) : Bool :=
  year % 4 == 0 && (year % 100 != 0 || year % 400 == 0)

def daysInMonth (year : Int) (month : Nat) : Nat :=
  if month = 2 then if isLeapYear year then 29 else 28
  else if month = 4 ∨ month = 6 ∨ month = 9 ∨ month = 11 then 30
  else 31

def IsValid (date : Date) : Prop :=
  1 ≤ date.month ∧ date.month ≤ 12 ∧ 1 ≤ date.day ∧ date.day ≤ daysInMonth date.year date.month

/-- The year within a cycle, from 0, and the day within that year, from 0 for the first of March. -/
def yearAndDay (dayOfCycle : Nat) : Nat × Nat :=
  let century := min (dayOfCycle / 36524) 3
  let dayOfCentury := dayOfCycle - 36524 * century
  let dayOfRun := dayOfCentury % 1461
  let yearOfRun := min (dayOfRun / 365) 3
  (100 * century + 4 * (dayOfCentury / 1461) + yearOfRun, dayOfRun - 365 * yearOfRun)

/-- Days from the first of March to the first of a month, counted from 0 for March. -/
def daysBefore (monthFromMarch : Nat) : Nat :=
  (153 * monthFromMarch + 2) / 5

/-- The days from the first of March of the year 0 to 1970-01-01. -/
def daysToEpoch : Int := 719468

/-- The date of a day in a year that begins in March; months and days of the month count from 0. -/
def ofMarch (year : Int) (month day : Nat) : Date :=
  if month < 10 then ⟨year, month + 3, day + 1⟩ else ⟨year + 1, month - 9, day + 1⟩

def ofDays (days : Int) : Date :=
  let shifted := days + daysToEpoch
  let (year, dayOfYear) := yearAndDay (shifted % 146097).toNat
  let month := (5 * dayOfYear + 2) / 153
  ofMarch (400 * (shifted / 146097) + year) month (dayOfYear - daysBefore month)

def toDays (date : Date) : Int :=
  let year := if date.month ≤ 2 then date.year - 1 else date.year
  365 * year + year / 4 - year / 100 + year / 400 + daysBefore ((date.month + 9) % 12) + date.day - 1
    - daysToEpoch

theorem yearAndDay_days {dayOfCycle : Nat} (bound : dayOfCycle < 146097) :
    let (year, dayOfYear) := yearAndDay dayOfCycle
    dayOfCycle + year / 100 = 365 * year + year / 4 + dayOfYear ∧ year < 400 ∧ dayOfYear < 366 ∧
      (dayOfYear = 365 → year % 4 = 3 ∧ (year % 100 = 99 → year = 399)) := by
  simp only [yearAndDay]
  -- The fourth century of a cycle and the fourth year of a run have a day more than the others.
  generalize century_eq : min (dayOfCycle / 36524) 3 = century
  have centuryBound : century ≤ 3 ∧ 36524 * century ≤ dayOfCycle ∧
      (dayOfCycle - 36524 * century < 36524 ∨ century = 3 ∧ dayOfCycle - 36524 * century ≤ 36524) := by
    omega
  obtain ⟨centuryMax, reached, remaining⟩ := centuryBound
  generalize dayOfCycle_eq : dayOfCycle - 36524 * century = dayOfCentury at remaining ⊢
  generalize run_eq : dayOfCentury / 1461 = run
  generalize dayOfRun_eq : dayOfCentury % 1461 = dayOfRun
  have runBound : dayOfCentury = 1461 * run + dayOfRun ∧ dayOfRun < 1461 ∧ run ≤ 24 := by omega
  obtain ⟨runSum, dayOfRunBound, runMax⟩ := runBound
  generalize year_eq : min (dayOfRun / 365) 3 = yearOfRun
  have yearBound : yearOfRun ≤ 3 ∧ 365 * yearOfRun ≤ dayOfRun ∧
      (dayOfRun - 365 * yearOfRun < 365 ∨ yearOfRun = 3 ∧ dayOfRun - 365 * yearOfRun = 365) := by
    omega
  obtain ⟨yearMax, yearReached, yearRemaining⟩ := yearBound
  have hundreds : (100 * century + 4 * run + yearOfRun) / 100 = century := by omega
  have fours : (100 * century + 4 * run + yearOfRun) / 4 = 25 * century + run := by omega
  rw [hundreds, fours]
  refine ⟨by omega, by omega, by omega, fun last => ?_⟩
  constructor
  · omega
  · intro ending
    omega

theorem toDays_ofMarch {year : Int} {month day : Nat} (bound : month < 12) :
    (ofMarch year month day).toDays =
      365 * year + year / 4 - year / 100 + year / 400 + daysBefore month + day - daysToEpoch := by
  unfold ofMarch toDays
  by_cases early : month < 10
  · have later : ¬ month + 3 ≤ 2 := by omega
    have wrap : (month + 3 + 9) % 12 = month := by omega
    simp only [early, if_true, later, if_false, wrap]
    omega
  · have start : month - 9 ≤ 2 := by omega
    have wrap : (month - 9 + 9) % 12 = month := by omega
    simp only [early, if_false, start, if_true, wrap]
    omega

theorem toDays_ofDays (days : Int) : (ofDays days).toDays = days := by
  simp only [ofDays]
  have within : ((days + daysToEpoch) % 146097).toNat < 146097 := by omega
  have facts := yearAndDay_days within
  generalize yearAndDay ((days + daysToEpoch) % 146097).toNat = result at within facts ⊢
  obtain ⟨year, dayOfYear⟩ := result
  obtain ⟨sum, yearBound, dayBound, -⟩ := facts
  dsimp only at sum ⊢
  rw [toDays_ofMarch (by omega)]
  have reached : daysBefore ((5 * dayOfYear + 2) / 153) ≤ dayOfYear := by
    unfold daysBefore
    omega
  generalize cycle_eq : (days + daysToEpoch) / 146097 = cycle
  have fours : (400 * cycle + (year : Int)) / 4 = 100 * cycle + (year / 4 : Nat) := by omega
  have hundreds : (400 * cycle + (year : Int)) / 100 = 4 * cycle + (year / 100 : Nat) := by omega
  have whole : (400 * cycle + (year : Int)) / 400 = cycle := by omega
  rw [fours, hundreds, whole]
  omega

theorem isValid_ofDays (days : Int) : (ofDays days).IsValid := by
  simp only [ofDays]
  have within : ((days + daysToEpoch) % 146097).toNat < 146097 := by omega
  have facts := yearAndDay_days within
  generalize yearAndDay ((days + daysToEpoch) % 146097).toNat = result at within facts ⊢
  obtain ⟨year, dayOfYear⟩ := result
  obtain ⟨-, yearBound, dayBound, leapDay⟩ := facts
  dsimp only at leapDay ⊢
  generalize (days + daysToEpoch) / 146097 = cycle
  -- The last day of a leap year is in February, and so in the next year of the calendar.
  have leap : dayOfYear = 365 → isLeapYear (400 * cycle + year + 1) = true := by
    intro last
    obtain ⟨fours, hundreds⟩ := leapDay last
    have divisible : (400 * cycle + (year : Int) + 1) % 4 = 0 := by omega
    by_cases ending : year % 100 = 99
    · have : (400 * cycle + (year : Int) + 1) % 400 = 0 := by
        have := hundreds ending
        omega
      simp [isLeapYear, divisible, this]
    · have : (400 * cycle + (year : Int) + 1) % 100 ≠ 0 := by omega
      simp [isLeapYear, divisible, this]
  generalize month_eq : (5 * dayOfYear + 2) / 153 = month
  have monthBound : month < 12 := by omega
  unfold ofMarch IsValid daysInMonth daysBefore
  by_cases early : month < 10
  · have : month + 3 ≠ 2 := by omega
    simp only [early, if_true, this, if_false]
    split <;> omega
  · rcases show month = 10 ∨ month = 11 by omega with rfl | rfl
    · simp
      omega
    · have last : dayOfYear = 365 → isLeapYear (400 * cycle + year + 1) = true := leap
      by_cases whole : isLeapYear (400 * cycle + year + 1) = true
      · simp [whole]
        omega
      · have : dayOfYear ≠ 365 := fun same => whole (leap same)
        simp [whole]
        omega

end Date

end PageUpkeep
