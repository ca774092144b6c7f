import PageUpkeep.Calendar.Date
import PageUpkeep.Text.Integer

/-! Dates and times of day at a fixed offset from UTC, and their texts. -/

set_option autoImplicit false

namespace PageUpkeep

/-- The date in the form `YYYY-MM-DD`. A year has four digits or more, after a minus sign where it is
negative. -/
def Date.text (date : Date) : String :=
  (if date.year < 0 then "-" else "") ++ Text.padded 4 date.year.natAbs ++ "-" ++
    Text.padded 2 date.month ++ "-" ++ Text.padded 2 date.day

structure UtcOffset where
  seconds : Int
  within : seconds.natAbs < 26 * 3600
  deriving DecidableEq, Repr

namespace UtcOffset

def utc : UtcOffset :=
  ⟨0, by decide⟩

def ofSeconds? (seconds : Int) : Option UtcOffset :=
  if within : seconds.natAbs < 26 * 3600 then some ⟨seconds, within⟩ else none

/-- Hours and minutes after the sign of the whole offset; left-over seconds are dropped. -/
def text (offset : UtcOffset) : String :=
  let size := offset.seconds.natAbs
  (if offset.seconds < 0 then "-" else "+") ++ Text.padded 2 (size / 3600) ++
    Text.padded 2 (size / 60 % 60)

end UtcOffset

structure LocalTime where
  date : Date
  second : Nat
  deriving DecidableEq, Repr

namespace LocalTime

def daySeconds : Int := 86400

/-- The date and time a number of seconds after 1970-01-01T00:00:00. -/
def ofSeconds (seconds : Int) : LocalTime :=
  ⟨.ofDays (seconds / daySeconds), (seconds % daySeconds).toNat⟩

def toSeconds (time : LocalTime) : Int :=
  time.date.toDays * daySeconds + time.second

@[simp] theorem toSeconds_ofSeconds (seconds : Int) : (ofSeconds seconds).toSeconds = seconds := by
  simp only [ofSeconds, toSeconds, Date.toDays_ofDays, daySeconds]
  omega

def earliest : Int := -377705116800

def latest : Int := 253402300799

/-- Whether a second lies in the years that can be told, -9999 to 9999. -/
def isTellable (seconds : Int) : Bool :=
  earliest ≤ seconds && seconds ≤ latest

def clockText (time : LocalTime) : String :=
  Text.padded 2 (time.second / 3600) ++ ":" ++ Text.padded 2 (time.second / 60 % 60) ++ ":" ++
    Text.padded 2 (time.second % 60)

end LocalTime

end PageUpkeep
