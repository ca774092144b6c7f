import PageUpkeep.Age.Label
import PageUpkeep.Age.Timestamp
import PageUpkeep.Calendar.LocalTime
import PageUpkeep.Html.Escape

/-! Age labels as markup: a `span` element that a page carries from the start and that a sweep finds
up to date, or a plain date for what is too long ago. -/

set_option autoImplicit false

namespace PageUpkeep

inductive SpanError where
  /-- In UTC the timestamp lies outside the years that can be told. -/
  | timestampOutOfRange
  /-- At the offset it does, though not in UTC. There is no answer then. -/
  | localTimeOutOfRange
  deriving DecidableEq, Repr

namespace SpanError

def cause : SpanError → String
  | timestampOutOfRange => "timestamp was not in range"
  | localTimeOutOfRange => "local time was not in range"

def message (error : SpanError) : String :=
  "timestamp out of range: " ++ error.cause

end SpanError

namespace AgeSpan

/-- Date, time and offset of a moment, in the form `YYYY-MM-DD HH:MM:SS +HHMM`. -/
def title (offset : UtcOffset) (time : LocalTime) : String :=
  time.date.text ++ " " ++ time.clockText ++ " " ++ offset.text

def relative (label : AgeLabel) (timestamp : Timestamp) (title : String) : String :=
  "<span class='" ++ Html.escape label.className ++ "' data-ut='" ++
    Html.escape timestamp.toAttribute ++ "' title='" ++ Html.escape title ++ "'>" ++
    Html.escape label.text ++ "</span>"

def absolute (date : Date) (title : String) : String :=
  "<span title='" ++ Html.escape title ++ "'>" ++ Html.escape date.text ++ "</span>"

/-- Whether an age is above the greatest one to be shown as a label; a negative bound is none. -/
def isTooOld (longest : Option Int64) (age : UInt64) : Bool :=
  match longest with
  | some bound => 0 ≤ bound.toInt && bound.toInt < age.toNat
  | none => false

def localTime (offset : UtcOffset) (timestamp : Timestamp) : Except SpanError LocalTime :=
  let seconds := timestamp.toInt + offset.seconds
  if !LocalTime.isTellable timestamp.toInt then .error .timestampOutOfRange
  else if !LocalTime.isTellable seconds then .error .localTimeOutOfRange
  else .ok (.ofSeconds seconds)

/-- The markup for a timestamp as seen at `now`. The timestamp zero stands for no moment and has no
markup. -/
def render (offset : UtcOffset) (timestamp now : Timestamp) (longest : Option Int64) :
    Except SpanError String :=
  if timestamp = 0 then .ok ""
  else (localTime offset timestamp).map fun time =>
    let age := timestamp.age now
    if isTooOld longest age then absolute time.date (title offset time)
    else relative (.ofAge age) timestamp (title offset time)

end AgeSpan

end PageUpkeep
