import PageUpkeep.Age.Span
import PageUpkeep.Template.Engine

/-! The template filter that turns a timestamp into its span, and templates that use it.

The filter takes the timestamp and, if it is given, the greatest age to be shown as a label. The span is markup
already and is put out as it is.
-/

set_option autoImplicit false

namespace PageUpkeep.Template

variable (engine : Engine)

/-- Where there is no local time to be told there is no answer at all. -/
def spanFault : SpanError → Fault engine.Failure
  | .timestampOutOfRange =>
    .failure (engine.failure engine.invalidOperation SpanError.timestampOutOfRange.message)
  | .localTimeOutOfRange => .panic

def ageSpan (offset : UtcOffset) (now timestamp : Timestamp) (longest : Option Int64) :
    Except (Fault engine.Failure) engine.Value :=
  ((AgeSpan.render offset timestamp now longest).map engine.safe).mapError (spanFault engine)

/-- Adds the filter to those of an engine, in place of any of its name. -/
def registerAge (offset : UtcOffset) (now : Timestamp) (filters : Filters engine.Value engine.Failure) :
    Filters engine.Value engine.Failure :=
  fun name => if name = "age" then some (engine.filter (ageSpan engine offset now)) else filters name

def ageCall (positional : List Operand) (keyed : List (String × Operand)) : Expression :=
  .filtered (.operand (.read "ts")) "age" positional keyed

def ageCell (positional : List Operand) (keyed : List (String × Operand)) : List Piece :=
  [.verbatim "<td>", .shown (ageCall positional keyed), .verbatim "</td>"]

def agePresence (positional : List Operand) : List Piece :=
  [.choice (ageCall positional []) "shown" "empty"]

end PageUpkeep.Template
