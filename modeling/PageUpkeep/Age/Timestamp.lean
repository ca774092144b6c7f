import PageUpkeep.Text.Blank
import PageUpkeep.Text.Integer

/-! Moments in whole seconds since 1970-01-01T00:00:00 UTC, in 64 bits, and ages between them. -/

set_option autoImplicit false

namespace PageUpkeep

abbrev Timestamp := Int64

namespace Timestamp

def greatestAge : Nat := 9223372036854775807

/-- The age at `now` of what happened at `timestamp`: never negative, and never above the greatest. -/
def age (timestamp now : Timestamp) : UInt64 :=
  UInt64.ofNat (min (now.toInt - timestamp.toInt).toNat greatestAge)

def ofAttribute? (value : String) : Option Timestamp :=
  (Text.Integer.readInt64 (Text.trim value.toList)).toOption

def toAttribute (timestamp : Timestamp) : String :=
  Text.Integer.print timestamp.toInt

end Timestamp

end PageUpkeep
