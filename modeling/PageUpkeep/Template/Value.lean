import PageUpkeep.Template.Engine

/-! The values that variables of a template have, and reading a whole number from one. -/

set_option autoImplicit false

namespace PageUpkeep.Template

inductive Value where
  | undefined
  | none
  | bool (value : Bool)
  | integer (value : Int)
  | float (value : Float)
  | text (value : String)
  /-- A text that is markup already. -/
  | safe (value : String)
  | list (items : List Value)
  | map (entries : List (String × Value))

instance : Inhabited Value := ⟨.undefined⟩

namespace Value

mutual

def ofDatum : Datum → Value
  | .undefined => undefined
  | .none => none
  | .bool value => bool value
  | .signed value => integer value.toInt
  | .unsigned value => integer value.toNat
  | .text value => text value
  | .list items => list (ofData items)

def ofData : List Datum → List Value
  | [] => []
  | datum :: rest => ofDatum datum :: ofData rest

end

def kind : Value → String
  | undefined => "undefined"
  | none => "none"
  | bool _ => "bool"
  | integer _ | float _ => "number"
  | text _ | safe _ => "string"
  | list _ => "sequence"
  | map _ => "map"

/-- The integer of 64 bits that a value stands for: a number without a fraction, or 0 and 1 for false
and true. The float 2 ^ 63 is taken for the greatest integer, next to which no other float lies. -/
def toInt64? : Value → Option Int64
  | bool value => some (if value then 1 else 0)
  | integer value =>
    if Int64.minValue.toInt ≤ value ∧ value ≤ Int64.maxValue.toInt then some (Int64.ofInt value)
    else Option.none
  | float value => if value.toInt64.toFloat == value then some value.toInt64 else Option.none
  | _ => Option.none

def isAbsent : Value → Bool
  | undefined | none => true
  | _ => false

def isTrue : Value → Bool
  | undefined | none => false
  | bool value => value
  | integer value => value != 0
  | float value => value != 0
  | text value | safe value => !value.isEmpty
  | list items => !items.isEmpty
  | map entries => !entries.isEmpty

def toText (other : Value → String) : Value → String
  | text value | safe value => value
  | value => other value

end Value

end PageUpkeep.Template
