/-! Hexadecimal digits. -/

set_option autoImplicit false

namespace PageUpkeep.Text

def hexValue? (c : Char) : Option Nat :=
  if '0' ≤ c ∧ c ≤ '9' then some (c.toNat - '0'.toNat)
  else if 'a' ≤ c ∧ c ≤ 'f' then some (c.toNat - 'a'.toNat + 10)
  else if 'A' ≤ c ∧ c ≤ 'F' then some (c.toNat - 'A'.toNat + 10)
  else none

/-- The character whose number has some digits, the first of them worth most. -/
def charOfDigits (digits : List Nat) : Option Char :=
  let number := digits.foldl (fun number digit => 16 * number + digit) 0
  if number.isValidChar then some (Char.ofNat number) else none

end PageUpkeep.Text
