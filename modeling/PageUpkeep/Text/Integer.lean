/-! Decimal integers of a bounded range: an optional sign, then digits. Reading names the first
reason, from the left, for which a text is refused; printing writes the shortest text. -/

set_option autoImplicit false

namespace PageUpkeep.Text

inductive IntegerFault where
  | empty
  | invalidDigit
  | tooLarge
  | tooSmall
  deriving DecidableEq, Repr

def IntegerFault.message : IntegerFault → String
  | .empty => "cannot parse integer from empty string"
  | .invalidDigit => "invalid digit found in string"
  | .tooLarge => "number too large to fit in target type"
  | .tooSmall => "number too small to fit in target type"

def Integer.print (n : Int) : String :=
  n.repr

def padded (width n : Nat) : String :=
  let digits := Nat.toDigits 10 n
  String.ofList (List.replicate (width - digits.length) '0' ++ digits)

namespace Integer

/-- Reads digits without a sign, refusing what leaves `0..limit` as soon as it does so. -/
def magnitude (limit : Nat) (overflow : IntegerFault) (cs : List Char) : Except IntegerFault Nat :=
  let digits := cs.takeWhile Char.isDigit
  let value := Nat.ofDigitChars 10 digits 0
  if limit < value then .error overflow
  else if digits.length = cs.length then .ok value
  else .error .invalidDigit

/-- Reads a signed integer of `least..greatest`, where zero lies between the two. -/
def read (least greatest : Int) : List Char → Except IntegerFault Int
  | [] => .error .empty
  | ['+'] | ['-'] => .error .invalidDigit
  | '+' :: digits => (magnitude greatest.toNat .tooLarge digits).map Int.ofNat
  | '-' :: digits => (magnitude (-least).toNat .tooSmall digits).map fun n => -Int.ofNat n
  | digits => (magnitude greatest.toNat .tooLarge digits).map Int.ofNat

def readInt64 (cs : List Char) : Except IntegerFault Int64 :=
  (read Int64.minValue.toInt Int64.maxValue.toInt cs).map Int64.ofInt

def readUInt32 : List Char → Except IntegerFault UInt32
  | '-' :: _ => .error .invalidDigit
  | cs => (read 0 4294967295 cs).map fun n => UInt32.ofNat n.toNat

end Integer

end PageUpkeep.Text
