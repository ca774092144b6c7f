import PageUpkeep.Age.Bucket

/-! What is shown for an age: a number of units of its bucket, rounded, a half upwards. -/

set_option autoImplicit false

namespace PageUpkeep

/-- The quotient rounded to the nearest integer, a half upwards. No step leaves 64 bits: instead of
doubling the remainder it is compared with the upper half of the divisor. -/
def roundDiv (dividend divisor : UInt64) : UInt64 :=
  dividend / divisor + if divisor - divisor / 2 ≤ dividend % divisor then 1 else 0

structure AgeLabel where
  bucket : AgeBucket
  value : UInt64
  deriving DecidableEq, Repr

namespace AgeLabel

def ofAge (age : UInt64) : AgeLabel :=
  let bucket := AgeBucket.ofAge age
  ⟨bucket, roundDiv age bucket.divisor⟩

def className (label : AgeLabel) : String :=
  label.bucket.className

def text (label : AgeLabel) : String :=
  label.value.toNat.repr ++ " " ++ label.bucket.unit

def toJson (label : AgeLabel) : List Char :=
  Json.object [("bucket", label.bucket.toJson), ("value", Json.number label.value)]

end AgeLabel

end PageUpkeep
