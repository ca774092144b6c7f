import PageUpkeep.Json.Printer

/-! The six age buckets, from minutes to years.

A bucket takes the ages below its limit that no finer bucket takes; the last one has no limit. Ages
are whole seconds in 64 bits.
-/

set_option autoImplicit false

namespace PageUpkeep

inductive AgeBucket where
  | minutes
  | hours
  | days
  | weeks
  | months
  | years
  deriving DecidableEq, Repr

namespace AgeBucket

def className : AgeBucket → String
  | minutes => "age-mins"
  | hours => "age-hours"
  | days => "age-days"
  | weeks => "age-weeks"
  | months => "age-months"
  | years => "age-years"

def unit : AgeBucket → String
  | minutes => "min."
  | hours => "hours"
  | days => "days"
  | weeks => "weeks"
  | months => "months"
  | years => "years"

def divisor : AgeBucket → UInt64
  | minutes => 60
  | hours => 60 * 60
  | days => 24 * 60 * 60
  | weeks => 7 * 24 * 60 * 60
  | months => 30 * 24 * 60 * 60
  | years => 365 * 24 * 60 * 60

def limit? : AgeBucket → Option UInt64
  | minutes => some 7200
  | hours => some (24 * 7200)
  | days => some (7 * 24 * 7200)
  | weeks => some (30 * 24 * 7200)
  | months => some (365 * 25 * 7200)
  | years => none

/-- Seconds after which what a bucket shows may be out of date. -/
def refresh : AgeBucket → UInt64
  | minutes => 10
  | hours => 5 * 60
  | days => 30 * 60
  | weeks | months | years => 24 * 60 * 60

def table : List AgeBucket :=
  [minutes, hours, days, weeks, months, years]

theorem mem_table (bucket : AgeBucket) : bucket ∈ table := by
  cases bucket <;> decide

def index : AgeBucket → Nat
  | minutes => 0
  | hours => 1
  | days => 2
  | weeks => 3
  | months => 4
  | years => 5

theorem table_get?_index (bucket : AgeBucket) : table[bucket.index]? = some bucket := by
  cases bucket <;> rfl

def contains (bucket : AgeBucket) (age : UInt64) : Bool :=
  match bucket.limit? with
  | some limit => age < limit
  | none => true

def ofAge (age : UInt64) : AgeBucket :=
  (table.find? fun bucket => bucket.contains age).getD years

def ofClass? (className : String) : Option AgeBucket :=
  table.find? fun bucket => bucket.className == className

/-- Seconds between sweeps of a page without age elements. -/
def idleRefresh : UInt64 :=
  years.refresh

def toJson (bucket : AgeBucket) : List Char :=
  Json.object
    [("class", Json.text bucket.className), ("suffix", Json.text bucket.unit),
     ("divisor", Json.number bucket.divisor),
     ("threshold", match bucket.limit? with
       | some limit => Json.number limit
       | none => ['n', 'u', 'l', 'l']),
     ("refresh", Json.number bucket.refresh)]

end AgeBucket

end PageUpkeep
