/-! The shortest decimal text of a number in binary floating point.

A finite number is `mantissa * 2 ^ power`; every real between the two midpoints to its neighbours
rounds to it. Of the decimals in that interval the ones with the fewest digits count, and of those
the nearest. The search goes through one, two, … seventeen digits, and at each number of digits it
tests the two decimals next to the number, in exact arithmetic on natural numbers.
-/

set_option autoImplicit false

namespace PageUpkeep.Decimal

def twoTo (n : Nat) : Nat := Nat.pow 2 n

def tenTo (n : Nat) : Nat := Nat.pow 10 n

/-- Digits `d₁d₂…dₙ`, with the decimal exponent of `d₁`. -/
structure Scientific where
  digits : List Char
  exponent : Int
  deriving DecidableEq, Repr

/-- A magnitude with the ends of its rounding interval, over one denominator. -/
structure Interval where
  low : Nat
  value : Nat
  high : Nat
  denominator : Nat
  /-- Whether the ends belong to the interval. -/
  closed : Bool

/-- The interval of `mantissa * 2 ^ power`; at a power of two the lower neighbour is twice as near. -/
def Interval.of (mantissa : Nat) (power : Int) (nearBelow : Bool) : Interval :=
  let scale := twoTo (power - 2).toNat
  { low := (4 * mantissa - if nearBelow then 1 else 2) * scale
    value := 4 * mantissa * scale
    high := (4 * mantissa + 2) * scale
    denominator := twoTo (2 - power).toNat
    closed := mantissa % 2 == 0 }

def Interval.magnitude (interval : Interval) : Int :=
  if interval.denominator ≤ interval.value then
    ((Nat.toDigits 10 (interval.value / interval.denominator)).length : Int) - 1
  else
    match (List.range 400).find? fun places =>
        interval.denominator ≤ interval.value * tenTo places with
    | some places => -(places : Int)
    | none => 0

/-- The best decimal with `count` digits, in units of `10 ^ grid`, if one lies in the interval. -/
def Interval.decimal? (interval : Interval) (grid : Int) : Option Nat :=
  let up := tenTo (-grid).toNat
  let unit := interval.denominator * tenTo grid.toNat
  let below := interval.value * up / unit
  let above := below + 1
  let fits := fun decimal : Nat =>
    if interval.closed then
      interval.low * up ≤ decimal * unit && decimal * unit ≤ interval.high * up
    else interval.low * up < decimal * unit && decimal * unit < interval.high * up
  let toBelow := interval.value * up - below * unit
  let toAbove := above * unit - interval.value * up
  match fits below, fits above with
  | true, true =>
    some (if toBelow < toAbove || (toBelow == toAbove && below % 2 == 0) then below else above)
  | true, false => some below
  | false, true => some above
  | false, false => none

def Interval.shortest (interval : Interval) : Scientific :=
  let leading := interval.magnitude
  let found := (List.range 17).findSome? fun index : Nat =>
    (interval.decimal? (leading - index)).map fun decimal => (decimal, leading - (index : Int))
  match found with
  | some (decimal, grid) =>
    let digits := Nat.toDigits 10 decimal
    ⟨(digits.reverse.dropWhile (· == '0')).reverse, grid + (digits.length : Int) - 1⟩
  | none => ⟨['0'], 0⟩

/-- Positional where the leading digit is worth `10 ^ -5` to `10 ^ 15`, always with a point;
otherwise one digit before the point, and an exponent with its sign. -/
def Scientific.text (number : Scientific) : String :=
  let count : Int := number.digits.length
  let zeros := fun n : Int => List.replicate n.toNat '0'
  if -5 ≤ number.exponent ∧ number.exponent < 16 then
    if number.exponent < 0 then
      String.ofList ('0' :: '.' :: zeros (-number.exponent - 1) ++ number.digits)
    else if count ≤ number.exponent + 1 then
      String.ofList (number.digits ++ zeros (number.exponent + 1 - count) ++ ['.', '0'])
    else
      let whole := (number.exponent + 1).toNat
      String.ofList (number.digits.take whole ++ '.' :: number.digits.drop whole)
  else
    let mantissa := match number.digits with
      | [] => []
      | [digit] => [digit]
      | digit :: more => digit :: '.' :: more
    String.ofList mantissa ++ (if number.exponent < 0 then "e-" else "e+") ++ number.exponent.natAbs.repr

def shortest (number : Float) : String :=
  let bits := number.toBits.toNat
  let sign := if twoTo 63 ≤ bits then "-" else ""
  let biased : Nat := bits / twoTo 52 % twoTo 11
  let fraction : Nat := bits % twoTo 52
  if biased = 0 ∧ fraction = 0 then sign ++ "0.0"
  else
    let interval :=
      if biased = 0 then Interval.of fraction (-1074) false
      else Interval.of (fraction + twoTo 52) ((biased : Int) - 1075) (fraction == 0 && 1 < biased)
    sign ++ interval.shortest.text

end PageUpkeep.Decimal
