import PageUpkeep.Decimal.Shortest
import PageUpkeep.Json.Fault

/-! Numbers of JSON: their grammar, and the value of one that stands where something else was wanted.

The grammar is an optional minus sign, digits without a leading zero, then optionally a fraction and
an exponent. A value is an integer if it is written as one and fits 64 bits, and otherwise a number in
binary floating point made from a 64-bit significand and a power of ten.
-/

set_option autoImplicit false

namespace PageUpkeep.Json

/-- The parts of a number as written. The exponent holds whether it is negative, and its digits. -/
structure Numeral where
  negative : Bool
  whole : List Char
  fraction : List Char
  exponent : Option (Bool × List Char)
  deriving DecidableEq, Repr

namespace Numeral

theorem length_dropWhile_le (p : Char → Bool) (cs : List Char) :
    (cs.dropWhile p).length ≤ cs.length :=
  (List.dropWhile_sublist p).length_le

def readExponentDigits (atEnd : Cause) : List Char → Except Fault (List Char × List Char)
  | [] => .error ⟨atEnd, 0⟩
  | c :: rest =>
    if c.isDigit then .ok (c :: rest.takeWhile Char.isDigit, rest.dropWhile Char.isDigit)
    else .error (.upon .invalidNumber (c :: rest))

def readExponent (atEnd : Cause) (s : List Char) : Except Fault (Option (Bool × List Char) × List Char) :=
  match s with
  | 'e' :: '-' :: rest | 'E' :: '-' :: rest =>
    (readExponentDigits atEnd rest).map fun read => (some (true, read.1), read.2)
  | 'e' :: '+' :: rest | 'E' :: '+' :: rest | 'e' :: rest | 'E' :: rest =>
    (readExponentDigits atEnd rest).map fun read => (some (false, read.1), read.2)
  | _ => .ok (none, s)

def readFraction (atEnd : Cause) (s : List Char) : Except Fault (List Char × List Char) :=
  match s with
  | '.' :: rest =>
    match rest with
    | [] => .error ⟨atEnd, 0⟩
    | c :: _ =>
      if c.isDigit then .ok (rest.takeWhile Char.isDigit, rest.dropWhile Char.isDigit)
      else .error (.upon .invalidNumber rest)
  | _ => .ok ([], s)

def readWhole (atEnd : Cause) : List Char → Except Fault (List Char × List Char)
  | [] => .error ⟨atEnd, 0⟩
  | '0' :: rest =>
    match rest with
    | c :: _ => if c.isDigit then .error (.upon .invalidNumber rest) else .ok (['0'], rest)
    | [] => .ok (['0'], [])
  | c :: rest =>
    if c.isDigit then .ok (c :: rest.takeWhile Char.isDigit, rest.dropWhile Char.isDigit)
    else .error (.upon .invalidNumber (c :: rest))

def readUnsigned (atEnd : Cause) (negative : Bool) (s : List Char) :
    Except Fault (Numeral × List Char) :=
  match readWhole atEnd s with
  | .error fault => .error fault
  | .ok (whole, afterWhole) =>
    match readFraction atEnd afterWhole with
    | .error fault => .error fault
    | .ok (fraction, afterFraction) =>
      match readExponent atEnd afterFraction with
      | .error fault => .error fault
      | .ok (exponent, rest) => .ok (⟨negative, whole, fraction, exponent⟩, rest)

/-- Reads a number; `atEnd` is the complaint about a text that ends inside it. -/
def read (atEnd : Cause) : List Char → Except Fault (Numeral × List Char)
  | '-' :: rest => readUnsigned atEnd true rest
  | s => readUnsigned atEnd false s

theorem length_readExponentDigits {atEnd : Cause} {s digits rest : List Char}
    (read : readExponentDigits atEnd s = .ok (digits, rest)) : rest.length < s.length := by
  unfold readExponentDigits at read
  split at read
  · simp at read
  · split at read
    · rename_i c after digit
      simp only [Except.ok.injEq, Prod.mk.injEq] at read
      have bound := length_dropWhile_le Char.isDigit after
      rw [← read.2]
      simp only [List.length_cons]
      omega
    · simp at read

theorem length_readExponent {atEnd : Cause} {s rest : List Char} {exponent : Option (Bool × List Char)}
    (read : readExponent atEnd s = .ok (exponent, rest)) : rest.length ≤ s.length := by
  have shorter : ∀ (negative : Bool) (after : List Char),
      ((readExponentDigits atEnd after).map fun read => (some (negative, read.1), read.2)) =
        .ok (exponent, rest) → rest.length < after.length := by
    intro negative after mapped
    cases digits : readExponentDigits atEnd after with
    | error fault => simp [digits, Except.map] at mapped
    | ok result =>
      simp only [digits, Except.map, Except.ok.injEq, Prod.mk.injEq] at mapped
      rw [← mapped.2]
      exact length_readExponentDigits digits
  unfold readExponent at read
  split at read
  case h_7 =>
    simp only [Except.ok.injEq, Prod.mk.injEq] at read
    exact Nat.le_of_eq (congrArg List.length read.2.symm)
  all_goals
    have bound := shorter _ _ read
    simp only [List.length_cons]
    omega

theorem length_readFraction {atEnd : Cause} {s digits rest : List Char}
    (read : readFraction atEnd s = .ok (digits, rest)) : rest.length ≤ s.length := by
  unfold readFraction at read
  split at read
  · rename_i after
    split at read
    · simp at read
    · rename_i c more
      split at read
      · simp only [Except.ok.injEq, Prod.mk.injEq] at read
        have bound := length_dropWhile_le Char.isDigit (c :: more)
        rw [← read.2]
        simp only [List.length_cons] at bound ⊢
        omega
      · simp at read
  · simp only [Except.ok.injEq, Prod.mk.injEq] at read
    exact Nat.le_of_eq (congrArg List.length read.2.symm)

theorem length_readWhole {atEnd : Cause} {s digits rest : List Char}
    (read : readWhole atEnd s = .ok (digits, rest)) : rest.length < s.length := by
  unfold readWhole at read
  split at read
  · simp at read
  · split at read
    · split at read
      · simp at read
      · simp only [Except.ok.injEq, Prod.mk.injEq] at read
        simp [← read.2]
    · simp only [Except.ok.injEq, Prod.mk.injEq] at read
      simp [← read.2]
  · rename_i c after notZero
    split at read
    · simp only [Except.ok.injEq, Prod.mk.injEq] at read
      have bound := length_dropWhile_le Char.isDigit after
      rw [← read.2]
      simp only [List.length_cons]
      omega
    · simp at read

theorem length_readUnsigned {atEnd : Cause} {negative : Bool} {s rest : List Char} {numeral : Numeral}
    (read : readUnsigned atEnd negative s = .ok (numeral, rest)) : rest.length < s.length := by
  unfold readUnsigned at read
  split at read
  · simp at read
  · rename_i whole afterWhole first
    split at read
    · simp at read
    · rename_i fraction afterFraction second
      split at read
      · simp at read
      · rename_i exponent after third
        simp only [Except.ok.injEq, Prod.mk.injEq] at read
        have wholeBound := length_readWhole first
        have fractionBound := length_readFraction second
        have exponentBound := length_readExponent third
        rw [← read.2]
        omega

theorem length_read {atEnd : Cause} {s rest : List Char} {numeral : Numeral}
    (taken : read atEnd s = .ok (numeral, rest)) : rest.length < s.length := by
  unfold read at taken
  split at taken
  · have bound := length_readUnsigned taken
    simp only [List.length_cons]
    omega
  · exact length_readUnsigned taken

def significandLimit : Nat := 18446744073709551615

def exponentLimit : Nat := 2147483647

def negativeLimit : Nat := 9223372036854775808

/-- Appends digits to a significand while it fits 64 bits; also gives the digits that are left. -/
def accumulate (significand : Nat) : List Char → Nat × List Char
  | [] => (significand, [])
  | digit :: rest =>
    let next := significand * 10 + (digit.toNat - '0'.toNat)
    if next ≤ significandLimit then accumulate next rest else (significand, digit :: rest)

def exponentValue (value : Nat) : List Char → Except (List Char) Nat
  | [] => .ok value
  | digit :: rest =>
    let next := value * 10 + (digit.toNat - '0'.toNat)
    if next ≤ exponentLimit then exponentValue next rest else .error rest

/-- `number * 10 ^ exponent` in floating point, `none` beyond its range. Large negative powers are
applied in steps of `10 ^ 308`; `steps` bounds their number, more than which leave nothing but zero. -/
def scale (number : Float) (exponent : Int) : (steps : Nat) → Option Float
  | 0 => some 0.0
  | steps + 1 =>
    if 0 ≤ exponent then
      if exponent ≤ 308 then
        let product := number * Float.ofScientific 1 false exponent.toNat
        if product.isInf then none else some product
      else if number == 0.0 then some number
      else none
    else if -308 ≤ exponent then some (number / Float.ofScientific 1 false exponent.natAbs)
    else if number == 0.0 then some number
    else scale (number / 1e308) (exponent + 308) steps

def found (numeral : Numeral) (rest : List Char) : Except Fault Found :=
  let (wholeSignificand, wholeLeft) := accumulate 0 numeral.whole
  let isInteger := wholeLeft.isEmpty && numeral.fraction.isEmpty && numeral.exponent.isNone
  let sign := fun number : Float =>
    Found.decimal (Decimal.shortest (if numeral.negative then -number else number))
  if isInteger && !numeral.negative then .ok (.integer wholeSignificand)
  else if isInteger && 0 < wholeSignificand && wholeSignificand ≤ negativeLimit then
    .ok (.integer (-(wholeSignificand : Int)))
  else
    let (significand, fractionLeft) := accumulate wholeSignificand numeral.fraction
    let point : Int :=
      (wholeLeft.length : Int) - ((numeral.fraction.length - fractionLeft.length : Nat) : Int)
    let scaled := fun exponent : Int =>
      match scale significand.toUInt64.toFloat exponent 5 with
      | some number => .ok (sign number)
      | none => .error (Fault.before .numberOutOfRange rest)
    match numeral.exponent with
    | none => scaled point
    | some (negative, digits) =>
      match exponentValue 0 digits with
      | .ok exponent => scaled (if negative then point - exponent else point + exponent)
      | .error unread =>
        if significand = 0 ∨ negative then .ok (sign 0.0)
        else .error (.before .numberOutOfRange (unread ++ rest))

end Numeral

end PageUpkeep.Json
