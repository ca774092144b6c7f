/-! What a template engine offers to a program that adds filters to it.

An engine has values of its own, evaluates expressions, and renders templates of a few pieces. A filter is added as
a function on integers, and the engine reads the arguments for it.
-/

set_option autoImplicit false

namespace PageUpkeep.Template

/-- What a variable or a literal stands for; integers have up to 128 bits. -/
inductive Datum where
  | undefined
  | none
  | bool (value : Bool)
  | signed (value : BitVec 128)
  | unsigned (value : BitVec 128)
  | text (value : String)
  | list (items : List Datum)

namespace Datum

instance : Inhabited Datum := ⟨undefined⟩

def number? : Datum → Option Int
  | bool value => some (if value then 1 else 0)
  | signed value => some value.toInt
  | unsigned value => some value.toNat
  | undefined | none | text _ | list _ => Option.none

def isAbsent : Datum → Bool
  | undefined | none => true
  | bool _ | signed _ | unsigned _ | text _ | list _ => false

end Datum

inductive Operand where
  | read (name : String)
  | literal (datum : Datum)

/-- Operands, calls of filters with arguments by position and by name, and texts of two values. -/
inductive Expression where
  | operand (operand : Operand)
  | filtered (subject : Expression) (filter : String) (positional : List Operand)
      (keyed : List (String × Operand))
  | joined (first second : Expression)

inductive Piece where
  | verbatim (text : String)
  | shown (expression : Expression)
  | choice (condition : Expression) (holds fails : String)

/-- Why there is no result: a failure, or a function that does not come back. -/
inductive Fault (Failure : Type) where
  | failure (failure : Failure)
  | panic
  deriving DecidableEq

def Fault.map {Failure Other : Type} (f : Failure → Other) : Fault Failure → Fault Other
  | failure failed => .failure (f failed)
  | panic => .panic

abbrev Filter (Value Failure : Type) : Type :=
  List Value → Except (Fault Failure) Value

abbrev Filters (Value Failure : Type) : Type :=
  String → Option (Filter Value Failure)

/-- Values and failures of an engine. -/
structure Runtime where
  Value : Type
  Failure : Type
  Kind : Type
  invalidOperation : Kind
  kind : Failure → Kind
  failure : Kind → String → Failure
  /-- A failure with the template that it was met in. -/
  located : String → Failure → Failure
  ofDatum : Datum → Value
  /-- The arguments by name of one call. -/
  keyed : List (String × Value) → Value
  /-- A text that is markup already. -/
  safe : String → Value
  isTrue : Value → Bool
  /-- What a template of some name puts out for a value. -/
  written : String → Value → String
  toInt64 : Value → Except Failure Int64
  toOptional : Value → Except Failure (Option Int64)
  /-- The filter for a function of an integer and an optional one. -/
  filter : (Int64 → Option Int64 → Except (Fault Failure) Value) → Filter Value Failure

namespace Runtime

variable (runtime : Runtime) (scope : String → runtime.Value)

def operand : Operand → runtime.Value
  | .read name => scope name
  | .literal datum => runtime.ofDatum datum

/-- What follows the subject in a call. Arguments by name make one value, behind all others. -/
def arguments (positional : List Operand) (keyed : List (String × Operand)) : List runtime.Value :=
  positional.map (runtime.operand scope) ++
    if keyed.isEmpty then []
    else [runtime.keyed (keyed.map fun (name, operand) => (name, runtime.operand scope operand))]

end Runtime

structure Engine extends Runtime where
  evaluate : Filters Value Failure → (String → Value) → Expression → Except (Fault Failure) Value
  /-- Renders a template of some name. -/
  render : Filters Value Failure → String → (String → Value) → List Piece → Except (Fault Failure) String

end PageUpkeep.Template
