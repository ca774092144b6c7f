import PageUpkeep.Html.Escape
import PageUpkeep.Template.Value

/-! The engine that templates are tried with.

Arguments of a filter are read from left to right, and the first that cannot be read decides the failure. What is no
markup is escaped where the template's name says that it makes markup.
-/

set_option autoImplicit false

namespace PageUpkeep.Template

inductive FaultKind where
  | invalidOperation
  | missingArgument
  | tooManyArguments
  | unknownFilter
  deriving DecidableEq, Repr

namespace FaultKind

def name : FaultKind → String
  | invalidOperation => "InvalidOperation"
  | missingArgument => "MissingArgument"
  | tooManyArguments => "TooManyArguments"
  | unknownFilter => "UnknownFilter"

def description : FaultKind → String
  | invalidOperation => "invalid operation"
  | missingArgument => "missing argument"
  | tooManyArguments => "too many arguments"
  | unknownFilter => "unknown filter"

end FaultKind

structure Failure where
  kind : FaultKind
  detail : Option String := none
  template : Option String := none
  deriving DecidableEq, Repr

def Failure.message (failure : Failure) : String :=
  failure.kind.description ++
    (match failure.detail with
      | some detail => ": " ++ detail
      | none => "") ++
    match failure.template with
    | some name => " (in " ++ name ++ ":1)"
    | none => ""

def readInteger (value : Value) : Except Failure Int64 :=
  match value.toInt64? with
  | some integer => .ok integer
  | none => .error ⟨.invalidOperation, some ("cannot convert " ++ value.kind ++ " to i64"), none⟩

def readOptional (value : Value) : Except Failure (Option Int64) :=
  if value.isAbsent then .ok none else (readInteger value).map some

/-- Reads what follows the subject in a call: at most one argument. -/
def readRest : List Value → Except Failure (Option Int64)
  | [] => .ok none
  | value :: rest => do
    let read ← readOptional value
    if rest.isEmpty then .ok read else .error { kind := .tooManyArguments }

def callFilter (function : Int64 → Option Int64 → Except (Fault Failure) Value) : Filter Value Failure
  | [] => .error (.failure { kind := .missingArgument })
  | subject :: rest => do
    let integer ← (readInteger subject).mapError Fault.failure
    let read ← (readRest rest).mapError Fault.failure
    function integer read

/-- The endings that say that a text is a template, and nothing of what it makes. -/
def templateEndings : List (List Char) :=
  ["j2".toList, "jinja2".toList, "jinja".toList]

def markupEndings : List (List Char) :=
  ["html".toList, "htm".toList, "xml".toList]

/-- Whether the name of a template says that it is markup: by what its last point is followed by, where one
ending of templates is passed over. -/
def isMarkupName (name : String) : Bool :=
  let pieces := name.toList.splitOnP (· == '.')
  let isNamedTemplate := 1 < pieces.length && templateEndings.any fun ending => pieces.getLast? == some ending
  let kept := if isNamedTemplate then pieces.dropLast else pieces
  markupEndings.any fun ending => kept.getLast? == some ending

/-- What a template of the given name puts out: markup as it is, and any other text as the name demands. -/
def Value.written (other : Value → String) (name : String) : Value → String
  | safe markup => markup
  | value => if isMarkupName name then Html.escape (value.toText other) else value.toText other

/-- Values and failures. How a value is shown that is no text is left open. -/
def standardRuntime (other : Value → String) : Runtime where
  Value := Value
  Failure := Failure
  Kind := FaultKind
  invalidOperation := .invalidOperation
  kind := Failure.kind
  failure kind detail := ⟨kind, some detail, none⟩
  located name failure := { failure with template := some name }
  ofDatum := Value.ofDatum
  keyed := .map
  safe := .safe
  isTrue := Value.isTrue
  written := Value.written other
  toInt64 := readInteger
  toOptional := readOptional
  filter := callFilter

section

variable (other : Value → String) (filters : Filters Value Failure) (scope : String → Value)

/-- The two of a join make a text that is markup no longer. -/
def evaluate : Expression → Except (Fault Failure) Value
  | .operand operand => .ok ((standardRuntime other).operand scope operand)
  | .filtered subject name positional keyed => do
    let value ← evaluate subject
    match filters name with
    | some filter => filter (value :: (standardRuntime other).arguments scope positional keyed)
    | none => .error (.failure ⟨.unknownFilter, some ("filter " ++ name ++ " is unknown"), none⟩)
  | .joined first second => do
    let front ← evaluate first
    let back ← evaluate second
    return .text (front.toText other ++ back.toText other)

def renderPiece (name : String) : Piece → Except (Fault Failure) String
  | .verbatim text => .ok text
  | .shown expression => do
    let value ← (evaluate other filters scope expression).mapError (Fault.map ((standardRuntime other).located name))
    return value.written other name
  | .choice condition holds fails => do
    let value ← (evaluate other filters scope condition).mapError (Fault.map ((standardRuntime other).located name))
    return if value.isTrue then holds else fails

def renderPieces (name : String) : List Piece → Except (Fault Failure) String
  | [] => .ok ""
  | piece :: rest => do
    let text ← renderPiece other filters scope name piece
    let more ← renderPieces name rest
    return text ++ more

end

def standardEngine (other : Value → String) : Engine where
  toRuntime := standardRuntime other
  evaluate := evaluate other
  render filters name scope pieces := renderPieces other filters scope name pieces

end PageUpkeep.Template
