import PageUpkeep.Text.Excerpt

/-! Why a JSON text is refused, and where.

While a text is being read only what is left of it is at hand, so a `Fault` says how many bytes are
still unread; `Fault.locate` turns this into a line and a column of the whole text. Lines count from
one, and the column is the number of bytes of the line that were taken.
-/

set_option autoImplicit false

namespace PageUpkeep.Json

inductive Found where
  | null
  | boolean (value : Bool)
  | integer (value : Int)
  | decimal (digits : String)
  | text (value : String)
  | sequence
  | map
  deriving DecidableEq, Repr

inductive Cause where
  | eofValue
  | eofText
  | eofList
  | eofObject
  | expectedColon
  | expectedListEnd
  | expectedObjectEnd
  | expectedIdent
  | expectedValue
  | invalidEscape
  | invalidNumber
  | numberOutOfRange
  | controlCharacter
  | keyNotText
  | loneSurrogate
  | trailingComma
  | trailingCharacters
  | unendedSurrogate
  | invalidType (found : Found) (expected : String)
  | unknownVariant (name : String) (names : List String)
  | duplicateField (name : String)
  deriving DecidableEq, Repr

def Found.message : Found → String
  | .null => "null"
  | .boolean value => "boolean `" ++ toString value ++ "`"
  | .integer value => "integer `" ++ value.repr ++ "`"
  | .decimal digits => "floating point `" ++ digits ++ "`"
  | .text value => "string " ++ Text.excerpt value
  | .sequence => "sequence"
  | .map => "map"

def oneOf (names : List String) : String :=
  let quoted := names.map fun name => "`" ++ name ++ "`"
  match quoted with
  | [first, second] => first ++ " or " ++ second
  | _ => "one of " ++ ", ".intercalate quoted

def Cause.message : Cause → String
  | .eofValue => "EOF while parsing a value"
  | .eofText => "EOF while parsing a string"
  | .eofList => "EOF while parsing a list"
  | .eofObject => "EOF while parsing an object"
  | .expectedColon => "expected `:`"
  | .expectedListEnd => "expected `,` or `]`"
  | .expectedObjectEnd => "expected `,` or `\x7d`"
  | .expectedIdent => "expected ident"
  | .expectedValue => "expected value"
  | .invalidEscape => "invalid escape"
  | .invalidNumber => "invalid number"
  | .numberOutOfRange => "number out of range"
  | .controlCharacter => "control character (\\u0000-\\u001F) found while parsing a string"
  | .keyNotText => "key must be a string"
  | .loneSurrogate => "lone leading surrogate in hex escape"
  | .trailingComma => "trailing comma"
  | .trailingCharacters => "trailing characters"
  | .unendedSurrogate => "unexpected end of hex escape"
  | .invalidType found expected => "invalid type: " ++ found.message ++ ", expected " ++ expected
  | .unknownVariant name names => "unknown variant `" ++ name ++ "`, expected " ++ oneOf names
  | .duplicateField name => "duplicate field `" ++ name ++ "`"

def byteLength : List Char → Nat
  | [] => 0
  | c :: cs => c.utf8Size + byteLength cs

@[simp] theorem byteLength_nil : byteLength [] = 0 := rfl

theorem byteLength_cons (c : Char) (cs : List Char) :
    byteLength (c :: cs) = c.utf8Size + byteLength cs := rfl

/-- A cause, with the number of bytes unread when it was noticed. -/
structure Fault where
  cause : Cause
  unread : Nat
  deriving DecidableEq, Repr

/-- A fault noticed with exactly `rest` unread. -/
def Fault.before (cause : Cause) (rest : List Char) : Fault :=
  ⟨cause, byteLength rest⟩

/-- A fault at the first byte of `rest`, which counts as taken if there is one. -/
def Fault.upon (cause : Cause) (rest : List Char) : Fault :=
  ⟨cause, byteLength rest - 1⟩

structure Error where
  cause : Cause
  line : Nat
  column : Nat
  deriving DecidableEq, Repr

def Error.message (error : Error) : String :=
  error.cause.message ++ " at line " ++ error.line.repr ++ " column " ++ error.column.repr

def position (line column : Nat) : List Char → Nat → Nat × Nat
  | [], _ => (line, column)
  | c :: rest, taken =>
    if taken = 0 then (line, column)
    else if c = '\n' then position (line + 1) 0 rest (taken - 1)
    else if c.utf8Size ≤ taken then position line (column + c.utf8Size) rest (taken - c.utf8Size)
    else (line, column + taken)

def Fault.locate (source : List Char) (fault : Fault) : Error :=
  let place := position 1 0 source (byteLength source - fault.unread)
  ⟨fault.cause, place.1, place.2⟩

end PageUpkeep.Json
