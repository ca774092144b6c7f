import PageUpkeep.Text.Blank
import PageUpkeep.Text.Excerpt
import PageUpkeep.Text.Hex

/-! Settings files of sections with keys and values.

A section is opened by a name in brackets. A key ends at an equals sign or a colon, also when that
stands on a later line, and its value at the end of the line. A backslash takes away the meaning of what
follows it, or gives it one; a value can begin with a part in quotes. A comment takes a whole line.

The first fault ends the reading. It is told with its place: the place of the character at which it was
seen, and at the end of the file that of the last character.
-/

set_option autoImplicit false

namespace PageUpkeep.Program.Ini

/-- A section with its entries in order; the entries before the first section have no section's name. -/
structure Section where
  name : Option String
  entries : List (String × String)
  deriving DecidableEq, Repr

/-- The place of a character: its line, from zero, and its column, from one. A line break has column zero of
the line that it begins. -/
structure Place where
  line : Nat
  column : Nat
  deriving DecidableEq, Repr

def Place.start : Place := ⟨0, 0⟩

def Place.pass (place : Place) (c : Char) : Place :=
  if c = '\n' then ⟨place.line + 1, 0⟩ else ⟨place.line, place.column + 1⟩

def Place.next (place : Place) : List Char → Place
  | [] => place
  | c :: _ => place.pass c

inductive Cause where
  /-- The file ends where one of some ends of a text is due; none is the end of the file. -/
  | endOfFile (due : List (Option Char))
  /-- A code in a text is broken by a backslash without a line break behind it. -/
  | brokenCode (found : Option Char)
  | unknownCode
  | inlineComment
  | missingKey
  deriving DecidableEq, Repr

structure Fault where
  place : Place
  cause : Cause
  deriving DecidableEq, Repr

def shown : Option Char → String
  | some c => "Some(" ++ Text.excerptChar c ++ ")"
  | none => "None"

def Cause.message : Cause → String
  | endOfFile due => "expecting \"[" ++ ", ".intercalate (due.map shown) ++ "]\" but found EOF."
  | brokenCode found => "expecting \"\\\\n\" but found \"" ++ shown found ++ "\"."
  | unknownCode => "unknown character in \\xHH form"
  | inlineComment => "doesn't support inline comment"
  | missingKey => "missing key"

/-- A character by its number in hexadecimal digits, which may follow a plus sign. -/
def charOfCode (code : List Char) : Option Char :=
  ((if code.head? = some '+' then code.tail else code).mapM Text.hexValue?).bind Text.charOfDigits

/-- What a character stands for after a backslash; a line break stands for nothing. -/
def unescape : Char → List Char
  | '0' => ['\x00']
  | 'a' => ['\x07']
  | 'b' => ['\x08']
  | 't' => ['\t']
  | 'r' => ['\r']
  | 'n' => ['\n']
  | '\n' => []
  | c => [c]

/-- The fault of a code that stands for no character, of which some characters are still to come. A backslash
with a line break counts as one character, and makes the code none. -/
def codeFault (due : List (Option Char)) : Nat → Place → List Char → Fault
  | 0, last, _ => ⟨last, .unknownCode⟩
  | _ + 1, last, [] => ⟨last, .endOfFile due⟩
  | count + 1, last, '\\' :: '\n' :: rest => codeFault due count ((last.pass '\\').pass '\n') rest
  | _ + 1, last, '\\' :: rest => ⟨(last.pass '\\').next rest, .brokenCode rest.head?⟩
  | count + 1, last, c :: rest => codeFault due count (last.pass c) rest

structure Cursor where
  last : Place
  rest : List Char
  deriving DecidableEq, Repr

def readText (due : List (Option Char)) (last : Place) : List Char → Except Fault (List Char × Cursor)
  | [] => if due.contains none then .ok ([], ⟨last, []⟩) else .error ⟨last, .endOfFile due⟩
  | '\\' :: rest =>
    let here := last.pass '\\'
    match rest with
    | 'x' :: a :: b :: c :: d :: rest =>
      match charOfCode [a, b, c, d] with
      | some found =>
        (readText due ([a, b, c, d].foldl Place.pass (here.pass 'x')) rest).map fun (text, cursor) =>
          (found :: text, cursor)
      | none => .error (codeFault due 4 (here.pass 'x') (a :: b :: c :: d :: rest))
    | 'x' :: rest => .error (codeFault due 4 (here.pass 'x') rest)
    | escaped :: rest =>
      (readText due (here.pass escaped) rest).map fun (text, cursor) => (unescape escaped ++ text, cursor)
    | [] => .error ⟨here, .endOfFile due⟩
  | c :: rest =>
    if due.contains (some c) then .ok ([], ⟨last, c :: rest⟩)
    else (readText due (last.pass c) rest).map fun (text, cursor) => (c :: text, cursor)

namespace Cursor

def place (cursor : Cursor) : Place :=
  cursor.last.next cursor.rest

def advance (cursor : Cursor) : Cursor :=
  ⟨cursor.place, cursor.rest.tail⟩

def skip (cursor : Cursor) (kind : Char → Bool) : Cursor :=
  ⟨(cursor.rest.takeWhile kind).foldl Place.pass cursor.last, cursor.rest.dropWhile kind⟩

def readUntil (cursor : Cursor) (due : List (Option Char)) : Except Fault (List Char × Cursor) :=
  readText due cursor.last cursor.rest

def readLine (cursor : Cursor) : Except Fault (List Char × Cursor) :=
  cursor.readUntil [some '\n', some '\r', none]

end Cursor

def trimmed (text : List Char) : String :=
  String.ofList (Text.trim text)

def readValue (cursor : Cursor) : Except Fault (String × Cursor) := do
  let cursor := cursor.skip fun c => Text.isBlank c && c != '\n' && c != '\r'
  match cursor.rest.head?.filter fun c => c == '"' || c == '\'' with
  | some quote =>
    let (quoted, cursor) ← cursor.advance.readUntil [some quote]
    let (further, cursor) ← cursor.advance.readLine
    return (trimmed (quoted ++ further), cursor)
  | none =>
    let (text, cursor) ← cursor.readLine
    return (trimmed text, cursor)

def addEntry (key value : String) : List Section → List Section
  | [] => [⟨none, [(key, value)]⟩]
  | current :: earlier => { current with entries := current.entries ++ [(key, value)] } :: earlier

/-- Reads the sections of a file, last first, in a number of steps of which every one takes a character.
`key` is the key that waits for its value. -/
def readSections (key : String) (sections : List Section) : Nat → Cursor → Except Fault (List Section)
  | 0, _ => .ok sections
  | steps + 1, cursor => do
    let cursor := cursor.skip Text.isBlank
    match cursor.rest with
    | [] => return sections
    | c :: _ =>
      if c == ';' || c == '#' then
        if 1 < cursor.place.column then throw ⟨cursor.place, .inlineComment⟩
        readSections key sections steps (cursor.skip (· != '\n')).advance
      else if c == '[' then
        let (name, cursor) ← cursor.advance.readUntil [some ']']
        readSections key (⟨some (trimmed name), []⟩ :: sections) steps cursor.advance
      else if c == '=' || c == ':' then
        if key.isEmpty then throw ⟨cursor.place, .missingKey⟩
        let (value, cursor) ← readValue cursor.advance
        readSections "" (addEntry key value sections) steps cursor
      else
        let (name, cursor) ← cursor.readUntil [some '=', some ':']
        readSections (trimmed name) sections steps cursor

/-- Reads a file. A byte order mark before it is passed over, and has no place. -/
def read (text : String) : Except Fault (List Section) :=
  let cs := text.toList
  let body := if cs.head? == some '\ufeff' then cs.tail else cs
  (readSections "" [] (body.length + 1) ⟨.start, body⟩).map List.reverse

/-- The value of a key in a section, the first of each where there are several. -/
def lookup (sections : List Section) (name key : String) : Option String := do
  let found ← sections.find? fun candidate => candidate.name == some name
  let entry ← found.entries.find? fun entry => entry.1 == key
  some entry.2

end PageUpkeep.Program.Ini
