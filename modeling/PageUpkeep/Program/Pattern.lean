import PageUpkeep.Text.Blank
import PageUpkeep.Text.Hex
import PageUpkeep.Text.Letters

/-! Which texts are patterns: alternatives of sequences of characters, classes and groups, each of which
can be repeated.

A pattern stands in braces, and the first closing brace ends it. So it holds none, and nothing in it that
would need one can be read. Patterns are about characters, or about bytes where the flag `u` is taken back.
For characters there are no tables of properties and none of upper and lower case: a class by a property, a
short class, an edge of words and a text in either case are no patterns then. A pattern about bytes must not
match a part of a character. What can be nested has a limit of levels: groups, repetitions, classes, and all
that stands side by side.
-/

set_option autoImplicit false

namespace PageUpkeep.Program.Pattern

def levelLimit : Nat := 250

/-- How deep those parts of a pattern go that are read since a bracket was opened. -/
structure Nesting where
  /-- The depth of what stands before the last sign that divides them, if there is one. -/
  before : Option Nat := none
  /-- The depths of the parts behind it, last first. -/
  parts : List Nat := []
  deriving DecidableEq, Repr

namespace Nesting

/-- The depth of the last parts together: several have a level of their own. -/
def joined (nesting : Nesting) : Nat :=
  match nesting.parts with
  | [] => 0
  | [part] => part
  | parts => parts.foldl max 0 + 1

def depth (nesting : Nesting) : Nat :=
  match nesting.before with
  | none => nesting.joined
  | some before => max before nesting.joined + 1

def add (nesting : Nesting) (part : Nat) : Nesting :=
  { nesting with parts := part :: nesting.parts }

def repeatLast (nesting : Nesting) : Nesting :=
  match nesting.parts with
  | [] => nesting
  | part :: parts => { nesting with parts := (part + 1) :: parts }

def alternate (nesting : Nesting) : Nesting :=
  ⟨some (max (nesting.before.getD 0) nesting.joined), []⟩

/-- An operation on classes has all that stands before it as its first operand. -/
def operate (nesting : Nesting) : Nesting :=
  ⟨some nesting.depth, []⟩

end Nesting

structure Flags where
  /-- Letters of either case are alike. -/
  anyCase : Bool := false
  /-- The pattern is about characters, not bytes. -/
  wide : Bool := true
  /-- Blanks do not count, and a hash sign begins a comment. -/
  spaced : Bool := false
  deriving DecidableEq, Repr

namespace Flags

def set (flags : Flags) (letter : Char) (value : Bool) : Flags :=
  match letter with
  | 'i' => { flags with anyCase := value }
  | 'u' => { flags with wide := value }
  | 'x' => { flags with spaced := value }
  | _ => flags

def passSpace (comment : Bool) : List Char → List Char
  | [] => []
  | c :: rest =>
    if comment then passSpace (c != '\n') rest
    else if Text.isBlank c then passSpace false rest
    else if c = '#' then passSpace true rest
    else c :: rest

def skip (flags : Flags) (cs : List Char) : List Char :=
  if flags.spaced then passSpace false cs else cs

/-- The character to be seen from the one before it: past blanks, and past the sign of a comment but not the
comment. Where nothing else is to be seen it is the very next one. -/
def peek (flags : Flags) (cs : List Char) : Option Char :=
  if flags.spaced then
    let rest := cs.dropWhile Text.isBlank
    let seen := if rest.head? = some '#' then rest.tail.dropWhile Text.isBlank else rest
    seen.head? <|> cs.head?
  else cs.head?

def letters : List Char :=
  ['i', 'm', 's', 'U', 'u', 'R', 'x']

/-- Reads flags up to the character that ends them, which is left. None may be given twice, and a dash takes
back those behind it, of which there must be some. `given` holds what was given, last first. -/
def readGiven (flags : Flags) (given : List Char) : List Char → Option (Flags × List Char × List Char)
  | [] => none
  | c :: rest =>
    if c = ':' || c = ')' then
      if given.head? = some '-' then none else some (flags, given, c :: rest)
    else if given.contains c then none
    else if c = '-' then readGiven flags (c :: given) rest
    else if letters.contains c then readGiven (flags.set c (!given.contains '-')) (c :: given) rest
    else none

end Flags

/-! ## Single characters and classes -/

inductive Atom where
  /-- A character; one below 256 can be written as a byte. -/
  | character (c : Char) (byte : Bool)
  /-- A class of one letter, or its opposite. -/
  | shortClass (opposite : Bool)
  /-- An edge of a word. -/
  | wordEdge
  /-- The start or the end of the text. -/
  | textEdge
  deriving DecidableEq, Repr

namespace Atom

def standsAlone (flags : Flags) : Atom → Bool
  | character c byte => if flags.wide then !flags.anyCase else !(byte && 128 ≤ c.toNat)
  | shortClass opposite => !flags.wide && !opposite
  | wordEdge => !flags.wide
  | textEdge => true

def standsInClass (flags : Flags) : Atom → Bool
  | character c _ => if flags.wide then !flags.anyCase else c.toNat < 128
  | shortClass opposite => !flags.wide && !opposite
  | wordEdge | textEdge => false

end Atom

/-- Reads a character by its number in a fixed count of hexadecimal digits. `digits` holds those that are
read, last first. -/
def readCode (flags : Flags) (digits : List Nat) : Nat → List Char → Option (Char × List Char)
  | 0, cs => (Text.charOfDigits digits.reverse).map fun c => (c, cs)
  | count + 1, cs =>
    match flags.skip cs with
    | [] => none
    | digit :: rest => (Text.hexValue? digit).bind fun value => readCode flags (value :: digits) count rest

def controls : List (Char × Char) :=
  [('a', '\x07'), ('f', '\x0c'), ('t', '\t'), ('n', '\n'), ('r', '\r'), ('v', '\x0b')]

/-- Reads what follows a backslash. Marks of ASCII lose their meaning by it, but for the angle brackets. -/
def readEscape (flags : Flags) : List Char → Option (Atom × List Char)
  | [] => none
  | c :: rest =>
    let code (count : Nat) (byte : Bool) :=
      (readCode flags [] count rest).map fun (c, rest) => (Atom.character c byte, rest)
    if c = 'x' then code 2 true
    else if c = 'u' then code 4 false
    else if c = 'U' then code 8 false
    else if ['d', 's', 'w'].contains c then some (.shortClass false, rest)
    else if ['D', 'S', 'W'].contains c then some (.shortClass true, rest)
    else if ['b', 'B', '<', '>'].contains c then some (.wordEdge, rest)
    else if ['A', 'z'].contains c then some (.textEdge, rest)
    else if let some control := controls.lookup c then some (.character control false, rest)
    else if c.toNat < 128 && !c.isAlphanum then some (.character c false, rest)
    else none

def asciiClasses : List String :=
  ["alnum", "alpha", "ascii", "blank", "cntrl", "digit", "graph", "lower", "print", "punct", "space", "upper",
    "word", "xdigit"]

def readAsciiClass : List Char → Option (Bool × List Char)
  | ':' :: cs =>
    let opposite := cs.head? == some '^'
    let (name, rest) := (if opposite then cs.tail else cs).span (· != ':')
    match rest with
    | ':' :: ']' :: rest =>
      if asciiClasses.contains (String.ofList name) then some (opposite, rest) else none
    | _ => none
  | _ => none

def passDashes (flags : Flags) (nesting : Nesting) : Nat → List Char → Nesting × List Char
  | steps + 1, '-' :: rest => passDashes flags (nesting.add 0) steps (flags.skip rest)
  | _, cs => (nesting, cs)

/-- Reads the start of a class, after its bracket. There, dashes and, without them, a closing bracket stand
for themselves. -/
def openClass (flags : Flags) (cs : List Char) : Option (Nesting × List Char) :=
  let cs := flags.skip cs
  let opposite := cs.head? == some '^'
  let start := if opposite then flags.skip cs.tail else cs
  let (nesting, rest) :=
    if start.head? == some ']' then (Nesting.add {} 0, flags.skip start.tail)
    else passDashes flags {} start.length start
  if opposite && !flags.wide then none
  else if !nesting.parts.isEmpty && !(Atom.character '-' false).standsInClass flags then none
  else some (nesting, rest)

def readMember (flags : Flags) : List Char → Option (Atom × List Char)
  | [] => none
  | '\\' :: rest => readEscape flags rest
  | c :: rest => some (.character c false, rest)

def readMembers (flags : Flags) (cs : List Char) : Option (List Char) := do
  let (first, rest) ← readMember flags cs
  let single := if first.standsInClass flags then some (flags.skip rest) else none
  match flags.skip rest with
  | '-' :: more =>
    let next := flags.peek more
    if next = some ']' || next = some '-' then single
    else
      match first, ← readMember flags (flags.skip more) with
      | .character least byte, (.character greatest otherByte, rest) =>
        if least ≤ greatest && (Atom.character least byte).standsInClass flags &&
            (Atom.character greatest otherByte).standsInClass flags then some rest
        else none
      | _, _ => none
  | _ => single

/-- Reads a class to its end, in a number of steps of which every one takes a character, and finds its depth.
`outer` holds what is read of the classes that are open around it, the innermost first. -/
def readClass (flags : Flags) (nesting : Nesting) (outer : List Nesting) :
    Nat → List Char → Option (Nat × List Char)
  | 0, _ => none
  | steps + 1, cs =>
    match flags.skip cs with
    | [] => none
    | '[' :: rest =>
      match readAsciiClass rest with
      | some (opposite, rest) =>
        if (if flags.wide then flags.anyCase else opposite) then none
        else readClass flags (nesting.add 0) outer steps rest
      | none => do
        let (inner, rest) ← openClass flags rest
        readClass flags inner (nesting :: outer) steps rest
    | ']' :: rest =>
      let depth := nesting.depth + 1
      match outer with
      | [] => some (depth, rest)
      | around :: outer => readClass flags (around.add depth) outer steps rest
    | '&' :: '&' :: rest | '-' :: '-' :: rest | '~' :: '~' :: rest =>
      readClass flags nesting.operate outer steps rest
    | members => (readMembers flags members).bind (readClass flags (nesting.add 0) outer steps)

/-! ## Groups -/

structure Scan where
  flags : Flags := {}
  nesting : Nesting := {}
  /-- The flags around every open group and what is read there, the innermost first. -/
  outer : List (Flags × Nesting) := []
  /-- The names of groups. -/
  names : List (List Char) := []
  /-- Whether there is something to repeat. -/
  repeatable : Bool := false
  deriving DecidableEq, Repr

def Scan.add (scan : Scan) (depth : Nat) : Scan :=
  { scan with nesting := scan.nesting.add depth, repeatable := true }

def Scan.addFlags (scan : Scan) (flags : Flags) : Scan :=
  { scan with flags, nesting := scan.nesting.add 0, repeatable := false }

def Scan.enter (scan : Scan) (flags : Flags) : Scan :=
  { scan with flags, nesting := {}, outer := (scan.flags, scan.nesting) :: scan.outer, repeatable := false }

def Scan.leave (scan : Scan) : Option Scan :=
  match scan.outer with
  | [] => none
  | (flags, nesting) :: outer => some ({ scan with flags, nesting, outer }.add (scan.nesting.depth + 1))

def canBeginName (c : Char) : Bool :=
  c == '_' || Text.isLetter c

def canContinueName (c : Char) : Bool :=
  ['_', '.', '[', ']'].contains c || Text.isLetterOrNumber c

def Scan.enterNamed (scan : Scan) (cs : List Char) : Option (Scan × List Char) :=
  let (name, rest) := cs.span (· != '>')
  let isName := name.head?.any canBeginName && name.tail.all canContinueName
  if !rest.isEmpty && isName && !scan.names.contains name then
    some ({ scan.enter scan.flags with names := name :: scan.names }, rest.tail)
  else none

/-- Reads the start of a group, after its bracket: its name or its flags, or flags for the rest of the group
around it. What looks ahead or behind is no group. -/
def Scan.readGroup (scan : Scan) (cs : List Char) : Option (Scan × List Char) :=
  match scan.flags.skip cs with
  | '?' :: '=' :: _ | '?' :: '!' :: _ | '?' :: '<' :: '=' :: _ | '?' :: '<' :: '!' :: _ => none
  | '?' :: 'P' :: '<' :: rest | '?' :: '<' :: rest => scan.enterNamed rest
  | '?' :: rest => do
    match ← scan.flags.readGiven [] rest with
    | (flags, _, ':' :: rest) => some (scan.enter flags, rest)
    | (flags, given, _ :: rest) =>
      if given.isEmpty then none else some (scan.addFlags flags, rest)
    | (_, _, []) => none
  | rest => some (scan.enter scan.flags, rest)

def readAtom (flags : Flags) (cs : List Char) : Option (List Char) := do
  let (atom, rest) ← readMember flags cs
  if atom.standsAlone flags then some rest else none

def Scan.isReadable (scan : Scan) : Nat → List Char → Bool
  | 0, _ => false
  | steps + 1, cs =>
    match scan.flags.skip cs with
    | [] => scan.outer.isEmpty && scan.nesting.depth ≤ levelLimit
    | '(' :: rest => (scan.readGroup rest).any fun (scan, rest) => scan.isReadable steps rest
    | ')' :: rest => scan.leave.any fun scan => scan.isReadable steps rest
    | '|' :: rest =>
      isReadable { scan with nesting := scan.nesting.alternate, repeatable := false } steps rest
    | '[' :: rest =>
      let found := do
        let (nesting, rest) ← openClass scan.flags rest
        readClass scan.flags nesting [] rest.length rest
      found.any fun (depth, rest) => isReadable (scan.add depth) steps rest
    | '\x7b' :: _ => false
    | '?' :: rest | '*' :: rest | '+' :: rest =>
      scan.repeatable &&
        isReadable { scan with nesting := scan.nesting.repeatLast } steps
          (if rest.head? == some '?' then rest.tail else rest)
    | '.' :: rest => scan.flags.wide && isReadable (scan.add 0) steps rest
    | '^' :: rest | '$' :: rest => isReadable (scan.add 0) steps rest
    | atom => (readAtom scan.flags atom).any (isReadable (scan.add 0) steps)

end PageUpkeep.Program.Pattern

namespace PageUpkeep.Program

def isPattern (cs : List Char) : Bool :=
  Pattern.Scan.isReadable {} (cs.length + 1) cs

/-- Whether a text is a number without a sign: digits, of which some stand before or behind a point and which
an exponent can follow, or one of the names of what is no such number. -/
def isUnsignedNumber (cs : List Char) : Bool :=
  let lower := cs.map Char.toLower
  let (mantissa, exponent) := lower.span (· != 'e')
  let unsigned (digits : List Char) : List Char :=
    if digits.head? == some '+' || digits.head? == some '-' then digits.tail else digits
  let isDigits (digits : List Char) : Bool := !digits.isEmpty && digits.all Char.isDigit
  ["inf".toList, "infinity".toList, "nan".toList].contains lower ||
    (mantissa.count '.' ≤ 1 && isDigits (mantissa.filter (· != '.')) &&
      (exponent.isEmpty || isDigits (unsigned exponent.tail)))

/-- Whether a text can be asked for as the value of a field: a number or a pattern. Of the numbers, those with
a plus sign alone are no patterns. -/
def isFieldValue (cs : List Char) : Bool :=
  isPattern cs || (cs.head? == some '+' && isUnsignedNumber cs.tail)

end PageUpkeep.Program
