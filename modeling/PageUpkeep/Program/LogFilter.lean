import PageUpkeep.Event
import PageUpkeep.Program.Pattern

/-! Which events are told: a filter in the form of directives, separated by commas.

A directive names a part of the program, a level, or both; a part without a level is told whole. In
brackets after the part it can ask for a span or, in braces, for a field. There are no spans here, so
that a directive on spans never applies; nor does one on a field's value, which spans alone can have.
Of the directives that apply to an event, the one with the longest part decides.
-/

set_option autoImplicit false

namespace PageUpkeep.Program

structure LogDirective where
  /-- The start of the names of the parts it is about; of all parts if there is none. -/
  target : Option String
  /-- A field that events need to have. -/
  field : Option String
  /-- The greatest rank of a level that is told; zero for nothing. -/
  rank : Nat
  deriving DecidableEq, Repr

namespace LogDirective

def levels : List Level :=
  [.error, .warn, .info, .debug, .trace]

def rankOf (text : List Char) : Option Nat :=
  let digits := if text.head? == some '+' then text.tail else text
  let lower := text.map Char.toLower
  if lower = "off".toList then some 0
  else
    match levels.find? fun level => level.name.toList.map Char.toLower == lower with
    | some level => some level.rank
    | none =>
      if !digits.isEmpty && digits.all Char.isDigit then
        let number := Nat.ofDigitChars 10 digits 0
        if number ≤ Level.trace.rank then some number else none
      else none

def rankAfter (text : List Char) : Option Nat :=
  if text.isEmpty then some Level.trace.rank else rankOf text

/-- A directive that is read, which may be one that never applies. -/
inductive Reading where
  | directive (directive : LogDirective)
  | neverApplies
  deriving DecidableEq, Repr

/-- The characters of a text that begin between two offsets in bytes; the first of the text begins at
`offset`. -/
def slice (start stop : Nat) (offset : Nat) : List Char → List Char
  | [] => []
  | c :: rest =>
    let further := slice start stop (offset + c.utf8Size) rest
    if start ≤ offset && offset < stop then c :: further else further

def canBegin (c : Char) : Bool :=
  c == '-' || c == ':' || c == '_' || c == '[' || Text.isLetterOrNumber c

structure Scope where
  target : Option String := none
  span : Option String := none
  field : Option String := none
  /-- Whether the field is asked for with a value. -/
  valued : Bool := false
  deriving DecidableEq, Repr

inductive Part where
  | name
  | span (start : Nat)
  | field (start : Nat)
  /-- After the closing brace. -/
  | fieldEnd
  /-- After the closing bracket. -/
  | scopeEnd
  | level (start : Nat)
  deriving DecidableEq, Repr

/-- Takes up a field. What follows an equals sign is a value, and what follows another one does not count. -/
def Scope.withField (scope : Scope) (text : List Char) : Option Scope :=
  match text.splitOnP (· == '=') with
  | name :: value :: _ =>
    if isFieldValue value then some { scope with field := some (String.ofList name), valued := true }
    else none
  | _ => if text.isEmpty then none else some { scope with field := some (String.ofList text) }

/-- One character of a directive: the part it leads to, and what is asked for then. `text` is what offsets
are taken in. -/
def step (text : List Char) (offset : Nat) (c : Char) (part : Part) (scope : Scope) :
    Option (Part × Scope) :=
  let taken (start : Nat) : List Char := slice start offset 0 text
  let after := offset + 1
  match part with
  | .name =>
    if c = '=' then some (.level after, { scope with target := some (String.ofList (taken 0)) })
    else if c = '[' then
      let named := if offset = 0 then scope else { scope with target := some (String.ofList (taken 0)) }
      some (.span after, named)
    else some (.name, scope)
  | .span start =>
    let span := String.ofList (taken start)
    if c = ']' then some (.scopeEnd, { scope with span := some span })
    else if c = '\x7b' then
      some (.field after, if span.isEmpty then scope else { scope with span := some span })
    else some (.span start, scope)
  | .field start =>
    if c = '\x7d' then (scope.withField (taken start)).map fun scope => (.fieldEnd, scope)
    else some (.field start, scope)
  | .fieldEnd => if c = ']' then some (.scopeEnd, scope) else none
  | .scopeEnd => if c = '=' then some (.level after, scope) else none
  | .level start => some (.level start, scope)

def follow (text : List Char) : Nat → List Char → Part → Scope → Option (Part × Scope)
  | _, [], part, scope => some (part, scope)
  | offset, c :: rest, part, scope =>
    (step text offset c part scope).bind fun (part, scope) =>
      follow text (offset + c.utf8Size) rest part scope

def Scope.reading (scope : Scope) (rank : Nat) : Reading :=
  if scope.span.isSome || scope.valued then .neverApplies
  else .directive ⟨scope.target, scope.field, rank⟩

/-- Reads one directive. Blanks at its ends do not count for where its parts begin and end, but are there all
the same when a part is taken from the text. -/
def read (text : List Char) : Option Reading :=
  let bare := Text.trim text
  if !bare.head?.any canBegin then none
  else
    match follow text 0 bare .name {} with
    | some (.name, _) =>
      some (.directive
        (match rankOf text with
          | some rank => ⟨none, none, rank⟩
          | none => ⟨some (String.ofList text), none, Level.trace.rank⟩))
    | some (.level start, scope) =>
      (rankAfter (slice start (start + (String.ofList text).utf8ByteSize) 0 text)).map scope.reading
    | some (.scopeEnd, scope) => some (scope.reading Level.trace.rank)
    | _ => none

def applies (directive : LogDirective) (event : Event) : Bool :=
  (directive.target.all fun target => target.toList.isPrefixOf event.source.toList) &&
    directive.field.all fun field =>
      field == "message" || (event.fields.map Prod.fst).contains field

/-- Whether a directive is asked before another: longer parts first, then those on a field, and of
two alike the later. -/
def isBefore (directive other : LogDirective) : Bool :=
  let size (directive : LogDirective) : Nat := (directive.target.map (·.utf8ByteSize + 1)).getD 0
  let needs (directive : LogDirective) : Nat := if directive.field.isSome then 1 else 0
  size other < size directive ||
    (size other == size directive &&
      (needs other < needs directive ||
        (needs other == needs directive && !(directive.field.getD "" < other.field.getD ""))))

end LogDirective

structure LogFilter where
  directives : List LogDirective
  deriving DecidableEq, Repr

namespace LogFilter

def ofRank (level : Level) : LogFilter :=
  ⟨[⟨none, none, level.rank⟩]⟩

/-- The filter that a text stands for: errors alone for an empty text, and warnings too for one with a
malformed directive. Where nothing stands between commas there is no directive. -/
def ofText (text : String) : LogFilter :=
  let pieces := (text.toList.splitOnP (· == ',')).filter fun piece => !piece.isEmpty
  if pieces.isEmpty then ofRank .error
  else
    match pieces.mapM LogDirective.read with
    | none => ofRank .warn
    | some readings => ⟨readings.filterMap fun reading =>
        match reading with
        | .directive directive => some directive
        | .neverApplies => none⟩

def decisive (filter : LogFilter) (event : Event) : Option LogDirective :=
  (filter.directives.filter fun directive => directive.applies event).foldl
    (fun best directive =>
      match best with
      | none => some directive
      | some earlier => some (if directive.isBefore earlier then directive else earlier)) none

def allows (filter : LogFilter) (event : Event) : Bool :=
  (filter.decisive event).any fun directive => event.level.rank ≤ directive.rank

end LogFilter

end PageUpkeep.Program
