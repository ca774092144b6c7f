import PageUpkeep.CommandLine.Grammar

/-! Reading the words of a command line, from left to right.

A value is not taken when its word is met but when the next option or another kind of value follows, or
the words end: until then it is held back. A fault of the words met in between therefore comes first, and
what a group holds back is taken after all that its command took.
-/

set_option autoImplicit false

namespace PageUpkeep.CommandLine

variable {Draft Task : Type}

inductive Stop where
  /-- A manual was asked for. -/
  | manual (page : Manual)
  /-- The version was asked for. -/
  | version (text : String)
  /-- Nothing was said, where a command is needed. -/
  | silence (page : Manual)
  | fault (fault : UsageFault)
  deriving DecidableEq, Repr

inductive Word where
  | terminator
  /-- Two dashes and a name, with what follows an equals sign. -/
  | long (name : String) (attached : Option String)
  /-- A dash and a letter, with what follows it. -/
  | short (letter : Char) (rest : List Char)
  | plain
  deriving DecidableEq, Repr

def Word.ofString (word : String) : Word :=
  match word.toList with
  | ['-', '-'] => .terminator
  | '-' :: '-' :: name =>
    let (name, attached) := name.span (· != '=')
    .long (String.ofList name) (attached.tail?.map String.ofList)
  | '-' :: letter :: rest => .short letter rest
  | _ => .plain

def isExponentMark (c : Char) : Bool :=
  c == 'e' || c == 'E'

/-- Whether what follows a dash makes a number: digits, at most one point after the first character, and
at most one exponent mark after the first and before the last, with no point behind it. -/
def isNumber (cs : List Char) : Bool :=
  let (mantissa, exponent) := cs.span (!isExponentMark ·)
  let isMantissa :=
    (mantissa.head?.all Char.isDigit) && mantissa.all (fun c => c.isDigit || c == '.') &&
      mantissa.count '.' ≤ 1
  isMantissa &&
    match exponent with
    | [] => true
    | _ :: digits => !mantissa.isEmpty && !digits.isEmpty && digits.all Char.isDigit

inductive Pending (Draft : Type) where
  | none
  /-- An option whose value is to come. -/
  | wanting (switch : Switch Draft)
  | switch (switch : Switch Draft) (value : String)
  | operands (operand : Operand Draft) (values : List String)

structure Scan (Draft : Type) where
  draft : Draft
  /-- The arguments that have taken a value, as messages name them. -/
  given : List String := []
  pending : Pending Draft := .none
  /-- Whether values by position are used up. -/
  full : Bool := false
  /-- Whether all further words are values, whatever their form. -/
  plain : Bool := false

def Parameter.give (parameter : Parameter Draft) (shown value : String) (scan : Scan Draft) :
    Except UsageFault (Scan Draft) :=
  match parameter.take value scan.draft with
  | .ok draft => .ok { scan with draft, given := scan.given ++ [shown] }
  | .error .empty => .error (.missingValue shown)
  | .error (.refused message) => .error (.invalidValue value shown message)

def Switch.give (switch : Switch Draft) (value : String) (scan : Scan Draft) :
    Except UsageFault (Scan Draft) :=
  if scan.given.contains switch.shown then .error (.repeatedArgument switch.shown)
  else switch.value.give switch.shown value scan

def Scan.settle (scan : Scan Draft) : Except UsageFault (Scan Draft) :=
  let settled := { scan with pending := .none }
  match scan.pending with
  | .none => .ok settled
  | .wanting switch => .error (.missingValue switch.shown)
  | .switch switch value => switch.give value settled
  | .operands operand values =>
    values.foldlM (fun scan value => operand.value.give operand.shown value scan) settled

namespace Command

inductive Flag (Draft : Type) where
  | switch (switch : Switch Draft)
  | help
  | version (text : String)

def named (command : Command Draft Task) (name : String) : Option (Flag Draft) :=
  match command.switches.find? fun switch => switch.name == name with
  | some switch => some (.switch switch)
  | none =>
    if name == "help" then some .help
    else if name == "version" then command.version.map .version
    else none

def lettered (command : Command Draft Task) (letter : Char) : Option (Flag Draft) :=
  match command.switches.find? fun switch => switch.letter == some letter with
  | some switch => some (.switch switch)
  | none =>
    if letter == 'h' then some .help
    else if letter == 'V' then command.version.map .version
    else none

def nextOperand (command : Command Draft Task) (scan : Scan Draft) : Option (Operand Draft) :=
  if scan.full then none else command.operand

def misplaced (command : Command Draft Task) (scan : Scan Draft) (word : String) : UsageFault :=
  let isCommand := (command.find? word).isSome || word == helpName
  if command.isGroup && !(scan.plain && isCommand) then .unknownCommand word else .unknownArgument word

def holdOperand (command : Command Draft Task) (scan : Scan Draft) (word : String) :
    Except UsageFault (Scan Draft) :=
  match command.nextOperand scan with
  | none => .error (command.misplaced scan word)
  | some operand =>
    match operand.many, scan.pending with
    | true, .operands operand values =>
      .ok { scan with pending := .operands operand (values ++ [word]) }
    | many, _ => do
      let settled ← scan.settle
      .ok { settled with pending := .operands operand [word], full := !many }

/-- Holds back a value, for the option that wants one or by position. -/
def holdValue (command : Command Draft Task) (scan : Scan Draft) (word : String) :
    Except UsageFault (Scan Draft) :=
  match scan.pending with
  | .wanting switch => .ok { scan with pending := .switch switch word }
  | _ => command.holdOperand scan word

def readSwitch (switch : Switch Draft) (attached : Option String) (scan : Scan Draft) :
    Except UsageFault (Scan Draft) := do
  let settled ← scan.settle
  match attached with
  | some value => switch.give value settled
  | none => .ok { settled with pending := .wanting switch }

/-- Ends reading for a text that was asked for, unless what is held back is at fault. -/
def answer (scan : Scan Draft) (text : Stop) : Stop :=
  match scan.settle with
  | .ok _ => text
  | .error fault => .fault fault

def readWord (command : Command Draft Task) (path : List String) (scan : Scan Draft) (word : String) :
    Except Stop (Scan Draft) :=
  if scan.plain then (command.holdOperand scan word).mapError .fault
  else
    match Word.ofString word with
    | .terminator => .ok { scan with plain := true }
    | .long name attached =>
      match command.named name, attached with
      | none, _ => .error (.fault (.unknownArgument ("--" ++ name)))
      | some (.switch switch), _ => (readSwitch switch attached scan).mapError .fault
      | some .help, none => .error (answer scan (.manual (command.manual path)))
      | some (.version text), none => .error (answer scan (.version text))
      | some _, some value => .error (.fault (.unexpectedValue value ("--" ++ name)))
    | .short letter rest =>
      if isNumber (letter :: rest) && (command.nextOperand scan).any Operand.signed then
        (command.holdValue scan word).mapError .fault
      else
        match command.lettered letter with
        | none => .error (.fault (.unknownArgument (String.ofList ['-', letter])))
        | some (.switch switch) =>
          let value := if rest.head? == some '=' then rest.tail else rest
          (readSwitch switch (if rest.isEmpty then none else some (String.ofList value)) scan).mapError
            .fault
        | some .help => .error (answer scan (.manual (command.manual path)))
        | some (.version text) => .error (answer scan (.version text))
    | .plain => (command.holdValue scan word).mapError .fault

def manualOf (command : Command Draft Task) (path : List String) : List String → Stop
  | [] => .manual (command.manual path)
  | [name] =>
    if command.isGroup && name == helpName then .manual (helpManual path)
    else
      match command.find? name with
      | some inner => .manual (inner.manual (path ++ [name]))
      | none => .fault (.unknownCommand name)
  | name :: names =>
    if command.isGroup && name == helpName then .fault (.unknownCommand (names.headD ""))
    else
      match command.find? name with
      | some inner => inner.manualOf (path ++ [name]) names
      | none => .fault (.unknownCommand name)

def conclude (command : Command Draft Task) (path : List String) (scan : Scan Draft) :
    Except Stop (Draft × Task) :=
  match scan.settle with
  | .error fault => .error (.fault fault)
  | .ok settled =>
    match command with
    | group .. =>
      if settled.given.isEmpty then .error (.silence (command.manual path))
      else .error (.fault (.missingCommand (" ".intercalate path)))
    | single _ _ _ _ complete =>
      match complete settled.draft with
      | some task => .ok (settled.draft, task)
      | none => .error (.fault .missingArguments)

def Scan.allowsCommand (scan : Scan Draft) : Bool :=
  !scan.plain &&
    match scan.pending with
    | .wanting _ => false
    | _ => true

/-- Reads the words of a command that was reached by a path of names. Every command in it starts a draft
of its own, and `merge` puts the draft of a command together with that of the group around it. -/
def readFrom (start : Draft) (merge : Draft → Draft → Draft) (command : Command Draft Task)
    (path : List String) (scan : Scan Draft) : List String → Except Stop (Draft × Task)
  | [] => command.conclude path scan
  | word :: words =>
    if command.isGroup && Scan.allowsCommand scan && word == helpName then
      .error (command.manualOf path words)
    else
      match if Scan.allowsCommand scan then command.find? word else none with
      | some inner =>
        match readFrom start merge inner (path ++ [inner.name]) { draft := start } words with
        | .error stop => .error stop
        | .ok (draft, task) =>
          match scan.settle with
          | .error fault => .error (.fault fault)
          | .ok settled => .ok (merge draft settled.draft, task)
      | none =>
        match command.readWord path scan word with
        | .error stop => .error stop
        | .ok further => readFrom start merge command path further words

def read (command : Command Draft Task) (start : Draft) (merge : Draft → Draft → Draft)
    (words : List String) : Except Stop (Draft × Task) :=
  readFrom start merge command [command.name] { draft := start } words

end Command

end PageUpkeep.CommandLine
