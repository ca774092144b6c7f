/-! Texts without their terminal sequences, as they go to where a terminal would not read them.

A sequence begins with an escape character. By what follows, it is a short one, a control sequence up to
its final letter, a command up to a bell, or a string for the device. Another escape character ends any of
them. Of the other control characters only those that are blanks of ASCII go through. In a short sequence
or a control sequence, such a blank goes through too, and so does the text behind it, up to the next
character that does not go through: there the sequence goes on.
-/

set_option autoImplicit false

namespace PageUpkeep.Terminal

inductive Sequence where
  /-- Text. -/
  | none
  /-- After an escape character. -/
  | escape
  /-- A short sequence, of which the last character is to come. -/
  | short
  | control
  | command
  /-- The start of a string for the device: nothing of it yet, then its parameters, then other marks. -/
  | header
  | parameters
  | marks
  | string
  deriving DecidableEq, Repr

def isBlankControl (c : Char) : Bool :=
  c == '\t' || c == '\n' || c == '\x0c' || c == '\r'

def endsString (c : Char) : Bool :=
  (String.utf8EncodeChar c).contains 0x9c

namespace Sequence

def begin (c : Char) : Sequence :=
  if c = '[' then control
  else if c = ']' then command
  else if c = 'P' then header
  else if c = 'X' || c = '^' || c = '_' then string
  else if ' ' ≤ c && c ≤ '/' then short
  else if '0' ≤ c && c ≤ '~' then none
  else escape

/-- What a character leads to at the start of a string for the device. A character that is out of order begins
the string as its final letter does. -/
def prepare (c : Char) : Sequence → Sequence
  | header =>
    if ' ' ≤ c && c ≤ '/' then marks
    else if c.isDigit || (';' ≤ c && c ≤ '?') then parameters
    else if ':' ≤ c && c ≤ '~' then string
    else header
  | parameters =>
    if ' ' ≤ c && c ≤ '/' then marks
    else if c.isDigit || c = ';' then parameters
    else if ':' ≤ c && c ≤ '~' then string
    else parameters
  | marks => if '0' ≤ c && c ≤ '~' then string else marks
  | sequence => sequence

def step (sequence : Sequence) (c : Char) : Sequence × Bool :=
  if c = '\x1b' then (escape, false)
  else if c = '\x18' || c = '\x1a' then (none, false)
  else
    match sequence with
    | none => (none, isBlankControl c || (0x20 ≤ c.toNat && c != '\x7f'))
    | escape => (begin c, isBlankControl c)
    | short => (if '0' ≤ c && c ≤ '~' then none else short, isBlankControl c)
    | control => (if '@' ≤ c && c ≤ '~' then none else control, isBlankControl c)
    | command => (if c = '\x07' then none else command, false)
    | header | parameters | marks => (prepare c sequence, false)
    | string => (if endsString c then none else string, false)

end Sequence

/-- What goes through of a text. Where the character before went through (`isOpen`), the next is read as if
it were text; a sequence that was left by a blank goes on at the first character that is not. -/
def passed (sequence : Sequence) (isOpen : Bool) : List Char → List Char
  | [] => []
  | c :: rest =>
    let (asText, isText) := Sequence.none.step c
    let (next, isShown) :=
      if isOpen && isText then (sequence, true)
      else if isOpen && asText != .none then asText.step c
      else sequence.step c
    if isShown then c :: passed (if c.toNat < 128 then next else .none) true rest else passed next false rest

theorem passed_of_isText {text : List Char} (isText : ∀ c ∈ text, (Sequence.none.step c).2 = true)
    (isOpen : Bool) : passed .none isOpen text = text := by
  induction text generalizing isOpen with
  | nil => rfl
  | cons c rest ih =>
    have first := isText c List.mem_cons_self
    have further := ih (fun d member => isText d (List.mem_cons_of_mem c member)) true
    have stays : (Sequence.none.step c).1 = .none := by
      unfold Sequence.step at first ⊢
      split at first
      · cases first
      · rename_i notEscape
        rw [if_neg notEscape]
        split <;> rfl
    cases isOpen <;> simp [passed, first, stays, further]

def plainText (text : String) : String :=
  String.ofList (passed .none false text.toList)

theorem plainText_of_isText {text : String}
    (isText : ∀ c ∈ text.toList, (Sequence.none.step c).2 = true) : plainText text = text := by
  simp [plainText, passed_of_isText isText]

end PageUpkeep.Terminal
