import PageUpkeep.CommandLine.Reader
import PageUpkeep.Proofs.Text.Decimal
import Mathlib.Data.List.TakeDrop

/-! Decimal numbers among the words of a command line.

A negative one begins as an option does. It is a value all the same where values by position are left that
can be numbers.
-/

set_option autoImplicit false

namespace PageUpkeep.CommandLine

open Text.Integer (isDigit_of_mem_toDigits toList_print)

theorem not_mem_of_isDigit {cs : List Char} (digits : ∀ c ∈ cs, c.isDigit = true) {c : Char}
    (other : c.isDigit = false) : c ∉ cs := by
  intro member
  rw [digits c member] at other
  cases other

theorem isNumber_of_isDigit {cs : List Char} (digits : ∀ c ∈ cs, c.isDigit = true) : isNumber cs = true := by
  have mantissa : ∀ c ∈ cs, (!isExponentMark c) = true := by
    intro c member
    have digit := digits c member
    cases mark : isExponentMark c with
    | false => rfl
    | true =>
      simp only [isExponentMark, Bool.or_eq_true, beq_iff_eq] at mark
      rcases mark with rfl | rfl
      · cases digit
      · cases digit
  have whole := List.takeWhile_eq_self_iff.mpr mantissa
  have exponent := List.dropWhile_eq_nil_iff.mpr mantissa
  have leading : cs.head?.all Char.isDigit = true := by
    cases cs with
    | nil => rfl
    | cons first rest => exact digits first List.mem_cons_self
  have characters : (cs.all fun c => c.isDigit || c == '.') = true := by
    apply List.all_eq_true.mpr
    intro c member
    rw [digits c member, Bool.true_or]
  have points : cs.count '.' = 0 := List.count_eq_zero.mpr (not_mem_of_isDigit digits (by decide))
  -- The mantissa is the whole text, and the exponent is left empty.
  simp only [isNumber, List.span_eq_takeWhile_dropWhile, whole, exponent, leading, characters, points]
  rfl

variable {Draft Task : Type} {command : Command Draft Task} {operand : Operand Draft}
  {scan : Scan Draft} {path : List String}

theorem readWord_print (unquoted : scan.plain = false) (next : command.nextOperand scan = some operand)
    (signed : operand.signed = true) (n : Int) :
    command.readWord path scan (Text.Integer.print n) =
      (command.holdValue scan (Text.Integer.print n)).mapError .fault := by
  have characters := toList_print n
  have digits : ∀ c ∈ Nat.toDigits 10 n.natAbs, c.isDigit = true := fun _ => isDigit_of_mem_toDigits
  cases shape : Nat.toDigits 10 n.natAbs with
  | nil => exact absurd shape Nat.toDigits_ne_nil
  | cons first rest =>
    rw [shape] at characters digits
    have leading : first ≠ '-' := by
      rintro rfl
      exact not_mem_of_isDigit digits (by decide) List.mem_cons_self
    by_cases negative : n < 0
    · have word : Word.ofString (Text.Integer.print n) = .short first rest := by
        rw [if_pos negative] at characters
        simp [Word.ofString, characters, leading]
      simp [Command.readWord, unquoted, word, isNumber_of_isDigit digits, next, signed]
    · have word : Word.ofString (Text.Integer.print n) = .plain := by
        rw [if_neg negative] at characters
        simp [Word.ofString, characters, leading]
      simp [Command.readWord, unquoted, word]

section

variable {name about : String} {switches : List (Switch Draft)} {complete : Draft → Option Task}

theorem readFrom_single (start : Draft) (merge : Draft → Draft → Draft) (given : Option (Operand Draft))
    (word : String) (words : List String) :
    (Command.single name about switches given complete).readFrom start merge path scan (word :: words) =
      match (Command.single name about switches given complete).readWord path scan word with
      | .error stop => .error stop
      | .ok further =>
        (Command.single name about switches given complete).readFrom start merge path further words := by
  -- There is no command in it that the word could name.
  have alone : (if Command.Scan.allowsCommand scan then
      (Command.single name about switches given complete).find? word else none) = none := by
    split <;> rfl
  rw [Command.readFrom, alone]
  rfl

theorem nextOperand_single (more : scan.full = false) :
    (Command.single name about switches (some operand) complete).nextOperand scan = some operand := by
  rw [Command.nextOperand, more]
  rfl

theorem readFrom_numbers (start : Draft) (merge : Draft → Draft → Draft) (many : operand.many = true)
    (signed : operand.signed = true) (unquoted : scan.plain = false) (more : scan.full = false)
    (held : List String) (numbers : List Int) :
    (Command.single name about switches (some operand) complete).readFrom start merge path
        { scan with pending := .operands operand held } (numbers.map Text.Integer.print) =
      (Command.single name about switches (some operand) complete).conclude path
        { scan with pending := .operands operand (held ++ numbers.map Text.Integer.print) } := by
  induction numbers generalizing held with
  | nil =>
    rw [List.map_nil, List.append_nil]
    rfl
  | cons n rest ih =>
    have still : ({ scan with pending := .operands operand held } : Scan Draft).plain = false := unquoted
    have next := @nextOperand_single _ _ operand { scan with pending := .operands operand held }
      name about switches complete more
    have word : (Command.single name about switches (some operand) complete).holdValue
        { scan with pending := .operands operand held } (Text.Integer.print n) =
          .ok { scan with pending := .operands operand (held ++ [Text.Integer.print n]) } := by
      simp [Command.holdValue, Command.holdOperand, next, many]
    rw [List.map_cons, readFrom_single, readWord_print still next signed, word]
    refine (ih _).trans ?_
    rw [List.append_assoc]
    rfl

theorem readFrom_first_number (start : Draft) (merge : Draft → Draft → Draft) (many : operand.many = true)
    (signed : operand.signed = true) (unquoted : scan.plain = false) (more : scan.full = false)
    (idle : scan.pending = .none) (n : Int) (rest : List Int) :
    (Command.single name about switches (some operand) complete).readFrom start merge path scan
        ((n :: rest).map Text.Integer.print) =
      (Command.single name about switches (some operand) complete).conclude path
        { scan with pending := .operands operand ((n :: rest).map Text.Integer.print) } := by
  have next := @nextOperand_single _ _ operand scan name about switches complete more
  have word : (Command.single name about switches (some operand) complete).holdValue scan
      (Text.Integer.print n) =
        .ok { scan with pending := .operands operand [Text.Integer.print n] } := by
    simp only [Command.holdValue, Command.holdOperand, next, many, idle, Scan.settle, more]
    rfl
  rw [List.map_cons, readFrom_single, readWord_print unquoted next signed, word]
  exact readFrom_numbers start merge many signed unquoted more _ rest

end

end PageUpkeep.CommandLine
