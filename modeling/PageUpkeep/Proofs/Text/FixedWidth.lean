import Mathlib.Algebra.Group.Nat.Defs
import PageUpkeep.Proofs.Text.Decimal

/-! Numbers of a fixed width, with marks between them, read from the front of a text.

What is read is taken away, so readers can follow each other. A number that has been padded to a width is
read back whatever stands behind it.
-/

set_option autoImplicit false

namespace PageUpkeep.Text

def takeNumber (width : Nat) (cs : List Char) : Option (Nat × List Char) :=
  let digits := cs.take width
  if digits.length = width ∧ digits.all Char.isDigit then
    some (Nat.ofDigitChars 10 digits 0, cs.drop width)
  else none

def takeMark (mark : Char) : List Char → Option (List Char)
  | [] => none
  | c :: rest => if c = mark then some rest else none

def takeMinus : List Char → Bool × List Char
  | '-' :: rest => (true, rest)
  | cs => (false, cs)

@[simp] theorem takeMark_cons (mark : Char) (rest : List Char) :
    takeMark mark (mark :: rest) = some rest :=
  if_pos rfl

theorem bne_of_notMem {mark : Char} {front : List Char} (quiet : mark ∉ front) :
    ∀ c ∈ front, (c != mark) = true := by
  intro c member
  rw [bne_iff_ne]
  rintro rfl
  exact quiet member

theorem takeWhile_mark {mark : Char} {front : List Char} (quiet : mark ∉ front) (rest : List Char) :
    (front ++ mark :: rest).takeWhile (· != mark) = front := by
  rw [List.takeWhile_append_of_pos (bne_of_notMem quiet)]
  simp

theorem dropWhile_mark {mark : Char} {front : List Char} (quiet : mark ∉ front) (rest : List Char) :
    (front ++ mark :: rest).dropWhile (· != mark) = mark :: rest := by
  rw [List.dropWhile_append_of_pos (bne_of_notMem quiet)]
  simp

theorem toList_padded (width n : Nat) :
    (padded width n).toList =
      List.replicate (width - (Nat.toDigits 10 n).length) '0' ++ Nat.toDigits 10 n :=
  String.toList_ofList

theorem isDigit_of_mem_padded {width n : Nat} {c : Char} (member : c ∈ (padded width n).toList) :
    c.isDigit = true := by
  rw [toList_padded] at member
  rcases List.mem_append.mp member with zero | digit
  · rw [(List.mem_replicate.mp zero).2]
    rfl
  · exact Integer.isDigit_of_mem_toDigits digit

theorem notMem_padded {c : Char} (mark : c.isDigit = false) (width n : Nat) :
    c ∉ (padded width n).toList := by
  intro member
  rw [isDigit_of_mem_padded member] at mark
  exact Bool.noConfusion mark

theorem length_padded {width n : Nat} (positive : 0 < width) (fits : n < 10 ^ width) :
    (padded width n).toList.length = width := by
  have digits := (Nat.length_toDigits_le_iff (by decide : 1 < 10) positive).mpr fits
  rw [toList_padded, List.length_append, List.length_replicate]
  exact Nat.sub_add_cancel digits

theorem ofDigitChars_padded (width n : Nat) : Nat.ofDigitChars 10 (padded width n).toList 0 = n := by
  have zeros : ∀ count, Nat.ofDigitChars 10 (List.replicate count '0' ++ Nat.toDigits 10 n) 0 = n := by
    intro count
    induction count with
    | zero => exact Nat.ofDigitChars_toDigits (by decide) (by decide)
    | succ count ih => exact ih
  rw [toList_padded, zeros]

theorem takeNumber_padded {width n : Nat} (positive : 0 < width) (fits : n < 10 ^ width)
    (rest : List Char) :
    takeNumber width ((padded width n).toList ++ rest) = some (n, rest) := by
  have length := length_padded positive fits
  have digits : (padded width n).toList.all Char.isDigit = true :=
    List.all_eq_true.mpr fun _ member => isDigit_of_mem_padded member
  have front : ((padded width n).toList ++ rest).take width = (padded width n).toList :=
    List.take_left' length
  have back : ((padded width n).toList ++ rest).drop width = rest := List.drop_left' length
  rw [takeNumber, front, back, if_pos ⟨length, digits⟩, ofDigitChars_padded]

theorem takeMinus_padded {width n : Nat} (positive : 0 < width) (fits : n < 10 ^ width)
    (rest : List Char) :
    takeMinus ((padded width n).toList ++ rest) = (false, (padded width n).toList ++ rest) := by
  cases text : (padded width n).toList with
  | nil =>
    have length := length_padded positive fits
    rw [text] at length
    exact absurd length (Nat.ne_of_lt positive)
  | cons c more =>
    have digit : c.isDigit = true := isDigit_of_mem_padded (text ▸ List.mem_cons_self)
    unfold takeMinus
    split
    · rename_i same
      cases same
      exact absurd digit (by decide)
    · rfl

end PageUpkeep.Text
