/-! Texts inside markup: every character that could end a text or an attribute, in either kind of
quotes, is written as a reference. -/

set_option autoImplicit false

namespace PageUpkeep.Html

def escapeChar : Char → List Char
  | '<' => ['&', 'l', 't', ';']
  | '>' => ['&', 'g', 't', ';']
  | '&' => ['&', 'a', 'm', 'p', ';']
  | '"' => ['&', 'q', 'u', 'o', 't', ';']
  | '\'' => ['&', '#', 'x', '2', '7', ';']
  | '/' => ['&', '#', 'x', '2', 'f', ';']
  | c => [c]

def escape (text : String) : String :=
  String.ofList (text.toList.flatMap escapeChar)

def isPlain (c : Char) : Bool :=
  !(['<', '>', '&', '"', '\'', '/'].contains c)

theorem escapeChar_of_isPlain {c : Char} (plain : isPlain c = true) : escapeChar c = [c] := by
  simp only [isPlain, List.contains_cons, List.contains_nil, Bool.or_false, Bool.not_eq_true',
    Bool.or_eq_false_iff, beq_eq_false_iff_ne, ne_eq] at plain
  obtain ⟨less, greater, ampersand, quote, apostrophe, slash⟩ := plain
  unfold escapeChar
  split <;> simp_all

theorem escape_of_isPlain {text : String} (plain : text.toList.all isPlain = true) :
    escape text = text := by
  have all : ∀ cs : List Char, cs.all isPlain = true → cs.flatMap escapeChar = cs := by
    intro cs
    induction cs with
    | nil => simp
    | cons c rest ih =>
      intro every
      rw [List.all_cons, Bool.and_eq_true] at every
      rw [List.flatMap_cons, escapeChar_of_isPlain every.1, ih every.2]
      rfl
  rw [escape, all _ plain, String.ofList_toList]

end PageUpkeep.Html
