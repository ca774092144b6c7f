/-! Blank characters, and the two things done with them: cutting a text into its words and
trimming its ends. Blank means the Unicode property White_Space, also where a text happens to be
markup or a number. -/

set_option autoImplicit false

namespace PageUpkeep.Text

def isBlank (c : Char) : Bool :=
  ('\t' ≤ c && c ≤ '\r') || c == ' ' || c == '\u0085' || c == '\u00a0' || c == '\u1680' ||
  ('\u2000' ≤ c && c ≤ '\u200a') || c == '\u2028' || c == '\u2029' || c == '\u202f' ||
  c == '\u205f' || c == '\u3000'

def words (cs : List Char) : List (List Char) :=
  (cs.splitOnP isBlank).filter fun piece => !piece.isEmpty

def trim (cs : List Char) : List Char :=
  ((cs.dropWhile isBlank).reverse.dropWhile isBlank).reverse

def isBlankText (cs : List Char) : Bool :=
  cs.all isBlank

end PageUpkeep.Text
