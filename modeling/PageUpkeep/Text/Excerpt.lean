import PageUpkeep.Text.Glyph

/-! Texts and characters shown inside a message: between quotes, with every character that has no shape
of its own written as an escape, so that the message stays on one line and can be read. -/

set_option autoImplicit false

namespace PageUpkeep.Text

def excerptForm (quote c : Char) : List Char :=
  if c = quote then ['\\', quote]
  else if c = '\\' then ['\\', '\\']
  else if c = '\n' then ['\\', 'n']
  else if c = '\r' then ['\\', 'r']
  else if c = '\t' then ['\\', 't']
  else if c = '\x00' then ['\\', '0']
  else if isShapeless c then
    '\\' :: 'u' :: '\x7b' :: Nat.toDigits 16 c.toNat ++ ['\x7d']
  else [c]

def excerpt (text : String) : String :=
  String.ofList ('"' :: text.toList.flatMap (excerptForm '"') ++ ['"'])

def excerptChar (c : Char) : String :=
  String.ofList ('\'' :: excerptForm '\'' c ++ ['\''])

end PageUpkeep.Text
