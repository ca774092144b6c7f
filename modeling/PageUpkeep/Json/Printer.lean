import PageUpkeep.Json.Quoted
import PageUpkeep.Table

/-! Writing JSON: objects and lists on one line, and tables of texts one entry a line. -/

set_option autoImplicit false

namespace PageUpkeep.Json

def object (members : List (String × List Char)) : List Char :=
  '\x7b' :: [','].intercalate (members.map fun member =>
    quoted member.1.toList ++ ':' :: member.2) ++ ['\x7d']

def list (items : List (List Char)) : List Char :=
  '[' :: [','].intercalate items ++ [']']

def text (value : String) : List Char :=
  quoted value.toList

def number (value : UInt64) : List Char :=
  Nat.toDigits 10 value.toNat

def tableLine (entry : String × String) : List Char :=
  '\n' :: ' ' :: ' ' :: text entry.1 ++ ':' :: ' ' :: text entry.2

def table (entries : Table) : List Char :=
  match entries.entries with
  | [] => ['\x7b', '\x7d']
  | lines => '\x7b' :: [','].intercalate (lines.map tableLine) ++ ['\n', '\x7d']

end PageUpkeep.Json
