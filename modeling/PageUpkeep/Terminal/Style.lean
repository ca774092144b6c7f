/-! Text styles of terminals: numbers that switch a style on, in the order in which they are sent,
before a text and a reset after it. -/

set_option autoImplicit false

namespace PageUpkeep

structure Style where
  codes : List Nat
  deriving DecidableEq, Repr

namespace Style

def plain : Style := ⟨[]⟩
def bold : Style := ⟨[1]⟩
def dim : Style := ⟨[2]⟩
def underlinedBold : Style := ⟨[1, 4]⟩
def boldRed : Style := ⟨[1, 31]⟩
def green : Style := ⟨[32]⟩
def greenBold : Style := ⟨[32, 1]⟩
def yellow : Style := ⟨[33]⟩

def send (code : Nat) : String :=
  "\x1b[" ++ code.repr ++ "m"

def paint (color : Bool) (style : Style) (text : String) : String :=
  if color && !style.codes.isEmpty then String.join (style.codes.map send) ++ text ++ send 0 else text

end Style

end PageUpkeep
