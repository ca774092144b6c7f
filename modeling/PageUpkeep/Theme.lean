import PageUpkeep.Json.Printer
import PageUpkeep.Json.Reader

/-! The preference between a light and a dark page, or leaving the choice to the system, and the
colour mode it comes to. -/

set_option autoImplicit false

namespace PageUpkeep

inductive ColorMode where
  | light
  | dark
  deriving DecidableEq, Repr

/-- What is preferred; `auto` leaves the mode to the system. -/
inductive Theme where
  | auto
  | light
  | dark
  deriving DecidableEq, Repr, Inhabited

structure UnknownTheme where
  name : String
  deriving DecidableEq, Repr

def UnknownTheme.message (unknown : UnknownTheme) : String :=
  "unknown theme '" ++ unknown.name ++ "', expected auto, light or dark"

namespace ColorMode

def name : ColorMode → String
  | light => "light"
  | dark => "dark"

def names : List (String × ColorMode) :=
  [(light.name, light), (dark.name, dark)]

/-- The mode of a page that is left to the system. A system that tells no mode counts as light. -/
def ofSystem : Option ColorMode → ColorMode
  | some dark => dark
  | _ => light

def toJson (mode : ColorMode) : List Char :=
  Json.text mode.name

def ofJson (source : String) : Except Json.Error ColorMode :=
  Json.readAll (Json.readName names) source

end ColorMode

namespace Theme

def name : Theme → String
  | auto => "auto"
  | light => "light"
  | dark => "dark"

def order : List Theme :=
  [auto, light, dark]

def ofName (name : String) : Except UnknownTheme Theme :=
  match order.find? fun theme => theme.name == name with
  | some theme => .ok theme
  | none => .error ⟨name⟩

@[simp] theorem ofName_name (theme : Theme) : ofName theme.name = .ok theme := by
  cases theme <;> rfl

def next : Theme → Theme
  | auto => light
  | light => dark
  | dark => auto

theorem order_get?_next (theme : Theme) :
    order[(order.idxOf theme + 1) % order.length]? = some theme.next := by
  cases theme <;> decide

/-- Whether a theme is stored by its name. Leaving the choice to the system is stored as nothing. -/
def isPersisted (theme : Theme) : Bool :=
  theme != auto

def resolve {m : Type → Type} [Pure m] (ask : m ColorMode) : Theme → m ColorMode
  | auto => ask
  | light => pure .light
  | dark => pure .dark

def toJson (theme : Theme) : List Char :=
  Json.text theme.name

def ofJson (source : String) : Except Json.Error Theme :=
  Json.readAll (Json.readName (order.map fun theme => (theme.name, theme))) source

end Theme

end PageUpkeep
