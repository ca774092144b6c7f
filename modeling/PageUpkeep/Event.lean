import PageUpkeep.Store.Error
import PageUpkeep.Theme

/-! What the upkeep of a page reports while it goes on. Nothing depends on these reports; they say what
was passed over in silence otherwise. -/

set_option autoImplicit false

namespace PageUpkeep

inductive Level where
  | error
  | warn
  | info
  | debug
  | trace
  deriving DecidableEq, Repr

namespace Level

def name : Level → String
  | error => "ERROR"
  | warn => "WARN"
  | info => "INFO"
  | debug => "DEBUG"
  | trace => "TRACE"

def rank : Level → Nat
  | error => 1
  | warn => 2
  | info => 3
  | debug => 4
  | trace => 5

end Level

inductive Event where
  | sweepDone (seen updated : Nat) (next : UInt64)
  | labelWithoutTimestamp (attributeName : String)
  | labelWithInvalidTimestamp (attributeName value : String)
  | themeUnreadable (key : String) (error : StoreError)
  | themeUnrecognized (key value : String)
  | themeNotPersisted (key : String) (theme : Theme) (error : StoreError)
  | themeNotCleared (key : String) (error : StoreError)
  | pageReady (next : UInt64)
  | settingsLoaded (path : String)
  deriving DecidableEq, Repr

namespace Event

inductive Value where
  | text (value : String)
  | number (value : Nat)
  deriving DecidableEq, Repr

def Value.print : Value → String
  | text value => value
  | number value => value.repr

def level : Event → Level
  | sweepDone .. => .trace
  | _ => .debug

def message : Event → String
  | sweepDone .. => "age sweep done"
  | labelWithoutTimestamp _ => "age element without timestamp"
  | labelWithInvalidTimestamp .. => "age element with invalid timestamp"
  | themeUnreadable .. => "theme storage read failed"
  | themeUnrecognized .. => "ignoring unrecognized stored theme"
  | themeNotPersisted .. => "theme not persisted"
  | themeNotCleared .. => "stored theme not cleared"
  | pageReady _ => "page ready"
  | settingsLoaded _ => "loaded config"

def fields : Event → List (String × Value)
  | sweepDone seen updated next =>
    [("seen", .number seen), ("updated", .number updated), ("next_secs", .number next.toNat)]
  | labelWithoutTimestamp attributeName => [("attribute", .text attributeName)]
  | labelWithInvalidTimestamp attributeName value =>
    [("attribute", .text attributeName), ("value", .text value)]
  | themeUnreadable key error => [("key", .text key), ("error", .text error.message)]
  | themeUnrecognized key value => [("key", .text key), ("value", .text value)]
  | themeNotPersisted key theme error =>
    [("key", .text key), ("theme", .text theme.name), ("error", .text error.message)]
  | themeNotCleared key error => [("key", .text key), ("error", .text error.message)]
  | pageReady next => [("next_secs", .number next.toNat)]
  | settingsLoaded path => [("path", .text path)]

def source : Event → String
  | sweepDone .. | labelWithoutTimestamp _ | labelWithInvalidTimestamp .. => "tintage::age::renderer"
  | themeUnreadable .. | themeUnrecognized .. | themeNotPersisted .. | themeNotCleared .. =>
    "tintage::theme::controller"
  | pageReady _ => "tintage::page"
  | settingsLoaded _ => "tintage::config"

def line (event : Event) : String :=
  " ".intercalate (event.level.name :: event.message ::
    event.fields.map fun field => field.1 ++ "=" ++ field.2.print)

end Event

end PageUpkeep
