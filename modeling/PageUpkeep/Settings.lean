import PageUpkeep.Files.Tree
import PageUpkeep.Json.Printer
import PageUpkeep.Json.Reader

/-! The identifiers that a page and its upkeep agree on, their defaults, and reading them from JSON.

A source overlays the defaults: what it does not give keeps its default, and what it gives beyond
the known fields is passed over.
-/

set_option autoImplicit false

namespace PageUpkeep

/-- Identifiers of the theme: its key in a store, its attribute of the root element, and the id of the
element that shows it. -/
structure ThemeSettings where
  storageKey : String := "cgit-theme"
  rootAttribute : String := "data-theme"
  toggleId : String := "theme-toggle"
  deriving DecidableEq, Repr, Inhabited

structure AgeSettings where
  timestampAttribute : String := "data-ut"
  deriving DecidableEq, Repr, Inhabited

structure Settings where
  theme : ThemeSettings := {}
  age : AgeSettings := {}
  deriving DecidableEq, Repr, Inhabited

inductive SettingsError where
  | unreadable (path : String) (fault : FileFault)
  | invalid (error : Json.Error)
  deriving DecidableEq, Repr

def SettingsError.cause : SettingsError → String
  | .unreadable _ fault => fault.message
  | .invalid error => error.message

def SettingsError.message : SettingsError → String
  | .unreadable path fault => "failed to read config " ++ path ++ ": " ++ fault.message
  | .invalid error => "invalid config: " ++ error.message

namespace ThemeSettings

def fields : List (Json.Field ThemeSettings) :=
  [.of "storage_key" .text fun value settings => { settings with storageKey := value },
   .of "attribute" .text fun value settings => { settings with rootAttribute := value },
   .of "toggle_id" .text fun value settings => { settings with toggleId := value }]

def reader : Json.Reader ThemeSettings :=
  .record "struct ThemeSettings" fields {}

def toJson (settings : ThemeSettings) : List Char :=
  Json.object
    [("storage_key", Json.text settings.storageKey), ("attribute", Json.text settings.rootAttribute),
     ("toggle_id", Json.text settings.toggleId)]

end ThemeSettings

namespace AgeSettings

def fields : List (Json.Field AgeSettings) :=
  [.of "timestamp_attribute" .text fun value settings => { settings with timestampAttribute := value }]

def reader : Json.Reader AgeSettings :=
  .record "struct AgeSettings" fields {}

def toJson (settings : AgeSettings) : List Char :=
  Json.object [("timestamp_attribute", Json.text settings.timestampAttribute)]

end AgeSettings

namespace Settings

def fields : List (Json.Field Settings) :=
  [.of "theme" ThemeSettings.reader fun value settings => { settings with theme := value },
   .of "age" AgeSettings.reader fun value settings => { settings with age := value }]

def toJson (settings : Settings) : List Char :=
  Json.object [("theme", settings.theme.toJson), ("age", settings.age.toJson)]

def ofJson (source : String) : Except SettingsError Settings :=
  (Json.readAll (Json.readRecord "struct Config" fields {}) source).mapError .invalid

def load (files : FileTree) (path : String) : Except SettingsError Settings :=
  match files.readText (.ofString path) with
  | .error fault => .error (.unreadable path fault)
  | .ok source => ofJson source

end Settings

end PageUpkeep
