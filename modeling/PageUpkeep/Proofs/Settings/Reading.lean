import PageUpkeep.Proofs.Json.Gathering
import PageUpkeep.Proofs.Json.RecordReading
import PageUpkeep.Settings

/-! Reading settings from a text makes what the value in the text means.

The fields of the settings and of both their parts are told by what each of them makes of a value.
-/

set_option autoImplicit false

namespace PageUpkeep

open Json (Slot Value)

namespace ThemeSettings

def slots : List (Slot ThemeSettings) :=
  [.of "storage_key" Json.means_text fun value settings => { settings with storageKey := value },
   .of "attribute" Json.means_text fun value settings => { settings with rootAttribute := value },
   .of "toggle_id" Json.means_text fun value settings => { settings with toggleId := value }]

def names : List String :=
  ["storage_key", "attribute", "toggle_id"]

theorem names_slots : slots.map Slot.name = names := rfl

theorem names_distinct : (slots.map Slot.name).Nodup := by
  rw [names_slots]
  decide

theorem means_reader : reader.Means (Value.record slots {}) :=
  Json.means_record "struct ThemeSettings" slots {}

end ThemeSettings

namespace AgeSettings

def slots : List (Slot AgeSettings) :=
  [.of "timestamp_attribute" Json.means_text fun value settings =>
    { settings with timestampAttribute := value }]

def names : List String :=
  ["timestamp_attribute"]

theorem names_slots : slots.map Slot.name = names := rfl

theorem names_distinct : (slots.map Slot.name).Nodup := by
  rw [names_slots]
  decide

theorem means_reader : reader.Means (Value.record slots {}) :=
  Json.means_record "struct AgeSettings" slots {}

end AgeSettings

namespace Settings

def slots : List (Slot Settings) :=
  [.of "theme" ThemeSettings.means_reader fun value settings => { settings with theme := value },
   .of "age" AgeSettings.means_reader fun value settings => { settings with age := value }]

def names : List String :=
  ["theme", "age"]

theorem names_slots : slots.map Slot.name = names := rfl

theorem names_distinct : (slots.map Slot.name).Nodup := by
  rw [names_slots]
  decide

def reader : Json.Reader Settings :=
  .record "struct Config" fields {}

theorem means_reader : reader.Means (Value.record slots {}) :=
  Json.means_record "struct Config" slots {}

theorem toOption_mapError {ε δ α : Type} (read : Except ε α) (f : ε → δ) :
    (read.mapError f).toOption = read.toOption := by
  cases read <;> rfl

theorem toOption_ofJson {value : Value} {source : String} (document : Json.IsDocument value source) :
    (ofJson source).toOption = value.record slots {} :=
  (toOption_mapError _ _).trans (Json.toOption_readAll means_reader document)

theorem ofJson_eq_ok_iff {value : Value} {source : String} (document : Json.IsDocument value source)
    (settings : Settings) : ofJson source = .ok settings ↔ value.record slots {} = some settings := by
  rw [← toOption_ofJson document]
  cases ofJson source with
  | error error => exact iff_of_false nofun nofun
  | ok result => simp [Except.toOption]

theorem exists_invalid {source : String} (refused : ∀ settings, ofJson source ≠ .ok settings) :
    ∃ error, ofJson source = .error (.invalid error) := by
  cases whole : Json.readAll reader.run source with
  | error error => exact ⟨error, congrArg (Except.mapError _) whole⟩
  | ok result => exact absurd (congrArg (Except.mapError _) whole) (refused result)

theorem exists_document {source : String} {settings : Settings} (read : ofJson source = .ok settings) :
    ∃ value, Json.IsDocument value source := by
  cases whole : Json.readAll reader.run source with
  | error error =>
    have failed : ofJson source = .error (.invalid error) := congrArg (Except.mapError _) whole
    rw [failed] at read
    cases read
  | ok result => exact Json.exists_document means_reader whole

end Settings

end PageUpkeep
