import PageUpkeep.Proofs.Settings.Reading

/-! Settings that are written are read back as they were, whatever their texts hold.

What is written is a document of the value that has every field, and this value means the settings. So the
text tells the settings apart from all others.
-/

set_option autoImplicit false

namespace PageUpkeep

open Json (Form Value)

def ThemeSettings.toValue (settings : ThemeSettings) : Value :=
  .object
    [(some "storage_key", .text (some settings.storageKey)),
     (some "attribute", .text (some settings.rootAttribute)),
     (some "toggle_id", .text (some settings.toggleId))]

def AgeSettings.toValue (settings : AgeSettings) : Value :=
  .object [(some "timestamp_attribute", .text (some settings.timestampAttribute))]

def Settings.toValue (settings : Settings) : Value :=
  .object [(some "theme", settings.theme.toValue), (some "age", settings.age.toValue)]

theorem ThemeSettings.form_toJson (settings : ThemeSettings) :
    Form (.value settings.toValue) settings.toJson :=
  Json.form_object (.ofText "storage_key" settings.storageKey)
    [.ofText "attribute" settings.rootAttribute, .ofText "toggle_id" settings.toggleId]

theorem AgeSettings.form_toJson (settings : AgeSettings) :
    Form (.value settings.toValue) settings.toJson :=
  Json.form_object (.ofText "timestamp_attribute" settings.timestampAttribute) []

namespace Settings

theorem form_toJson (settings : Settings) : Form (.value settings.toValue) settings.toJson :=
  Json.form_object ⟨"theme", _, _, settings.theme.form_toJson⟩ [⟨"age", _, _, settings.age.form_toJson⟩]

theorem isDocument_toJson (settings : Settings) :
    Json.IsDocument settings.toValue (String.ofList settings.toJson) := by
  rw [Json.IsDocument, String.toList_ofList]
  exact settings.form_toJson.bare

theorem record_toValue (settings : Settings) : settings.toValue.record slots {} = some settings :=
  rfl

theorem ofJson_of_toJson (settings : Settings) : ofJson (String.ofList settings.toJson) = .ok settings :=
  (ofJson_eq_ok_iff settings.isDocument_toJson settings).mpr settings.record_toValue

/-- Settings are read back from their text, so no others have the same text. -/
theorem read_back_what_is_written (settings : Settings) :
    ofJson (String.ofList settings.toJson) = .ok settings ∧
      ∀ other : Settings, other.toJson = settings.toJson ↔ other = settings := by
  refine ⟨settings.ofJson_of_toJson, fun other => ⟨fun same => ?_, congrArg toJson⟩⟩
  have read := other.ofJson_of_toJson
  rw [same, settings.ofJson_of_toJson] at read
  exact (Except.ok.inj read).symm

end Settings

end PageUpkeep
