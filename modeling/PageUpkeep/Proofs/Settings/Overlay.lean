import PageUpkeep.Proofs.Settings.Reading

/-! A source of settings overlays the defaults.

Which values give settings, and which settings they give, is told by their members alone. Lists stand for
objects, members that no field has are passed over, and a field that is given twice leaves no settings.
-/

set_option autoImplicit false

namespace PageUpkeep

open Json (Form HeadForm IsDocument Slot Value)

def Json.Value.IsText (value : Value) : Prop :=
  ∃ text, value = .text (some text)

def ThemeSettings.demands : List (String × (Value → Prop)) :=
  names.map fun name => (name, Value.IsText)

def AgeSettings.demands : List (String × (Value → Prop)) :=
  names.map fun name => (name, Value.IsText)

def Settings.demands : List (String × (Value → Prop)) :=
  [("theme", Value.Gives ThemeSettings.demands), ("age", Value.Gives AgeSettings.demands)]

theorem isSome_text?_iff (value : Value) : value.text?.isSome ↔ value.IsText := by
  constructor
  · intro told
    obtain ⟨text, same⟩ := Option.isSome_iff_exists.mp told
    cases value with
    | text text? => exact ⟨text, congrArg _ same⟩
    | _ => cases same
  · rintro ⟨text, rfl⟩
    rfl

theorem demand_of {α β : Type} (name : String) {reader : Json.Reader β} {meaning : Value → Option β}
    (means : reader.Means meaning) (put : β → α → α) {asked : Value → Prop}
    (accepts : ∀ value, (meaning value).isSome ↔ asked value) :
    (Slot.of name means put).demand = (name, asked) := by
  refine congrArg (Prod.mk name) (funext fun value => propext ?_)
  exact Option.isSome_map.symm ▸ accepts value

theorem ThemeSettings.demands_slots : slots.map Slot.demand = demands := by
  simp only [slots, List.map_cons, List.map_nil, demand_of _ _ _ isSome_text?_iff]
  rfl

theorem AgeSettings.demands_slots : slots.map Slot.demand = demands := by
  simp only [slots, List.map_cons, List.map_nil, demand_of _ _ _ isSome_text?_iff]
  rfl

theorem ThemeSettings.isSome_record_iff (value : Value) :
    (value.record slots {}).isSome ↔ value.Gives demands := by
  rw [Json.isSome_record_iff names_distinct, demands_slots]

theorem AgeSettings.isSome_record_iff (value : Value) :
    (value.record slots {}).isSome ↔ value.Gives demands := by
  rw [Json.isSome_record_iff names_distinct, demands_slots]

theorem Settings.isSome_record_iff (value : Value) :
    (value.record slots {}).isSome ↔ value.Gives demands := by
  rw [Json.isSome_record_iff names_distinct]
  simp only [slots, List.map_cons, List.map_nil, demand_of _ _ _ ThemeSettings.isSome_record_iff,
    demand_of _ _ _ AgeSettings.isSome_record_iff]
  rfl

def Settings.identifier? (part : String) (names : List String) (name : String) (value : Value) :
    Option String :=
  ((value.field? Settings.names part).bind (Value.field? names name)).bind Value.text?

/-- The defaults, but for what the value gives. -/
def Settings.overlay (value : Value) : Settings :=
  let theme := fun name => identifier? "theme" ThemeSettings.names name value
  let age := fun name => identifier? "age" AgeSettings.names name value
  let defaults : Settings := {}
  { theme :=
      { storageKey := (theme "storage_key").getD defaults.theme.storageKey
        rootAttribute := (theme "attribute").getD defaults.theme.rootAttribute
        toggleId := (theme "toggle_id").getD defaults.theme.toggleId }
    age :=
      { timestampAttribute := (age "timestamp_attribute").getD defaults.age.timestampAttribute } }

namespace ThemeSettings

theorem sets_storageKey : Json.Sets slots "storage_key" storageKey Value.text? :=
  .here (Slot.sets_of _ fun _ _ => rfl) (List.forall_mem_cons.mpr
    ⟨Slot.keeps_of _ (by decide) fun _ _ => rfl, List.forall_mem_cons.mpr
      ⟨Slot.keeps_of _ (by decide) fun _ _ => rfl, nofun⟩⟩)

theorem sets_rootAttribute : Json.Sets slots "attribute" rootAttribute Value.text? :=
  .there (Slot.keeps_of _ (by decide) fun _ _ => rfl) (.here (Slot.sets_of _ fun _ _ => rfl)
    (List.forall_mem_cons.mpr ⟨Slot.keeps_of _ (by decide) fun _ _ => rfl, nofun⟩))

theorem sets_toggleId : Json.Sets slots "toggle_id" toggleId Value.text? :=
  .there (Slot.keeps_of _ (by decide) fun _ _ => rfl) (.there (Slot.keeps_of _ (by decide) fun _ _ => rfl)
    (.here (Slot.sets_of _ fun _ _ => rfl) nofun))

theorem getD_record {given : Option Value} (accepted : ∀ value ∈ given, value.Gives demands) :
    (given.bind (Value.record slots {})).getD {} =
      { storageKey := ((given.bind (Value.field? names "storage_key")).bind Value.text?).getD
          ({} : ThemeSettings).storageKey
        rootAttribute := ((given.bind (Value.field? names "attribute")).bind Value.text?).getD
          ({} : ThemeSettings).rootAttribute
        toggleId := ((given.bind (Value.field? names "toggle_id")).bind Value.text?).getD
          ({} : ThemeSettings).toggleId } := by
  cases given with
  | none => rfl
  | some value =>
    have made := (isSome_record_iff value).mpr (accepted value rfl)
    obtain ⟨settings, made⟩ := Option.isSome_iff_exists.mp made
    simp only [Option.bind_some, made, Option.getD_some]
    rw [← names_slots, ← Json.view_record names_distinct sets_storageKey made,
      ← Json.view_record names_distinct sets_rootAttribute made,
      ← Json.view_record names_distinct sets_toggleId made]

end ThemeSettings

namespace AgeSettings

theorem sets_timestampAttribute :
    Json.Sets slots "timestamp_attribute" timestampAttribute Value.text? :=
  .here (Slot.sets_of _ fun _ _ => rfl) nofun

theorem getD_record {given : Option Value} (accepted : ∀ value ∈ given, value.Gives demands) :
    (given.bind (Value.record slots {})).getD {} =
      { timestampAttribute :=
          ((given.bind (Value.field? names "timestamp_attribute")).bind Value.text?).getD
            ({} : AgeSettings).timestampAttribute } := by
  cases given with
  | none => rfl
  | some value =>
    have made := (isSome_record_iff value).mpr (accepted value rfl)
    obtain ⟨settings, made⟩ := Option.isSome_iff_exists.mp made
    simp only [Option.bind_some, made, Option.getD_some]
    rw [← names_slots, ← Json.view_record names_distinct sets_timestampAttribute made]

end AgeSettings

namespace Settings

theorem sets_theme : Json.Sets slots "theme" theme (Value.record ThemeSettings.slots {}) :=
  .here (Slot.sets_of _ fun _ _ => rfl) (List.forall_mem_cons.mpr
    ⟨Slot.keeps_of _ (by decide) fun _ _ => rfl, nofun⟩)

theorem sets_age : Json.Sets slots "age" age (Value.record AgeSettings.slots {}) :=
  .there (Slot.keeps_of _ (by decide) fun _ _ => rfl) (.here (Slot.sets_of _ fun _ _ => rfl) nofun)

theorem record_of_gives {value : Value} (gives : value.Gives demands) :
    value.record slots {} = some (overlay value) := by
  obtain ⟨settings, made⟩ := Option.isSome_iff_exists.mp ((isSome_record_iff value).mpr gives)
  have theme := Json.view_record names_distinct sets_theme made
  have age := Json.view_record names_distinct sets_age made
  rw [names_slots, ThemeSettings.getD_record] at theme
  · rw [names_slots, AgeSettings.getD_record] at age
    · rw [made]
      exact congrArg some (congrArg₂ Settings.mk theme age)
    · exact fun given found => gives.field (List.mem_cons_of_mem _ List.mem_cons_self) found
  · exact fun given found => gives.field List.mem_cons_self found

theorem record_eq_some_iff (value : Value) (settings : Settings) :
    value.record slots {} = some settings ↔ value.Gives demands ∧ settings = overlay value := by
  constructor
  · intro made
    have gives : value.Gives demands := (isSome_record_iff value).mp (by rw [made]; rfl)
    rw [record_of_gives gives] at made
    exact ⟨gives, (Option.some.inj made).symm⟩
  · rintro ⟨gives, rfl⟩
    exact record_of_gives gives

/-! ## Lists, and fields given twice -/

def respellPart (key? : Option String) (part : Value) : Value :=
  if key? = some "theme" then part.spelledOut ThemeSettings.names
  else if key? = some "age" then part.spelledOut AgeSettings.names
  else part

/-- The settings and both their parts as objects, where lists stand for them. -/
def spelledOut (value : Value) : Value :=
  match value.spelledOut names with
  | .object members => .object (members.map fun member => (member.1, respellPart member.1 member.2))
  | other => other

/-- A known key is given twice, of the settings, or of one of their parts. -/
inductive RepeatsField (value : Value) : Prop where
  | settings (twice : value.Repeats names)
  | theme {part : Value} (holds : value.Holds names "theme" part) (twice : part.Repeats ThemeSettings.names)
  | age {part : Value} (holds : value.Holds names "age" part) (twice : part.Repeats AgeSettings.names)

theorem change_respellPart {slot : Slot Settings} (inside : slot ∈ slots) (part : Value) :
    slot.change (respellPart (some slot.name) part) = slot.change part := by
  rcases List.mem_cons.mp inside with rfl | inside
  · have same := Json.record_spelledOut ThemeSettings.names_distinct {} part
    exact congrArg (Option.map _) same
  · obtain rfl := List.mem_singleton.mp inside
    have same := Json.record_spelledOut AgeSettings.names_distinct {} part
    exact congrArg (Option.map _) same

theorem record_spelledOut (value : Value) :
    (spelledOut value).record slots {} = value.record slots {} := by
  rw [← Json.record_spelledOut names_distinct {} value, spelledOut, names_slots]
  split
  · rename_i members spelled
    rw [spelled]
    exact congrArg (Option.map _)
      (Json.takeMembers_map (fun _ inside part => change_respellPart inside part) members _)
  · rfl

theorem not_repeatsField_of_gives {value : Value} (gives : value.Gives demands) : ¬ RepeatsField value := by
  rintro (twice | ⟨holds, twice⟩ | ⟨holds, twice⟩)
  · exact gives.not_repeats twice
  · exact (gives.held List.mem_cons_self holds).not_repeats twice
  · exact (gives.held (List.mem_cons_of_mem _ List.mem_cons_self) holds).not_repeats twice

theorem ofJson_eq_ok_overlay_iff {value : Value} {source : String} (document : IsDocument value source)
    (settings : Settings) :
    ofJson source = .ok settings ↔ value.Gives demands ∧ settings = overlay value :=
  (ofJson_eq_ok_iff document settings).trans (record_eq_some_iff value settings)

/-- A source is read just if it is a document that gives settings, and then those are the defaults but for
what it gives. Written with lists or spelled out, it gives the same; with a known key twice, it is refused. -/
theorem source_overlays_defaults (source : String) :
    (∀ value, IsDocument value source → value.Gives demands → ofJson source = .ok (overlay value)) ∧
    (∀ value other text, IsDocument value source → IsDocument other text →
      spelledOut value = spelledOut other → (ofJson source).toOption = (ofJson text).toOption) ∧
    (∀ value, IsDocument value source → RepeatsField value →
      ∃ error, ofJson source = .error (.invalid error)) ∧
    (∀ settings, ofJson source = .ok settings →
      ∃ value, IsDocument value source ∧ value.Gives demands ∧ ¬ RepeatsField value) := by
  refine ⟨?_, ?_, ?_, ?_⟩
  · intro value document gives
    exact (ofJson_eq_ok_overlay_iff document _).mpr ⟨gives, rfl⟩
  · intro value other text document otherDocument same
    rw [toOption_ofJson document, toOption_ofJson otherDocument, ← record_spelledOut value, same,
      record_spelledOut]
  · intro value document twice
    refine exists_invalid fun settings read => ?_
    exact not_repeatsField_of_gives ((ofJson_eq_ok_overlay_iff document settings).mp read).1 twice
  · intro settings read
    obtain ⟨value, document⟩ := exists_document read
    have gives := ((ofJson_eq_ok_overlay_iff document settings).mp read).1
    exact ⟨value, document, gives, not_repeatsField_of_gives gives⟩

/-- No field has a key that tells no text, half of a pair of surrogates; and yet it is not passed over. -/
theorem member_refused_with_lone_surrogate :
    let source := "\x7b\"\\ud800\":1\x7d"
    IsDocument (.object [(none, .number ['1'])]) source ∧ ∃ error, ofJson source = .error (.invalid error) := by
  intro source
  have half : Json.InnerForm ['\\', 'u', 'd', '8', '0', '0'] :=
    .number (@Json.HexForm.digits 'd' '8' '0' '0' 13 8 0 0 rfl rfl rfl rfl) .nil
  have untold : ∀ text, ¬ Json.TextForm text ['\\', 'u', 'd', '8', '0', '0'] := by
    intro text form
    have read : Json.readText ['\\', 'u', 'd', '8', '0', '0', '"'] = .ok (text, []) :=
      Json.readText_of_form form []
    have failed : (Json.readText ['\\', 'u', 'd', '8', '0', '0', '"']).toOption = none := by decide +kernel
    rw [read] at failed
    cases failed
  have head : HeadForm none ['"', '\\', 'u', 'd', '8', '0', '0', '"', ':'] :=
    @HeadForm.head none [] _ [] .nil (.untold half untold) .nil
  have one : Json.NumberForm ['1'] :=
    @Json.NumberForm.number [] ['1'] [] [] (.inl rfl) (.digits (by decide) (.digits rfl nofun)) .none .none
  have document : IsDocument (.object [(none, .number ['1'])]) source := by
    have characters : source.toList = _ := String.toList_ofList
    unfold IsDocument
    rw [characters]
    exact (Form.object (.lastMember head (Form.number one).bare)).bare
  refine ⟨document, exists_invalid fun settings read => ?_⟩
  obtain ⟨⟨members, told, fit⟩, _⟩ := (ofJson_eq_ok_overlay_iff document settings).mp read
  cases told
  exact fit.told _ List.mem_cons_self rfl

/-- A member to be passed over, with a list and an object in it, and a theme, whose key is written with an
escape. -/
def escapedKey (theme : Value) : Value :=
  .object [(some "x", .list [.number ['1'], .object []]), (some "theme", theme)]

def escapedKeySource (theme : List Char) : String :=
  .ofList ("\x7b\"x\":[1, \x7b\x7d],\"them\\u0065\":".toList ++ (theme ++ ['\x7d']))

theorem headForm_escaped :
    HeadForm (some "theme") ['"', 't', 'h', 'e', 'm', '\\', 'u', '0', '0', '6', '5', '"', ':'] := by
  have escape : Json.CharForm 'e' ['\\', 'u', '0', '0', '6', '5'] :=
    .number (@Json.HexForm.digits '0' '0' '6' '5' 0 0 6 5 rfl rfl rfl rfl)
  have plain := Json.charForm_quoteChar
  have key := Json.TextForm.cons (plain 't') (.cons (plain 'h') (.cons (plain 'e') (.cons (plain 'm')
    (.cons escape .nil))))
  exact @HeadForm.head (some "theme") [] _ [] .nil (.told (@Json.StringForm.quotes "theme" _ key)) .nil

theorem isDocument_escapedKey {theme : Value} {written : List Char} (form : Form (.value theme) written) :
    IsDocument (escapedKey theme) (escapedKeySource written) := by
  have one : Json.NumberForm ['1'] :=
    @Json.NumberForm.number [] ['1'] [] [] (.inl rfl) (.digits (by decide) (.digits rfl nofun)) .none .none
  have empty : Form (.spaced (.object [])) [' ', '\x7b', '\x7d'] :=
    @Form.spaced _ [' '] _ [] (by decide) (.object (.noMembers .nil)) .nil
  have items := Form.list (.item (Form.number one).bare (.lastItem empty))
  have members := Form.member (Json.headForm_text "x") items.bare (.lastMember headForm_escaped form.bare)
  unfold IsDocument escapedKeySource
  rw [String.toList_ofList]
  exact (Form.object members).bare

theorem source_overlays_defaults_of_escaped_key :
    ofJson (escapedKeySource "\x7b\"storage_key\":\"k\"\x7d".toList) = .ok { theme := { storageKey := "k" } } ∧
      (ofJson (escapedKeySource "\x7b\"storage_key\":\"k\"\x7d".toList)).toOption =
        (ofJson (escapedKeySource "[\"k\"]".toList)).toOption ∧
      (∃ error, ofJson (escapedKeySource "\x7b\"storage_key\":\"k\",\"storage_key\":\"\"\x7d".toList) =
        .error (.invalid error)) ∧
      ∃ value, IsDocument value (escapedKeySource "[\"k\"]".toList) ∧ value.Gives demands ∧
        ¬ RepeatsField value := by
  have once := isDocument_escapedKey (Json.form_object (.ofText "storage_key" "k") [])
  have listed := isDocument_escapedKey (.list (.lastItem (Json.form_text "k").bare))
  have twice := isDocument_escapedKey
    (Json.form_object (.ofText "storage_key" "k") [.ofText "storage_key" ""])
  refine ⟨?_, ?_, ?_, ?_⟩
  · exact (source_overlays_defaults _).1 _ once ((isSome_record_iff _).mp rfl)
  · exact (source_overlays_defaults _).2.1 _ _ _ once listed rfl
  · exact (source_overlays_defaults _).2.2.1 _ twice
      (.theme ⟨_, rfl, List.mem_cons_of_mem _ List.mem_cons_self⟩
        ⟨_, rfl, "storage_key", List.mem_cons_self, by decide⟩)
  · have read := (source_overlays_defaults _).1 _ listed ((isSome_record_iff _).mp rfl)
    exact (source_overlays_defaults _).2.2.2 _ read

end Settings

end PageUpkeep
