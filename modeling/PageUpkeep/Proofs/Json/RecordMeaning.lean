import PageUpkeep.Proofs.Json.Skipping

/-! What readers of known shapes make of a value, told over the value and not over its text.

A reader means something if it makes the same of every form of a value, takes exactly that form, and takes
nothing that is not a value. Texts mean what they tell. A record means its members put on it one after the
other; a list stands for the members with the names of the fields.
-/

set_option autoImplicit false

namespace PageUpkeep.Json

variable {α β : Type}

/-- The reader makes `meaning` of every form of a value, whatever stands behind it. -/
structure Reader.Means (reader : Reader β) (meaning : Value → Option β) : Prop where
  takes : ∀ {value : Value} {before source : List Char} (rest : List Char), Spaces before →
    Form (.value value) source →
      (reader.run (before ++ (source ++ rest))).toOption = (meaning value).map fun result => (result, rest)
  only : ∀ {s rest : List Char} {result : β}, reader.run s = .ok (result, rest) → ValueTaken s rest

theorem toOption_map (read : Except Fault α) (f : α → β) :
    (read.map f).toOption = read.toOption.map f := by
  cases read <;> rfl

theorem toOption_bind (read : Except Fault α) (f : α → Except Fault β) :
    (read.bind f).toOption = read.toOption.bind fun a => (f a).toOption := by
  cases read <;> rfl

def Value.text? : Value → Option String
  | .text text? => text?
  | _ => none

theorem readString_of_other {before s : List Char} {c : Char} (spaces : Spaces before)
    (token : isSpace c = false) (other : c ≠ '"') :
    (readString (before ++ c :: s)).toOption = none := by
  rw [readString, dropSpaces_append spaces, dropSpaces_cons token]
  split
  · rename_i quote
    exact absurd (List.cons.inj quote).1 other
  · rfl

theorem means_text : Reader.text.Means Value.text? where
  takes := by
    intro value before source rest spaces form
    have other : value.begins '"' = false → value.text? = none →
        (readString (before ++ (source ++ rest))).toOption =
          (value.text?).map fun result => (result, rest) := by
      intro notText nothing
      obtain ⟨c, more, rfl, begins⟩ := begins_of_form form
      have notQuote : c ≠ '"' := by
        rintro rfl
        exact Bool.eq_false_iff.mp notText begins
      rw [nothing, List.cons_append]
      exact readString_of_other spaces (token_of_begins begins).1 notQuote
    cases form with
    | null | yes | no | number | list | object => exact other rfl rfl
    | text form =>
      cases form with
      | told form =>
        exact congrArg Except.toOption (readString_of_form spaces form rest)
      | @untold inner form nothing =>
        obtain ⟨fault, failed⟩ := readText_of_untold form nothing rest
        show (readString _).toOption = none
        rw [readString, dropSpaces_append spaces, List.cons_append, @dropSpaces_cons '"' rfl]
        simp [failed, Except.map, Except.toOption]
  only := by
    intro s rest text read
    obtain ⟨before, form, spaces, written, rfl⟩ := form_of_readString read
    exact .taken spaces (.text (.told written))

structure Slot (α : Type) where
  field : Field α
  change : Value → Option (α → α)
  means : field.read.Means change

def Slot.name (slot : Slot α) : String :=
  slot.field.name

theorem Reader.Means.put {reader : Reader β} {meaning : Value → Option β} (means : reader.Means meaning)
    (name : String) (put : β → α → α) :
    (Field.of name reader put).read.Means fun value => (meaning value).map put where
  takes := by
    intro value before source rest spaces form
    show ((reader.run _).map _).toOption = _
    rw [toOption_map, means.takes rest spaces form, Option.map_map, Option.map_map]
    rfl
  only := by
    intro s rest change read
    obtain ⟨⟨result, after⟩, taken, same⟩ := map_eq_ok read
    cases same
    exact means.only taken

def Slot.of (name : String) {reader : Reader β} {meaning : Value → Option β} (means : reader.Means meaning)
    (put : β → α → α) : Slot α :=
  ⟨.of name reader put, fun value => (meaning value).map put, means.put name put⟩

/-- One more member: a field may be given once, and other members are passed over. The state holds the
record and the fields given so far. -/
def takeMember (slots : List (Slot α)) (state : α × List String) :
    Option String × Value → Option (α × List String)
  | (none, _) => none
  | (some key, value) =>
    match slots.find? fun slot => slot.name == key with
    | none => some state
    | some slot =>
      if key ∈ state.2 then none
      else (slot.change value).map fun change => (change state.1, key :: state.2)

def takeMembers (slots : List (Slot α)) (state : α × List String) :
    List (Option String × Value) → Option (α × List String)
  | [] => some state
  | member :: members => (takeMember slots state member).bind fun after => takeMembers slots after members

def takeItems : List (Slot α) → α → List Value → Option α
  | _, record, [] => some record
  | [], _, _ :: _ => none
  | slot :: slots, record, item :: items =>
    (slot.change item).bind fun change => takeItems slots (change record) items

def Value.record (slots : List (Slot α)) (start : α) : Value → Option α
  | .list items => takeItems slots start items
  | .object members => (takeMembers slots (start, []) members).map Prod.fst
  | _ => none

end PageUpkeep.Json
