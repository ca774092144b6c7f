import Mathlib.Data.List.Nodup
import PageUpkeep.Proofs.Json.RecordMeaning

/-! When a value gives a record, and which record.

Members give a record if each has a key that tells something, no field is given twice, and what is given fits.
A part of the record that only one field sets is then what this field gives, and otherwise what it was.
-/

set_option autoImplicit false

namespace PageUpkeep.Json

variable {α β : Type}

/-- Items under the names of the fields, in order; an item beyond the last field stands under no name. -/
def named : List String → List Value → List (Option String × Value)
  | _, [] => []
  | [], item :: items => (none, item) :: named [] items
  | name :: names, item :: items => (some name, item) :: named names items

/-- The members of a record with the given fields: those of an object, or the items of a list. -/
def Value.members? (names : List String) : Value → Option (List (Option String × Value))
  | .object members => some members
  | .list items => some (named names items)
  | _ => none

def Value.field? (names : List String) (name : String) (value : Value) : Option Value :=
  (value.members? names).bind fun members =>
    (members.find? fun member => member.1 == some name).map Prod.snd

/-- A list as the object that it stands for. -/
def Value.spelledOut (names : List String) : Value → Value
  | .list items => .object (named names items)
  | value => value

theorem find?_name {slots : List (Slot α)} (distinct : (slots.map Slot.name).Nodup) {slot : Slot α}
    (member : slot ∈ slots) : (slots.find? fun other => other.name == slot.name) = some slot := by
  cases found : slots.find? fun other => other.name == slot.name with
  | none => exact absurd (beq_self_eq_true slot.name) (List.find?_eq_none.mp found slot member)
  | some other =>
    have same : other.name = slot.name := by simpa using List.find?_some found
    rw [List.inj_on_of_nodup_map distinct (List.mem_of_find?_eq_some found) member same]

theorem takeItems_eq {slots : List (Slot α)} (distinct : (slots.map Slot.name).Nodup)
    (items : List Value) {left : List (Slot α)} (seen : List String) (record : α) (rest : left ⊆ slots)
    (apart : (left.map Slot.name).Nodup) (fresh : ∀ slot ∈ left, slot.name ∉ seen) :
    takeItems left record items =
      (takeMembers slots (record, seen) (named (left.map Slot.name) items)).map Prod.fst := by
  -- Induction on the items; the fields taken so far are those that the other members have given.
  induction items generalizing left seen record with
  | nil => cases left <;> rfl
  | cons item items ih =>
    cases left with
    | nil => rfl
    | cons slot left =>
      obtain ⟨inside, rest⟩ := List.cons_subset.mp rest
      obtain ⟨unique, apart⟩ := List.nodup_cons.mp apart
      obtain ⟨new, fresh⟩ := List.forall_mem_cons.mp fresh
      simp only [takeItems, List.map_cons, named, takeMembers, takeMember, find?_name distinct inside,
        if_neg new, Option.map_bind, Option.bind_map]
      refine congrArg _ (funext fun change => ih (slot.name :: seen) (change record) rest apart ?_)
      intro other member
      refine List.not_mem_cons_of_ne_of_not_mem ?_ (fresh other member)
      intro same
      exact unique (same ▸ List.mem_map_of_mem member)

theorem record_eq {slots : List (Slot α)} (distinct : (slots.map Slot.name).Nodup) (start : α)
    (value : Value) :
    value.record slots start = (value.members? (slots.map Slot.name)).bind fun members =>
      (takeMembers slots (start, []) members).map Prod.fst := by
  cases value with
  | list items =>
    exact takeItems_eq distinct items [] start (List.Subset.refl _) distinct fun _ _ => List.not_mem_nil
  | object | null | boolean | number | text => rfl

theorem members?_spelledOut (names : List String) (value : Value) :
    (value.spelledOut names).members? names = value.members? names := by
  cases value <;> rfl

/-- Members with keys that tell something, a known one once at most and with a value that its field takes;
there may be others, repeated or not, with any values. -/
structure MembersFit (fields : List (String × (Value → Prop)))
    (members : List (Option String × Value)) : Prop where
  told : ∀ member ∈ members, member.1 ≠ none
  once : ∀ field ∈ fields, (members.map Prod.fst).count (some field.1) ≤ 1
  fits : ∀ field ∈ fields, ∀ value, (some field.1, value) ∈ members → field.2 value

/-- The value is an object or a list that gives fields of a record and nothing against it. -/
def Value.Gives (fields : List (String × (Value → Prop))) (value : Value) : Prop :=
  ∃ members, value.members? (fields.map Prod.fst) = some members ∧ MembersFit fields members

def Slot.demand (slot : Slot α) : String × (Value → Prop) :=
  (slot.name, fun value => (slot.change value).isSome)

section Fit

variable {fields : List (String × (Value → Prop))} {key : String} {value : Value}
  {members : List (Option String × Value)}

theorem membersFit_cons_iff :
    MembersFit fields ((some key, value) :: members) ↔ MembersFit fields members ∧
      ∀ field ∈ fields, field.1 = key → field.2 value ∧ some key ∉ members.map Prod.fst := by
  constructor
  · intro ⟨told, once, fits⟩
    refine ⟨⟨?_, ?_, ?_⟩, ?_⟩
    · exact (List.forall_mem_cons.mp told).2
    · intro field asked
      exact Nat.le_trans (List.Sublist.count_le _ (List.sublist_cons_self _ _)) (once field asked)
    · exact fun field asked given member => fits field asked given (List.mem_cons_of_mem _ member)
    · rintro field asked rfl
      refine ⟨fits field asked value List.mem_cons_self, ?_⟩
      have atMost := once field asked
      rw [List.map_cons, List.count_cons_self] at atMost
      exact List.count_eq_zero.mp (by omega)
  · intro ⟨⟨told, once, fits⟩, known⟩
    refine ⟨?_, ?_, ?_⟩
    · exact List.forall_mem_cons.mpr ⟨Option.some_ne_none key, told⟩
    · intro field asked
      rw [List.map_cons]
      by_cases same : field.1 = key
      · have last := List.count_eq_zero.mpr (known field asked same).2
        rw [same, List.count_cons_self]
        omega
      · rw [List.count_cons_of_ne (by simpa using Ne.symm same)]
        exact once field asked
    · intro field asked given member
      rcases List.mem_cons.mp member with same | member
      · cases same
        exact (known field asked rfl).1
      · exact fits field asked given member

end Fit

variable {slots : List (Slot α)}

def FitsAfter (slots : List (Slot α)) (seen : List String) (members : List (Option String × Value)) : Prop :=
  MembersFit (slots.map Slot.demand) members ∧
    ∀ slot ∈ slots, slot.name ∈ seen → some slot.name ∉ members.map Prod.fst

section FitsAfter

variable {seen : List String} {key : String} {value : Value} {members : List (Option String × Value)}

theorem fitsAfter_nil (slots : List (Slot α)) (seen : List String) : FitsAfter slots seen [] :=
  ⟨⟨nofun, fun _ _ => Nat.zero_le _, nofun⟩, fun _ _ _ => List.not_mem_nil⟩

theorem fitsAfter_unknown_iff (unknown : ∀ slot ∈ slots, slot.name ≠ key) :
    FitsAfter slots seen ((some key, value) :: members) ↔ FitsAfter slots seen members := by
  rw [FitsAfter, FitsAfter, membersFit_cons_iff, List.map_cons]
  constructor
  · rintro ⟨⟨fit, _⟩, new⟩
    exact ⟨fit, fun slot inside given => List.not_mem_of_not_mem_cons (new slot inside given)⟩
  · rintro ⟨fit, new⟩
    refine ⟨⟨fit, ?_⟩, fun slot inside given => ?_⟩
    · intro field asked same
      obtain ⟨slot, inside, rfl⟩ := List.mem_map.mp asked
      exact absurd same (unknown slot inside)
    · refine List.not_mem_cons_of_ne_of_not_mem ?_ (new slot inside given)
      simpa using unknown slot inside

theorem fitsAfter_known_iff (distinct : (slots.map Slot.name).Nodup) {slot : Slot α} (inside : slot ∈ slots) :
    FitsAfter slots seen ((some slot.name, value) :: members) ↔
      slot.name ∉ seen ∧ (slot.change value).isSome ∧ FitsAfter slots (slot.name :: seen) members := by
  rw [FitsAfter, FitsAfter, membersFit_cons_iff, List.map_cons]
  constructor
  · rintro ⟨⟨fit, known⟩, new⟩
    obtain ⟨accepted, last⟩ := known slot.demand (List.mem_map_of_mem inside) rfl
    refine ⟨fun given => new slot inside given List.mem_cons_self, accepted, fit, fun other member given => ?_⟩
    rcases List.mem_cons.mp given with same | given
    · rw [same]
      exact last
    · exact List.not_mem_of_not_mem_cons (new other member given)
  · rintro ⟨first, accepted, fit, new⟩
    refine ⟨⟨fit, ?_⟩, fun other member given => ?_⟩
    · intro field asked same
      obtain ⟨other, member, rfl⟩ := List.mem_map.mp asked
      obtain rfl : other = slot := List.inj_on_of_nodup_map distinct member inside same
      exact ⟨accepted, new other member List.mem_cons_self⟩
    · refine List.not_mem_cons_of_ne_of_not_mem ?_ (new other member (List.mem_cons_of_mem _ given))
      intro same
      exact first (Option.some.inj same ▸ given)

end FitsAfter

theorem isSome_takeMembers_iff (distinct : (slots.map Slot.name).Nodup)
    (members : List (Option String × Value)) (state : α × List String) :
    (takeMembers slots state members).isSome ↔ FitsAfter slots state.2 members := by
  induction members generalizing state with
  | nil => exact iff_of_true rfl (fitsAfter_nil slots state.2)
  | cons member members ih =>
    obtain ⟨_ | key, value⟩ := member
    · exact iff_of_false nofun fun fit => fit.1.told _ List.mem_cons_self rfl
    · cases found : slots.find? fun slot => slot.name == key with
      | none =>
        rw [fitsAfter_unknown_iff (by simpa using found), ← ih state, takeMembers, takeMember, found]
        rfl
      | some slot =>
        have inside := List.mem_of_find?_eq_some found
        obtain rfl : slot.name = key := by simpa using List.find?_some found
        rw [fitsAfter_known_iff distinct inside, takeMembers, takeMember, found]
        by_cases given : slot.name ∈ state.2
        · simp [given]
        · cases accepted : slot.change value with
          | none => simp [given, accepted]
          | some change => simpa [given, accepted] using ih (change state.1, slot.name :: state.2)

/-- A value makes a record just if it gives one. -/
theorem isSome_record_iff (distinct : (slots.map Slot.name).Nodup) (start : α) (value : Value) :
    (value.record slots start).isSome ↔ value.Gives (slots.map Slot.demand) := by
  have names : (slots.map Slot.demand).map Prod.fst = slots.map Slot.name := by
    rw [List.map_map]
    rfl
  rw [record_eq distinct, Value.Gives, names]
  cases value.members? (slots.map Slot.name) with
  | none => simp
  | some members => simp [isSome_takeMembers_iff distinct, FitsAfter]

theorem Value.Gives.field {fields : List (String × (Value → Prop))} {value given : Value}
    (gives : value.Gives fields) {field : String × (Value → Prop)} (asked : field ∈ fields)
    (found : value.field? (fields.map Prod.fst) field.1 = some given) : field.2 given := by
  obtain ⟨members, told, fit⟩ := gives
  rw [Value.field?, told] at found
  obtain ⟨⟨key, _⟩, first, rfl⟩ := Option.map_eq_some_iff.mp found
  obtain rfl : key = some field.1 := by simpa using List.find?_some first
  exact fit.fits field asked _ (List.mem_of_find?_eq_some first)

/-! ## What is made of it -/

def Slot.Keeps (slot : Slot α) (name : String) (view : α → β) : Prop :=
  slot.name ≠ name ∧ ∀ value change, slot.change value = some change →
    ∀ record, view (change record) = view record

def Slot.Sets (slot : Slot α) (name : String) (view : α → β) (given : Value → Option β) : Prop :=
  slot.name = name ∧ ∀ value change, slot.change value = some change →
    ∀ record, given value = some (view (change record))

/-- One field, and it alone, sets a part of a record, to what is given for it. -/
structure Sets (slots : List (Slot α)) (name : String) (view : α → β) (given : Value → Option β) :
    Prop where
  known : ∃ slot ∈ slots, slot.name = name
  either : ∀ slot ∈ slots, slot.Sets name view given ∨ slot.Keeps name view

variable {name : String} {view : α → β} {given : Value → Option β}

theorem Slot.keeps_of {γ : Type} {reader : Reader γ} {meaning : Value → Option γ}
    (means : reader.Means meaning) {put : γ → α → α} {own : String} (other : own ≠ name)
    (same : ∀ result record, view (put result record) = view record) :
    (Slot.of own means put).Keeps name view := by
  refine ⟨other, fun value change changed record => ?_⟩
  obtain ⟨result, -, rfl⟩ := Option.map_eq_some_iff.mp changed
  exact same result record

theorem Slot.sets_of {reader : Reader β} {meaning : Value → Option β} (means : reader.Means meaning)
    {put : β → α → α} (gets : ∀ result record, view (put result record) = result) :
    (Slot.of name means put).Sets name view meaning := by
  refine ⟨rfl, fun value change changed record => ?_⟩
  obtain ⟨result, told, rfl⟩ := Option.map_eq_some_iff.mp changed
  rw [told, gets]

theorem Sets.here {slot : Slot α} {others : List (Slot α)} (sets : slot.Sets name view given)
    (keeps : ∀ other ∈ others, other.Keeps name view) : Sets (slot :: others) name view given where
  known := ⟨slot, List.mem_cons_self, sets.1⟩
  either := List.forall_mem_cons.mpr ⟨.inl sets, fun other member => .inr (keeps other member)⟩

theorem Sets.there {slot : Slot α} {others : List (Slot α)} (keeps : slot.Keeps name view)
    (sets : Sets others name view given) : Sets (slot :: others) name view given where
  known := by
    obtain ⟨other, member, same⟩ := sets.known
    exact ⟨other, List.mem_cons_of_mem _ member, same⟩
  either := List.forall_mem_cons.mpr ⟨.inr keeps, sets.either⟩

theorem takeMember_cases {state next : α × List String} {member : Option String × Value}
    (taken : takeMember slots state member = some next) :
    ∃ key, member.1 = some key ∧
      ((∀ slot ∈ slots, slot.name ≠ key) ∧ next = state ∨
        ∃ slot ∈ slots, slot.name = key ∧ ∃ change, slot.change member.2 = some change ∧
          next = (change state.1, key :: state.2)) := by
  obtain ⟨_ | key, value⟩ := member
  · cases taken
  · refine ⟨key, rfl, ?_⟩
    rw [takeMember] at taken
    split at taken
    · rename_i found
      cases taken
      exact .inl ⟨by simpa using found, rfl⟩
    · rename_i slot found
      split at taken
      · cases taken
      · obtain ⟨change, made, rfl⟩ := Option.map_eq_some_iff.mp taken
        exact .inr ⟨slot, List.mem_of_find?_eq_some found, by simpa using List.find?_some found, change,
          made, rfl⟩

theorem find?_cons_of_ne {key : Option String} (other : key ≠ some name) (value : Value)
    (members : List (Option String × Value)) :
    ((key, value) :: members).find? (fun member => member.1 == some name) =
      members.find? fun member => member.1 == some name :=
  List.find?_cons_of_neg (by simpa using other)

/-- What is set by a field is what is given for it, and otherwise what it was. -/
theorem view_takeMembers (distinct : (slots.map Slot.name).Nodup) (sets : Sets slots name view given)
    {members : List (Option String × Value)} {state last : α × List String}
    (taken : takeMembers slots state members = some last) :
    view last.1 =
      (((members.find? fun member => member.1 == some name).map Prod.snd).bind given).getD (view state.1) := by
  induction members generalizing state with
  | nil =>
    cases taken
    rfl
  | cons member members ih =>
    obtain ⟨next, first, others⟩ := Option.bind_eq_some_iff.mp taken
    have later := ih others
    obtain ⟨key?, value⟩ := member
    obtain ⟨key, rfl, change⟩ := takeMember_cases first
    by_cases same : key = name
    · subst same
      rcases change with ⟨unknown, -⟩ | ⟨slot, inside, named, change, made, rfl⟩
      · obtain ⟨slot, inside, named⟩ := sets.known
        exact absurd named (unknown slot inside)
      · have set : given value = some (view (change state.1)) := by
          rcases sets.either slot inside with sets | keeps
          · exact sets.2 value change made state.1
          · exact absurd named keeps.1
        -- The field has been given, so no later member gives it.
        have accepted : (takeMembers slots (change state.1, key :: state.2) members).isSome := by
          rw [others]
          rfl
        have once := ((isSome_takeMembers_iff distinct members _).mp accepted).2 slot inside
        rw [named] at once
        have absent : members.find? (fun member => member.1 == some key) = none := by
          refine List.find?_eq_none.mpr fun member within found => ?_
          exact once List.mem_cons_self (List.mem_map.mpr ⟨member, within, beq_iff_eq.mp found⟩)
        rw [absent] at later
        have found : ((some key, value) :: members).find? (fun member => member.1 == some key) =
            some (some key, value) := List.find?_cons_of_pos (by simp)
        rw [later, found, Option.map_some, Option.bind_some, set]
        rfl
    · rw [find?_cons_of_ne (by simpa using same), later]
      congr 1
      rcases change with ⟨-, rfl⟩ | ⟨slot, inside, named, change, made, rfl⟩
      · rfl
      · rcases sets.either slot inside with sets | keeps
        · exact absurd (named.symm.trans sets.1) same
        · exact keeps.2 value change made state.1

theorem view_record (distinct : (slots.map Slot.name).Nodup) (sets : Sets slots name view given)
    {start result : α} {value : Value} (made : value.record slots start = some result) :
    view result = ((value.field? (slots.map Slot.name) name).bind given).getD (view start) := by
  rw [record_eq distinct] at made
  obtain ⟨members, told, made⟩ := Option.bind_eq_some_iff.mp made
  obtain ⟨last, taken, rfl⟩ := Option.map_eq_some_iff.mp made
  rw [Value.field?, told]
  exact view_takeMembers distinct sets taken

/-- A field of the record stands twice among the members. -/
def Value.Repeats (names : List String) (value : Value) : Prop :=
  ∃ members, value.members? names = some members ∧
    ∃ name ∈ names, 2 ≤ (members.map Prod.fst).count (some name)

def Value.Holds (names : List String) (name : String) (value held : Value) : Prop :=
  ∃ members, value.members? names = some members ∧ (some name, held) ∈ members

theorem Value.Gives.not_repeats {fields : List (String × (Value → Prop))} {value : Value}
    (gives : value.Gives fields) : ¬ value.Repeats (fields.map Prod.fst) := by
  rintro ⟨members, told, name, asked, twice⟩
  obtain ⟨others, same, fit⟩ := gives
  rw [told] at same
  cases same
  obtain ⟨field, member, rfl⟩ := List.mem_map.mp asked
  have once := fit.once field member
  omega

theorem Value.Gives.held {fields : List (String × (Value → Prop))} {value held : Value}
    (gives : value.Gives fields) {field : String × (Value → Prop)} (asked : field ∈ fields)
    (holds : value.Holds (fields.map Prod.fst) field.1 held) : field.2 held := by
  obtain ⟨members, told, member⟩ := holds
  obtain ⟨others, same, fit⟩ := gives
  rw [told] at same
  cases same
  exact fit.fits field asked held member

theorem record_spelledOut (distinct : (slots.map Slot.name).Nodup) (start : α) (value : Value) :
    (value.spelledOut (slots.map Slot.name)).record slots start = value.record slots start := by
  rw [record_eq distinct, record_eq distinct, members?_spelledOut]

/-- Values of members may be written in another way, if their fields make the same of them. -/
theorem takeMembers_map {respell : Option String → Value → Value}
    (same : ∀ slot ∈ slots, ∀ value, slot.change (respell (some slot.name) value) = slot.change value)
    (members : List (Option String × Value)) (state : α × List String) :
    takeMembers slots state (members.map fun member => (member.1, respell member.1 member.2)) =
      takeMembers slots state members := by
  induction members generalizing state with
  | nil => rfl
  | cons member members ih =>
    obtain ⟨key?, value⟩ := member
    have taken : takeMember slots state (key?, respell key? value) = takeMember slots state (key?, value) := by
      cases key? with
      | none => rfl
      | some key =>
        rw [takeMember, takeMember]
        split
        · rfl
        · rename_i slot found
          obtain rfl : slot.name = key := by simpa using List.find?_some found
          rw [same slot (List.mem_of_find?_eq_some found)]
    simp only [List.map_cons, takeMembers, taken, ih]

end PageUpkeep.Json
