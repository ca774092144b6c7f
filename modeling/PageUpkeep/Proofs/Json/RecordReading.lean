import PageUpkeep.Proofs.Json.RecordMeaning

/-! Reading a record makes what its value means.

The reader of members and the reader of items go along what is written, one member or one item at a time, and
what they come to is what the member or the item means. In the other direction, what they take is an object
or a list.
-/

set_option autoImplicit false

namespace PageUpkeep.Json

variable {α : Type}

section Objects

variable (slots : List (Slot α)) (state : α × List String) (first : Bool)

def memberReader : MemberReader (α × List String) :=
  ⟨readField (slots.map Slot.field), length_readField⟩

theorem find?_field (key : String) :
    (slots.map Slot.field).find? (fun field => field.name == key) =
      (slots.find? fun slot => slot.name == key).map Slot.field := by
  rw [List.find?_map]
  rfl

theorem toOption_readField {key : String} {value : Value} {between source rest : List Char}
    (betweenSpaces : Spaces between) (form : Form (.spaced value) source)
    (stops : Stops continuesNumber rest) :
    ∃ after, Spaces after ∧
      (readField (slots.map Slot.field) state key (between ++ ':' :: (source ++ rest))).toOption =
        (takeMember slots state (some key, value)).map fun next => (next, after ++ rest) := by
  obtain ⟨before, body, after, beforeSpaces, inside, afterSpaces, rfl⟩ := exists_of_spaced form
  refine ⟨after, afterSpaces, ?_⟩
  rw [List.append_assoc, List.append_assoc]
  have colon := readColon_of_form betweenSpaces (before ++ (body ++ (after ++ rest)))
  cases found : slots.find? fun slot => slot.name == key with
  | none =>
    have skipped : skipValue [] (before ++ (body ++ (after ++ rest))) = .ok (after ++ rest) := by
      rw [skipValue_append beforeSpaces, passedOver_of_form inside [] (stops_spaces afterSpaces stops),
        skipRest]
    simp only [readField, takeMember, find?_field, found, Option.map_none, colon, skipped]
    rfl
  | some slot =>
    have value := slot.means.takes (after ++ rest) beforeSpaces inside
    by_cases given : key ∈ state.2
    · simp only [readField, takeMember, find?_field, found, Option.map_some, if_pos given]
      rfl
    · simp only [readField, takeMember, find?_field, found, Option.map_some, if_neg given, colon,
        toOption_map, value, Option.map_map]
      rfl

theorem readMembers_eq_bind {σ : Type} (members : MemberReader σ) (state : σ) (first : Bool)
    {s rest : List Char} {key : String} (next : nextKey first s = .ok (some key, rest)) :
    readMembers members state first s =
      (members.step state key rest).bind fun read => readMembers members read.1 false read.2 := by
  rw [readMembers_eq]
  simp only [next]
  cases members.step state key rest <;> rfl

theorem nextKey_of_untold {before inner : List Char} (spaces : Spaces before) (form : InnerForm inner)
    (nothing : ∀ text, ¬ TextForm text inner) (rest : List Char) :
    ∃ fault, nextKey first (separator first ++ (before ++ '"' :: (inner ++ '"' :: rest))) = .error fault := by
  obtain ⟨fault, failed⟩ := readText_of_untold form nothing rest
  refine ⟨fault, ?_⟩
  cases first <;>
    simp [nextKey, separator, dropSpaces_append spaces, dropSpaces_cons, isSpace, failed, Except.map]

theorem toOption_readMembers_cons {key : Option String} {value : Value} {head source rest : List Char}
    (named : HeadForm key head) (form : Form (.spaced value) source) (stops : Stops continuesNumber rest) :
    (readMembers (memberReader slots) state first
        (separator first ++ (head ++ (source ++ rest)))).toOption =
      (takeMember slots state (key, value)).bind fun next =>
        (readMembers (memberReader slots) next false rest).toOption := by
  obtain ⟨beforeSpaces, quoted, betweenSpaces⟩ := named
  simp only [List.append_assoc, List.singleton_append]
  cases quoted with
  | told written =>
    obtain ⟨after, afterSpaces, read⟩ := toOption_readField slots state betweenSpaces form stops
    rw [readMembers_eq_bind _ _ _ (nextKey_of_form first beforeSpaces written _), toOption_bind]
    show (readField (slots.map Slot.field) state _ _).toOption.bind _ = _
    rw [read, Option.bind_map]
    refine congrArg _ (funext fun next => congrArg Except.toOption ?_)
    exact readMembers_append _ _ false afterSpaces rest
  | untold inner nothing =>
    obtain ⟨fault, failed⟩ := nextKey_of_untold first beforeSpaces inner nothing _
    rw [readMembers_eq, List.cons_append, List.append_assoc, List.singleton_append, failed]
    rfl

theorem readMembers_end (rest : List Char) :
    readMembers (memberReader slots) state first ('\x7d' :: rest) = .ok (state, rest) := by
  rw [readMembers_eq, nextKey_end]

theorem toOption_readMembers {members : List (Option String × Value)} {source : List Char}
    (form : Form (.members members) source) (rest : List Char) (several : members ≠ []) :
    (readMembers (memberReader slots) state first (separator first ++ (source ++ '\x7d' :: rest))).toOption =
      (takeMembers slots state members).map fun last => (last, rest) := by
  induction members generalizing source state first with
  | nil => contradiction
  | cons member members ih =>
    cases form with
    | lastMember named form =>
      rw [List.append_assoc, toOption_readMembers_cons slots state first named form (Stops.cons rfl rest)]
      simp only [takeMembers, readMembers_end, Option.map_bind]
      rfl
    | member named form more =>
      rw [List.append_assoc, List.append_assoc, List.cons_append,
        toOption_readMembers_cons slots state first named form (Stops.cons rfl _), takeMembers,
        Option.map_bind]
      exact congrArg _ (funext fun next => ih next false more (List.cons_ne_nil _ _))

theorem toOption_readObject {members : List (Option String × Value)} {source : List Char}
    (form : Form (.members members) source) (rest : List Char) :
    (readMembers (memberReader slots) state true (source ++ '\x7d' :: rest)).toOption =
      (takeMembers slots state members).map fun last => (last, rest) := by
  cases members with
  | nil =>
    cases form with
    | noMembers spaces =>
      rw [readMembers_append _ _ true spaces, readMembers_end]
      rfl
  | cons member members => exact toOption_readMembers slots state true form rest (List.cons_ne_nil _ _)

end Objects

section Lists

variable (slots : List (Slot α)) (record : α) (first : Bool)

theorem closeList_of_end {gap : List Char} (spaces : Spaces gap) (rest : List Char) :
    closeList (gap ++ ']' :: rest) = .ok rest := by
  simp [closeList, dropSpaces_append spaces, dropSpaces_cons, isSpace]

theorem closeList_of_other {gap s : List Char} {c : Char} (spaces : Spaces gap) (token : isSpace c = false)
    (other : c ≠ ']') : ∃ fault, closeList (gap ++ c :: s) = .error fault := by
  rw [closeList, dropSpaces_append spaces, dropSpaces_cons token]
  simp only [if_neg other]
  split
  · split
    · exact ⟨_, rfl⟩
    · exact ⟨_, rfl⟩
  · exact ⟨_, rfl⟩

theorem nextItem_of_end {gap : List Char} (spaces : Spaces gap) (rest : List Char) :
    nextItem first (gap ++ ']' :: rest) = .ok (false, rest) := by
  simp [nextItem, dropSpaces_append spaces, dropSpaces_cons, isSpace]

theorem nextItem_of_item {gap s : List Char} {c : Char} (spaces : Spaces gap) (token : isSpace c = false)
    (other : c ≠ ']') : nextItem first (separator first ++ (gap ++ c :: s)) = .ok (true, c :: s) := by
  have comma := @dropSpaces_cons ',' rfl
  cases first <;>
    simp [nextItem, separator, dropSpaces_append spaces, comma, dropSpaces_cons token, other]

theorem readItems_end {gap : List Char} (spaces : Spaces gap) (rest : List Char) :
    readItems (slots.map Slot.field) record first (gap ++ ']' :: rest) = .ok (record, rest) := by
  cases slots with
  | nil => simp [readItems, closeList_of_end spaces, Except.map]
  | cons slot slots => simp [readItems, nextItem_of_end first spaces]

theorem readItems_append {after : List Char} (spaces : Spaces after) (rest : List Char) :
    readItems (slots.map Slot.field) record first (after ++ rest) =
      readItems (slots.map Slot.field) record first rest := by
  cases slots with
  | nil => simp only [List.map_nil, readItems, closeList, dropSpaces_append spaces]
  | cons slot slots => simp only [List.map_cons, readItems, nextItem, dropSpaces_append spaces]

theorem readItems_eq_bind (field : Field α) (fields : List (Field α)) {s item : List Char}
    (next : nextItem first s = .ok (true, item)) :
    readItems (field :: fields) record first s =
      (field.read.run item).bind fun read => readItems fields (read.1 record) false read.2 := by
  simp only [readItems, next]
  cases field.read.run item <;> rfl

theorem toOption_readItems_nil {item : Value} {source : List Char} (form : Form (.spaced item) source)
    (rest : List Char) :
    (readItems (([] : List (Slot α)).map Slot.field) record first
      (separator first ++ (source ++ rest))).toOption = none := by
  obtain ⟨gap, c, more, spaces, rfl, token, notClosing⟩ := first_of_spaced form
  have refused : ∃ fault, closeList (separator first ++ (gap ++ c :: more ++ rest)) = .error fault := by
    cases first with
    | true =>
      rw [List.append_assoc]
      exact closeList_of_other spaces token notClosing
    | false => exact @closeList_of_other [] _ ',' .nil rfl (by decide)
  obtain ⟨fault, refused⟩ := refused
  simp only [List.map_nil, readItems, refused]
  rfl

theorem toOption_readItems_cons (slot : Slot α) {item : Value} {source : List Char}
    (form : Form (.spaced item) source) (rest : List Char) :
    (readItems ((slot :: slots).map Slot.field) record first
        (separator first ++ (source ++ rest))).toOption =
      (slot.change item).bind fun change =>
        (readItems (slots.map Slot.field) (change record) false rest).toOption := by
  obtain ⟨before, body, after, beforeSpaces, inside, afterSpaces, rfl⟩ := exists_of_spaced form
  have value := slot.means.takes (after ++ rest) .nil inside
  obtain ⟨c, more, rfl, begins⟩ := begins_of_form inside
  obtain ⟨token, notClosing⟩ := token_of_begins begins
  rw [List.append_assoc, List.append_assoc, List.cons_append, List.map_cons,
    readItems_eq_bind record first slot.field _ (nextItem_of_item first beforeSpaces token notClosing),
    toOption_bind]
  rw [List.nil_append, List.cons_append] at value
  rw [value, Option.bind_map]
  refine congrArg _ (funext fun change => congrArg Except.toOption ?_)
  exact readItems_append slots (change record) false afterSpaces rest

theorem toOption_readItems {items : List Value} {source : List Char} (form : Form (.items items) source)
    (rest : List Char) (several : items ≠ []) :
    (readItems (slots.map Slot.field) record first (separator first ++ (source ++ ']' :: rest))).toOption =
      (takeItems slots record items).map fun result => (result, rest) := by
  induction items generalizing source slots record first with
  | nil => contradiction
  | cons item items ih =>
    cases slots with
    | nil =>
      cases form with
      | lastItem form => exact toOption_readItems_nil record first form (']' :: rest)
      | item form more =>
        rw [List.append_assoc]
        exact toOption_readItems_nil record first form _
    | cons slot slots =>
      cases form with
      | lastItem form =>
        rw [toOption_readItems_cons slots record first slot form, takeItems, Option.map_bind]
        refine congrArg _ (funext fun change => ?_)
        have ended := readItems_end slots (change record) false .nil rest
        rw [List.nil_append] at ended
        rw [ended]
        cases slots <;> rfl
      | item form more =>
        rw [List.append_assoc, List.cons_append, toOption_readItems_cons slots record first slot form,
          takeItems, Option.map_bind]
        exact congrArg _ (funext fun change => ih slots (change record) false more (List.cons_ne_nil _ _))

theorem toOption_readList {items : List Value} {source : List Char} (form : Form (.items items) source)
    (rest : List Char) :
    (readItems (slots.map Slot.field) record true (source ++ ']' :: rest)).toOption =
      (takeItems slots record items).map fun result => (result, rest) := by
  cases items with
  | nil =>
    cases form with
    | noItems spaces =>
      rw [readItems_end slots record true spaces]
      cases slots <;> rfl
  | cons item items => exact toOption_readItems slots record true form rest (List.cons_ne_nil _ _)

end Lists

/-! ## Nothing else is read -/

section Only

variable {slots : List (Slot α)} {first : Bool} {s rest : List Char}

theorem HeadForm.behind {key : Option String} {gap head : List Char} (form : HeadForm key head)
    (spaces : Spaces gap) : HeadForm key (gap ++ head) := by
  obtain ⟨before, quoted, between⟩ := form
  rw [← List.append_assoc]
  exact .head (List.forall_mem_append.mpr ⟨spaces, before⟩) quoted between

theorem Form.spaced_behind {value : Value} {gap source : List Char} (form : Form (.spaced value) source)
    (spaces : Spaces gap) : Form (.spaced value) (gap ++ source) := by
  cases form with
  | spaced before form after =>
    rw [← List.append_assoc]
    exact .spaced (List.forall_mem_append.mpr ⟨spaces, before⟩) form after

theorem MembersTaken.behind {gap : List Char} (taken : MembersTaken s rest) (spaces : Spaces gap) :
    MembersTaken (gap ++ s) rest := by
  obtain ⟨form⟩ := taken
  rw [← List.append_assoc]
  cases form with
  | lastMember named form =>
    rw [← List.append_assoc]
    exact .taken (.lastMember (named.behind spaces) form)
  | member named form more =>
    rw [← List.append_assoc]
    exact .taken (.member (named.behind spaces) form more)

theorem ItemsTaken.behind {gap : List Char} (taken : ItemsTaken s rest) (spaces : Spaces gap) :
    ItemsTaken (gap ++ s) rest := by
  obtain ⟨form⟩ := taken
  rw [← List.append_assoc]
  cases form with
  | lastItem form => exact .taken (.lastItem (form.spaced_behind spaces))
  | item form more =>
    rw [← List.append_assoc]
    exact .taken (.item (form.spaced_behind spaces) more)

theorem valueTaken_of_readField {state after : α × List String} {key : String}
    (read : readField (slots.map Slot.field) state key s = .ok (after, rest)) :
    ∃ between more, Spaces between ∧ s = between ++ ':' :: more ∧ ValueTaken more rest := by
  unfold readField at read
  rw [find?_field] at read
  split at read
  · split at read
    · cases read
    · rename_i more colon
      obtain ⟨between, spaces, rfl⟩ := form_of_readColon colon
      obtain ⟨left, skipped, same⟩ := map_eq_ok read
      cases same
      exact ⟨between, more, spaces, rfl, valueTaken_of_skipValue skipped⟩
  · rename_i field found
    split at read
    · cases read
    · split at read
      · cases read
      · rename_i more colon
        obtain ⟨between, spaces, rfl⟩ := form_of_readColon colon
        obtain ⟨slot, _, rfl⟩ := Option.map_eq_some_iff.mp found
        obtain ⟨⟨change, left⟩, value, same⟩ := map_eq_ok read
        cases same
        exact ⟨between, more, spaces, rfl, slot.means.only value⟩

inductive MembersEnd (first : Bool) : List Char → List Char → Prop where
  | none {gap rest : List Char} (spaces : Spaces gap) : MembersEnd first (gap ++ '\x7d' :: rest) rest
  | some {gap s rest : List Char} (spaces : Spaces gap) (taken : MembersTaken s rest) :
      MembersEnd first (gap ++ (separator first ++ s)) rest

theorem membersEnd_of_readMembers {state after : α × List String}
    (read : readMembers (memberReader slots) state first s = .ok (after, rest)) :
    MembersEnd first s rest := by
  fun_induction readMembers (memberReader slots) state first s with
  | case1 => cases read
  | case2 state first s later next =>
    cases read
    cases keyRead_of_nextKey next with
    | none spaces => exact .none spaces
  | case3 => cases read
  | case4 state first s key later next gathered left member bound ih =>
    obtain ⟨between, more, betweenSpaces, rfl, value⟩ := valueTaken_of_readField member
    cases keyRead_of_nextKey next with
    | @some gap before form _ _ gapSpaces beforeSpaces written =>
      have named := HeadForm.head beforeSpaces (.told written) betweenSpaces
      refine .some gapSpaces ?_
      -- What comes after the member is either the end or a comma and more members.
      cases ih read with
      | none spaces => simpa using membersTaken_last named spaces value
      | some spaces others => simpa [separator] using membersTaken_cons named spaces value others

inductive ItemsEnd (first : Bool) : List Char → List Char → Prop where
  | none {gap rest : List Char} (spaces : Spaces gap) : ItemsEnd first (gap ++ ']' :: rest) rest
  | some {gap s rest : List Char} (spaces : Spaces gap) (taken : ItemsTaken s rest) :
      ItemsEnd first (gap ++ (separator first ++ s)) rest

theorem end_of_closeList (closed : closeList s = .ok rest) : ∃ gap, Spaces gap ∧ s = gap ++ ']' :: rest := by
  unfold closeList at closed
  split at closed
  · cases closed
  · rename_i c after dropped
    split at closed
    · rename_i closing
      cases closed
      exact spaces_of_dropSpaces (closing ▸ dropped)
    · split at closed
      · split at closed <;> cases closed
      · cases closed

theorem nextItem_cases {there : Bool} (next : nextItem first s = .ok (there, rest)) :
    (there = false ∧ ∃ gap, Spaces gap ∧ s = gap ++ ']' :: rest) ∨
      (there = true ∧ ∃ gap before, Spaces gap ∧ Spaces before ∧
        s = gap ++ (separator first ++ (before ++ rest))) := by
  unfold nextItem at next
  split at next
  · cases next
  · rename_i c after dropped
    obtain ⟨gap, spaces, rfl⟩ := spaces_of_dropSpaces dropped
    split at next
    · rename_i closing
      cases next
      exact .inl ⟨rfl, gap, spaces, by rw [closing]⟩
    · split at next
      · rename_i isFirst
        cases next
        exact .inr ⟨rfl, gap, [], spaces, .nil, by simp [separator, isFirst]⟩
      · -- Only an item that is not the first has a comma before it, and an item behind the comma.
        rename_i notFirst
        split at next
        · rename_i comma
          split at next
          · cases next
          · rename_i d later inner
            obtain ⟨before, beforeSpaces, rfl⟩ := spaces_of_dropSpaces inner
            split at next
            · cases next
            · cases next
              exact .inr ⟨rfl, gap, before, spaces, beforeSpaces, by
                simp [separator, Bool.eq_false_iff.mpr notFirst, comma]⟩
        · cases next

theorem itemsEnd_of_readItems {record result : α}
    (read : readItems (slots.map Slot.field) record first s = .ok (result, rest)) :
    ItemsEnd first s rest := by
  induction slots generalizing record first s with
  | nil =>
    obtain ⟨left, closed, same⟩ := map_eq_ok read
    cases same
    obtain ⟨gap, spaces, rfl⟩ := end_of_closeList closed
    exact .none spaces
  | cons slot slots ih =>
    rw [List.map_cons, readItems] at read
    split at read
    · cases read
    · rename_i left next
      cases read
      rcases nextItem_cases next with ⟨-, gap, spaces, rfl⟩ | ⟨there, _⟩
      · exact .none spaces
      · cases there
    · rename_i item next
      rcases nextItem_cases next with ⟨there, _⟩ | ⟨-, gap, before, gapSpaces, beforeSpaces, rfl⟩
      · cases there
      · split at read
        · cases read
        · rename_i change later value
          have taken := (slot.means.only value).behind beforeSpaces
          refine .some gapSpaces ?_
          -- What comes after the item is either the end or a comma and more items.
          cases ih read with
          | none spaces => exact itemsTaken_last spaces taken
          | some spaces others => exact itemsTaken_cons spaces taken others

end Only

/-! ## Records of either kind -/

theorem readRecord_of_other (expected : String) (fields : List (Field α)) (start : α)
    {before s : List Char} {c : Char} (spaces : Spaces before) (token : isSpace c = false)
    (notList : c ≠ '[') (notObject : c ≠ '\x7b') :
    (readRecord expected fields start (before ++ c :: s)).toOption = none := by
  rw [readRecord, dropSpaces_append spaces, dropSpaces_cons token]
  split
  · rename_i bracket
    exact absurd (List.cons.inj bracket).1 notList
  · rename_i brace
    exact absurd (List.cons.inj brace).1 notObject
  · rfl

/-- Reading a record from any form of a value makes what the value means, and nothing else is read. -/
theorem means_record (expected : String) (slots : List (Slot α)) (start : α) :
    (Reader.record expected (slots.map Slot.field) start).Means (Value.record slots start) where
  takes := by
    intro value before source rest spaces form
    -- No record is made of what is neither a list nor an object.
    have other : value.begins '[' = false → value.begins '\x7b' = false → value.record slots start = none →
        (readRecord expected (slots.map Slot.field) start (before ++ (source ++ rest))).toOption =
          (value.record slots start).map fun result => (result, rest) := by
      intro notList notObject nothing
      obtain ⟨c, more, rfl, begins⟩ := begins_of_form form
      have apart : ∀ d, value.begins d = false → c ≠ d := by
        rintro d told rfl
        exact Bool.eq_false_iff.mp told begins
      rw [nothing, List.cons_append]
      exact readRecord_of_other expected _ start spaces (token_of_begins begins).1 (apart _ notList)
        (apart _ notObject)
    show (readRecord expected (slots.map Slot.field) start _).toOption = _
    cases form with
    | null | yes | no | number | text => exact other rfl rfl rfl
    | list inside =>
      rw [readRecord, dropSpaces_append spaces, List.cons_append, @dropSpaces_cons '[' rfl,
        List.append_assoc]
      exact toOption_readList slots start inside rest
    | object inside =>
      rw [readRecord, dropSpaces_append spaces, List.cons_append, @dropSpaces_cons '\x7b' rfl,
        List.append_assoc]
      show ((readMembers (memberReader slots) (start, []) true _).map _).toOption = _
      rw [toOption_map, List.singleton_append, toOption_readObject slots (start, []) inside rest,
        Option.map_map, Value.record, Option.map_map]
      rfl
  only := by
    intro s rest result read
    change readRecord expected (slots.map Slot.field) start s = .ok (result, rest) at read
    unfold readRecord at read
    split at read
    · rename_i inside dropped
      obtain ⟨before, spaces, rfl⟩ := spaces_of_dropSpaces dropped
      refine ValueTaken.behind spaces ?_
      cases itemsEnd_of_readItems read with
      | none gap => simpa using valueTaken_of_form (.list (.noItems gap)) rest
      | some gap taken => exact valueTaken_of_items (taken.behind gap)
    · rename_i inside dropped
      obtain ⟨before, spaces, rfl⟩ := spaces_of_dropSpaces dropped
      obtain ⟨⟨last, left⟩, members, same⟩ := map_eq_ok read
      cases same
      refine ValueTaken.behind spaces ?_
      cases membersEnd_of_readMembers members with
      | none gap => simpa using valueTaken_of_form (.object (.noMembers gap)) _
      | some gap taken => exact valueTaken_of_members (taken.behind gap)
    · cases read

/-- The text is the value, with blanks around it. -/
def IsDocument (value : Value) (source : String) : Prop :=
  Form (.spaced value) source.toList

variable {reader : Reader α} {meaning : Value → Option α} {source : String}

theorem toOption_readAll (means : reader.Means meaning) {value : Value} (document : IsDocument value source) :
    (readAll reader.run source).toOption = meaning value := by
  obtain ⟨before, body, after, beforeSpaces, form, afterSpaces, whole⟩ := exists_of_spaced document
  have taken := means.takes after beforeSpaces form
  rw [readAll, whole]
  cases read : reader.run (before ++ (body ++ after)) with
  | error fault =>
    rw [read] at taken
    exact (Option.map_eq_none_iff.mp taken.symm).symm
  | ok result =>
    rw [read] at taken
    obtain ⟨made, same, rfl⟩ := Option.map_eq_some_iff.mp taken.symm
    simp only [dropSpaces_spaces afterSpaces]
    exact same.symm

theorem exists_document (means : reader.Means meaning) {result : α}
    (read : readAll reader.run source = .ok result) : ∃ value, IsDocument value source := by
  unfold readAll at read
  split at read
  · cases read
  · rename_i made rest taken
    split at read
    · rename_i dropped
      obtain ⟨after, spaces, same⟩ := spaces_of_dropSpaces dropped
      rw [List.append_nil] at same
      have value := means.only taken
      unfold IsDocument
      generalize source.toList = text at value
      obtain ⟨before, form⟩ := value
      exact ⟨_, .spaced before form (same ▸ spaces)⟩
    · cases read

end PageUpkeep.Json
