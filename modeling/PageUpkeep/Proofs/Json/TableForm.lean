import PageUpkeep.Json.Printer
import PageUpkeep.Json.Reader
import PageUpkeep.Proofs.Json.QuotedForm

/-! The grammar of a JSON object of texts, told without a reader.

Blanks may stand around every token and keys may be repeated. The reader takes every such object, the
last repetition counting, and the printer writes one whose members are the entries of its table.
-/

set_option autoImplicit false

namespace PageUpkeep.Json

def Spaces (cs : List Char) : Prop :=
  ∀ c ∈ cs, isSpace c = true

instance (cs : List Char) : Decidable (Spaces cs) :=
  List.decidableBAll (fun c => isSpace c = true) cs

inductive StringForm : String → List Char → Prop where
  | quotes {text : String} {inner : List Char} (form : TextForm text.toList inner) :
      StringForm text ('"' :: (inner ++ ['"']))

inductive MemberForm : String × String → List Char → Prop where
  | member {key value : String} {before keyForm between gap valueForm after : List Char}
      (before_spaces : Spaces before) (key_form : StringForm key keyForm)
      (between_spaces : Spaces between) (gap_spaces : Spaces gap)
      (value_form : StringForm value valueForm) (after_spaces : Spaces after) :
      MemberForm (key, value) (before ++ (keyForm ++ (between ++ ':' :: (gap ++ (valueForm ++ after)))))

inductive MembersForm : List (String × String) → List Char → Prop where
  | last {entry : String × String} {source : List Char} (member : MemberForm entry source) :
      MembersForm [entry] source
  | cons {entry : String × String} {entries : List (String × String)} {source others : List Char}
      (member : MemberForm entry source) (more : MembersForm entries others) :
      MembersForm (entry :: entries) (source ++ ',' :: others)

/-- An object of texts, with its members in the order in which they are written. -/
inductive TableForm : List (String × String) → List Char → Prop where
  | empty {before inside after : List Char} (before_spaces : Spaces before)
      (inside_spaces : Spaces inside) (after_spaces : Spaces after) :
      TableForm [] (before ++ '\x7b' :: (inside ++ '\x7d' :: after))
  | filled {entries : List (String × String)} {before source after : List Char}
      (before_spaces : Spaces before) (members : MembersForm entries source)
      (after_spaces : Spaces after) :
      TableForm entries (before ++ '\x7b' :: (source ++ '\x7d' :: after))

theorem brace_mem_of_tableForm {entries : List (String × String)} {source : List Char}
    (form : TableForm entries source) : '\x7b' ∈ source := by
  cases form <;> simp

theorem Spaces.nil : Spaces [] := nofun

theorem dropSpaces_append {before : List Char} (spaces : Spaces before) (rest : List Char) :
    dropSpaces (before ++ rest) = dropSpaces rest := by
  induction before with
  | nil => rfl
  | cons c more ih =>
    obtain ⟨head, tail⟩ := List.forall_mem_cons.mp spaces
    rw [List.cons_append, dropSpaces, List.dropWhile_cons_of_pos head]
    exact ih tail

theorem dropSpaces_spaces {cs : List Char} (spaces : Spaces cs) : dropSpaces cs = [] := by
  have dropped := dropSpaces_append spaces []
  rwa [List.append_nil] at dropped

theorem dropSpaces_cons {c : Char} (token : isSpace c = false) (rest : List Char) :
    dropSpaces (c :: rest) = c :: rest :=
  List.dropWhile_cons_of_neg (Bool.eq_false_iff.mp token)

theorem readString_of_form {before form : List Char} {text : String} (spaces : Spaces before)
    (written : StringForm text form) (rest : List Char) :
    readString (before ++ (form ++ rest)) = .ok (text, rest) := by
  obtain ⟨inner⟩ := written
  have read := readText_of_form inner rest
  simp [readString, dropSpaces_append spaces, dropSpaces_cons, isSpace, read, Except.map]

theorem readColon_of_form {between : List Char} (spaces : Spaces between) (rest : List Char) :
    readColon (between ++ ':' :: rest) = .ok rest := by
  simp [readColon, dropSpaces_append spaces, dropSpaces_cons, isSpace]

theorem nextKey_append {before : List Char} (spaces : Spaces before) (first : Bool) (rest : List Char) :
    nextKey first (before ++ rest) = nextKey first rest := by
  simp [nextKey, dropSpaces_append spaces]

theorem nextKey_end (first : Bool) (rest : List Char) :
    nextKey first ('\x7d' :: rest) = .ok (none, rest) := by
  simp [nextKey, dropSpaces_cons, isSpace]

def separator : (first : Bool) → List Char
  | true => []
  | false => [',']

theorem nextKey_of_form {before form : List Char} {key : String} (first : Bool) (spaces : Spaces before)
    (written : StringForm key form) (rest : List Char) :
    nextKey first (separator first ++ (before ++ (form ++ rest))) = .ok (some key, rest) := by
  obtain ⟨inner⟩ := written
  have read := readText_of_form inner rest
  cases first <;>
    simp [nextKey, separator, dropSpaces_append spaces, dropSpaces_cons, isSpace, read, Except.map]

theorem readMembers_eq {σ : Type} (members : MemberReader σ) (state : σ) (first : Bool) (s : List Char) :
    readMembers members state first s =
      match nextKey first s with
      | .error fault => .error fault
      | .ok (none, rest) => .ok (state, rest)
      | .ok (some key, rest) =>
        match members.step state key rest with
        | .error fault => .error fault
        | .ok (gathered, after) => readMembers members gathered false after := by
  rw [readMembers]
  split
  · rename_i fault next
    rw [next]
  · rename_i rest next
    rw [next]
  · rename_i key rest next
    simp only [next]
    split
    · rename_i fault member
      rw [member]
    · rename_i gathered after member
      rw [member]

theorem readMembers_append {σ : Type} (members : MemberReader σ) (state : σ) (first : Bool)
    {before : List Char} (spaces : Spaces before) (rest : List Char) :
    readMembers members state first (before ++ rest) = readMembers members state first rest := by
  rw [readMembers_eq, nextKey_append spaces, ← readMembers_eq]

def entryReader : MemberReader Table :=
  ⟨readEntry, length_readEntry⟩

theorem readMembers_of_member {entry : String × String} {source : List Char}
    (form : MemberForm entry source) (table : Table) (first : Bool) (rest : List Char) :
    readMembers entryReader table first (separator first ++ (source ++ rest)) =
      readMembers entryReader (table.insert entry.1 entry.2) false rest := by
  obtain ⟨before, keyForm, between, gap, valueForm, after⟩ := form
  rw [readMembers_eq]
  simp only [List.append_assoc, List.cons_append, nextKey_of_form first before keyForm, entryReader,
    readEntry, readColon_of_form between, readString_of_form gap valueForm, Except.map]
  exact readMembers_append _ _ false after rest

theorem readMembers_of_form {entries : List (String × String)} {source : List Char}
    (form : MembersForm entries source) (table : Table) (first : Bool) (rest : List Char) :
    readMembers entryReader table first (separator first ++ (source ++ '\x7d' :: rest)) =
      .ok (entries.foldl (fun table entry => table.insert entry.1 entry.2) table, rest) := by
  -- Only the first member stands without a comma, so the induction is over both cases at once.
  induction form generalizing table first with
  | last member =>
    rw [readMembers_of_member member, readMembers_eq, nextKey_end]
    rfl
  | cons member more ih =>
    rw [List.append_assoc, readMembers_of_member member]
    exact ih _ false

theorem readTable_of_form {entries : List (String × String)} {source : List Char}
    (form : TableForm entries source) (more : List Char) :
    ∃ after, Spaces after ∧ readTable (source ++ more) = .ok (Table.ofList entries, after ++ more) := by
  have brace : isSpace '\x7b' = false := by decide
  cases form with
  | @empty before inside after before_spaces inside_spaces after_spaces =>
    refine ⟨after, after_spaces, ?_⟩
    simp only [List.append_assoc, List.cons_append, readTable, dropSpaces_append before_spaces,
      dropSpaces_cons brace]
    rw [readMembers_eq, nextKey_append inside_spaces, nextKey_end]
    rfl
  | @filled _ before source after before_spaces members after_spaces =>
    refine ⟨after, after_spaces, ?_⟩
    simp only [List.append_assoc, List.cons_append, readTable, dropSpaces_append before_spaces,
      dropSpaces_cons brace]
    exact readMembers_of_form members .empty true (after ++ more)

/-- Every object of texts is read as the table of its members. -/
theorem readAll_of_form {entries : List (String × String)} {source : String}
    (form : TableForm entries source.toList) :
    readAll readTable source = .ok (Table.ofList entries) := by
  obtain ⟨after, spaces, read⟩ := readTable_of_form form []
  rw [List.append_nil, List.append_nil] at read
  simp [readAll, read, dropSpaces_spaces spaces]

/-! ## The reader takes nothing else -/

theorem spaces_of_dropSpaces {s after : List Char} (dropped : dropSpaces s = after) :
    ∃ before, Spaces before ∧ s = before ++ after := by
  refine ⟨s.takeWhile isSpace, ?_, ?_⟩
  · intro c member
    exact List.all_eq_true.mp List.all_takeWhile c member
  · rw [← dropped]
    exact List.takeWhile_append_dropWhile.symm

theorem form_of_readText_map {α : Type} {f : String → α} {s rest : List Char} {result : α}
    (read : (readText s).map (fun read => (f (String.ofList read.1), read.2)) = .ok (result, rest)) :
    ∃ text form, f text = result ∧ StringForm text form ∧ '"' :: s = form ++ rest := by
  obtain ⟨⟨text, left⟩, taken, same⟩ := map_eq_ok read
  obtain ⟨inner, form, rfl⟩ := form_of_readText taken
  cases same
  exact ⟨String.ofList text, _, rfl, .quotes (by simpa using form), by simp⟩

theorem form_of_readString {s rest : List Char} {text : String} (read : readString s = .ok (text, rest)) :
    ∃ before form, Spaces before ∧ StringForm text form ∧ s = before ++ (form ++ rest) := by
  unfold readString at read
  split at read
  · rename_i after dropped
    obtain ⟨before, spaces, rfl⟩ := spaces_of_dropSpaces dropped
    obtain ⟨text, form, rfl, written, same⟩ := @form_of_readText_map _ id _ _ _ read
    exact ⟨before, form, spaces, written, by rw [same]⟩
  · cases read

theorem form_of_readColon {s rest : List Char} (read : readColon s = .ok rest) :
    ∃ between, Spaces between ∧ s = between ++ ':' :: rest := by
  unfold readColon at read
  split at read
  · cases read
  · rename_i c after dropped
    split at read
    · rename_i colon
      cases read
      exact spaces_of_dropSpaces (colon ▸ dropped)
    · cases read

/-- A key, or the end, is found behind blanks; a key that is not the first is behind a comma too. -/
inductive KeyRead (first : Bool) : List Char → Option String → List Char → Prop where
  | none {gap rest : List Char} (spaces : Spaces gap) : KeyRead first (gap ++ '\x7d' :: rest) none rest
  | some {gap before form rest : List Char} {key : String} (gap_spaces : Spaces gap)
      (before_spaces : Spaces before) (written : StringForm key form) :
      KeyRead first (gap ++ (separator first ++ (before ++ (form ++ rest)))) (some key) rest

theorem keyRead_of_nextKey {first : Bool} {s rest : List Char} {key? : Option String}
    (read : nextKey first s = .ok (key?, rest)) : KeyRead first s key? rest := by
  unfold nextKey at read
  split at read
  · cases read
  · rename_i c after dropped
    obtain ⟨gap, gapSpaces, whole⟩ := spaces_of_dropSpaces dropped
    split at read
    · rename_i brace
      cases read
      rw [whole, brace]
      exact .none gapSpaces
    · -- A key stands at once behind the opening brace, and behind a comma later.
      split at read
      · rename_i isFirst
        split at read
        · rename_i quote
          obtain ⟨key, form, rfl, written, same⟩ := @form_of_readText_map _ some _ _ _ read
          rw [whole, quote, same, isFirst]
          exact @KeyRead.some true [] gap form rest key .nil gapSpaces written
        · cases read
      · rename_i notFirst
        split at read
        · rename_i comma
          split at read
          · cases read
          · rename_i d later further
            obtain ⟨before, spaces, inner⟩ := spaces_of_dropSpaces further
            split at read
            · rename_i quote
              obtain ⟨key, form, rfl, written, same⟩ := @form_of_readText_map _ some _ _ _ read
              rw [whole, comma, inner, quote, same, Bool.eq_false_iff.mpr notFirst]
              exact .some gapSpaces spaces written
            · split at read
              · cases read
              · cases read
        · cases read

theorem form_of_readEntry {table after : Table} {key : String} {s rest : List Char}
    (read : readEntry table key s = .ok (after, rest)) :
    ∃ between gap value form, Spaces between ∧ Spaces gap ∧ StringForm value form ∧
      s = between ++ ':' :: (gap ++ (form ++ rest)) ∧ after = table.insert key value := by
  unfold readEntry at read
  split at read
  · cases read
  · rename_i later colon
    obtain ⟨between, betweenSpaces, rfl⟩ := form_of_readColon colon
    obtain ⟨⟨value, left⟩, taken, same⟩ := map_eq_ok read
    obtain ⟨gap, form, gapSpaces, written, rfl⟩ := form_of_readString taken
    cases same
    exact ⟨between, gap, value, form, betweenSpaces, gapSpaces, written, rfl, rfl⟩

theorem MemberForm.behind {entry : String × String} {gap source : List Char}
    (form : MemberForm entry source) (spaces : Spaces gap) : MemberForm entry (gap ++ source) := by
  cases form with
  | member before_spaces key_form between_spaces gap_spaces value_form after_spaces =>
    rw [← List.append_assoc]
    refine .member ?_ key_form between_spaces gap_spaces value_form after_spaces
    exact List.forall_mem_append.mpr ⟨spaces, before_spaces⟩

theorem MembersForm.behind {entries : List (String × String)} {gap source : List Char}
    (form : MembersForm entries source) (spaces : Spaces gap) : MembersForm entries (gap ++ source) := by
  cases form with
  | last member => exact .last (member.behind spaces)
  | cons member more =>
    rw [← List.append_assoc]
    exact .cons (member.behind spaces) more

inductive MembersRead (first : Bool) (table : Table) : List Char → Table → List Char → Prop where
  | none {gap rest : List Char} (spaces : Spaces gap) :
      MembersRead first table (gap ++ '\x7d' :: rest) table rest
  | some {entries : List (String × String)} {gap source rest : List Char} (spaces : Spaces gap)
      (members : MembersForm entries source) :
      MembersRead first table (gap ++ (separator first ++ (source ++ '\x7d' :: rest)))
        (entries.foldl (fun table entry => table.insert entry.1 entry.2) table) rest

theorem membersRead_of_readMembers {table gathered : Table} {first : Bool} {s rest : List Char}
    (read : readMembers entryReader table first s = .ok (gathered, rest)) :
    MembersRead first table s gathered rest := by
  fun_induction readMembers entryReader table first s with
  | case1 => cases read
  | case2 table first s later next =>
    cases read
    cases keyRead_of_nextKey next with
    | none spaces => exact .none spaces
  | case3 => cases read
  | case4 table first s key later next between after member bound ih =>
    obtain ⟨middle, inner, value, valueForm, middleSpaces, innerSpaces, writtenValue, rfl, rfl⟩ :=
      form_of_readEntry member
    cases keyRead_of_nextKey next with
    | @some gap before keyForm _ _ spaces beforeSpaces writtenKey =>
      have form : ∀ {last : List Char}, Spaces last → MemberForm (key, value)
          (before ++ (keyForm ++ (middle ++ ':' :: (inner ++ (valueForm ++ last))))) :=
        fun lastSpaces => .member beforeSpaces writtenKey middleSpaces innerSpaces writtenValue lastSpaces
      -- What comes after the member is either the end or a comma and more members.
      cases ih read with
      | none lastSpaces =>
        have whole := @MembersRead.some first table _ gap _ rest spaces (.last (form lastSpaces))
        simpa using whole
      | some lastSpaces more =>
        have whole := @MembersRead.some first table _ gap _ rest spaces (.cons (form lastSpaces) more)
        simpa [separator] using whole

theorem form_of_readTable {s rest : List Char} {table : Table}
    (read : readTable s = .ok (table, rest)) (last : Spaces rest) :
    ∃ entries, TableForm entries s ∧ Table.ofList entries = table := by
  unfold readTable at read
  split at read
  · rename_i inside dropped
    obtain ⟨before, spaces, rfl⟩ := spaces_of_dropSpaces dropped
    cases membersRead_of_readMembers read with
    | none insideSpaces => exact ⟨[], .empty spaces insideSpaces last, rfl⟩
    | some insideSpaces members =>
      have form := TableForm.filled spaces (members.behind insideSpaces) last
      exact ⟨_, by simpa [separator] using form, rfl⟩
  · cases read

/-- A text that is read as a table is an object of texts. -/
theorem form_of_readAll {source : String} {table : Table}
    (read : readAll readTable source = .ok table) :
    ∃ entries, TableForm entries source.toList ∧ Table.ofList entries = table := by
  unfold readAll at read
  split at read
  · cases read
  · rename_i value rest taken
    split at read
    · rename_i dropped
      cases read
      obtain ⟨last, spaces, same⟩ := spaces_of_dropSpaces dropped
      rw [List.append_nil] at same
      exact form_of_readTable taken (same ▸ spaces)
    · cases read

theorem stringForm_text (value : String) : StringForm value (text value) :=
  .quotes (textForm_quoted value.toList)

theorem memberForm_tableLine (entry : String × String) {after : List Char} (spaces : Spaces after) :
    MemberForm entry (tableLine entry ++ after) := by
  have form := @MemberForm.member entry.1 entry.2 ['\n', ' ', ' '] _ [] [' '] _ after (by decide)
    (stringForm_text entry.1) .nil (by decide) (stringForm_text entry.2) spaces
  simpa [tableLine] using form

theorem membersForm_lines (entry : String × String) (entries : List (String × String)) :
    MembersForm (entry :: entries) ([','].intercalate ((entry :: entries).map tableLine) ++ ['\n']) := by
  induction entries generalizing entry with
  | nil =>
    have newline : Spaces ['\n'] := by decide
    simpa using MembersForm.last (memberForm_tableLine entry newline)
  | cons next more ih =>
    have form := MembersForm.cons (memberForm_tableLine entry Spaces.nil) (ih next)
    simpa [List.intercalate_cons_cons] using form

theorem tableForm_table (entries : Table) : TableForm entries.entries (table entries) := by
  unfold table
  split
  · rename_i none
    rw [none]
    exact @TableForm.empty [] [] [] .nil .nil .nil
  · rename_i lines some
    obtain ⟨entry, more, several⟩ := List.exists_cons_of_ne_nil some
    rw [several]
    have form := @TableForm.filled _ [] _ [] .nil (membersForm_lines entry more) .nil
    simpa using form

end PageUpkeep.Json
