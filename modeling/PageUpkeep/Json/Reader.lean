import PageUpkeep.Json.Skip
import PageUpkeep.Table

/-! Reading JSON values of a known shape: texts, tables of texts, records and names.

A record is an object whose members are its fields, in any order and each at most once, among others
that are passed over; a field that is not given keeps what the record had. It may also be a list of
the values of its first fields. A name is a text from a fixed list, or an object whose only key is
that text and whose value is null.
-/

set_option autoImplicit false

namespace PageUpkeep.Json

/-- A way to read a value; it always takes something. -/
structure Reader (α : Type) where
  run : List Char → Except Fault (α × List Char)
  shorter : ∀ {s rest : List Char} {a : α}, run s = .ok (a, rest) → rest.length < s.length

def readScalar (c : Char) (rest : List Char) : Except Fault (Found × List Char) :=
  if c = 'n' then (readIdent ['u', 'l', 'l'] rest).map fun after => (.null, after)
  else if c = 't' then (readIdent ['r', 'u', 'e'] rest).map fun after => (.boolean true, after)
  else if c = 'f' then (readIdent ['a', 'l', 's', 'e'] rest).map fun after => (.boolean false, after)
  else if c = '"' then (readText rest).map fun read => (.text (String.ofList read.1), read.2)
  else if c = '-' ∨ c.isDigit then
    match Numeral.read .eofValue (c :: rest) with
    | .error fault => .error fault
    | .ok (numeral, after) => (numeral.found after).map fun found => (found, after)
  else .error (.upon .expectedValue (c :: rest))

/-- The complaint about a value that is not `expected`. A scalar is read first, and its own faults
go before; a list or an object is not. -/
def mismatch (expected : String) : List Char → Fault
  | [] => ⟨.eofValue, 0⟩
  | c :: rest =>
    if c = '[' then .before (.invalidType .sequence expected) (c :: rest)
    else if c = '\x7b' then .before (.invalidType .map expected) (c :: rest)
    else
      match readScalar c rest with
      | .error fault => fault
      | .ok (found, after) => .before (.invalidType found expected) after

def readString (s : List Char) : Except Fault (String × List Char) :=
  match dropSpaces s with
  | '"' :: rest => (readText rest).map fun read => (String.ofList read.1, read.2)
  | other => .error (mismatch "a string" other)

theorem length_readText_map {α : Type} {s rest : List Char} {a : α} (f : List Char → α)
    (read : (readText s).map (fun read => (f read.1, read.2)) = .ok (a, rest)) :
    rest.length < s.length := by
  cases text : readText s with
  | error fault => simp [text, Except.map] at read
  | ok result =>
    simp only [text, Except.map, Except.ok.injEq, Prod.mk.injEq] at read
    rw [← read.2]
    exact length_readText text

theorem length_readString {s rest : List Char} {text : String} (read : readString s = .ok (text, rest)) :
    rest.length < s.length := by
  have bound := length_dropSpaces_le s
  unfold readString at read
  split at read
  · rename_i after spaces
    have := length_readText_map String.ofList read
    rw [spaces, List.length_cons] at bound
    omega
  · simp at read

def Reader.text : Reader String :=
  ⟨readString, length_readString⟩

/-- The key of the next member of an object, or `none` at its closing brace. `first` says that no
member has been read yet. -/
def nextKey (first : Bool) (s : List Char) : Except Fault (Option String × List Char) :=
  match dropSpaces s with
  | [] => .error ⟨.eofObject, 0⟩
  | c :: rest =>
    if c = '\x7d' then .ok (none, rest)
    else if first then
      if c = '"' then (readText rest).map fun read => (some (String.ofList read.1), read.2)
      else .error (.upon .keyNotText (c :: rest))
    else if c = ',' then
      match dropSpaces rest with
      | [] => .error ⟨.eofValue, 0⟩
      | d :: after =>
        if d = '"' then (readText after).map fun read => (some (String.ofList read.1), read.2)
        else if d = '\x7d' then .error (.upon .trailingComma (d :: after))
        else .error (.upon .keyNotText (d :: after))
    else .error (.upon .expectedObjectEnd (c :: rest))

theorem length_nextKey {first : Bool} {s rest : List Char} {key : Option String}
    (read : nextKey first s = .ok (key, rest)) : rest.length < s.length := by
  have bound := length_dropSpaces_le s
  unfold nextKey at read
  split at read
  · simp at read
  · rename_i c after spaces
    rw [spaces, List.length_cons] at bound
    have innerBound := length_dropSpaces_le after
    split at read
    · simp only [Except.ok.injEq, Prod.mk.injEq] at read
      rw [← read.2]
      omega
    · split at read
      · split at read
        · have := length_readText_map (fun text => some (String.ofList text)) read
          omega
        · simp at read
      · split at read
        · split at read
          · simp at read
          · rename_i d later inner
            rw [inner, List.length_cons] at innerBound
            split at read
            · have := length_readText_map (fun text => some (String.ofList text)) read
              omega
            · split at read <;> simp at read
        · simp at read

/-- What to do with the members of an object: from what has been gathered so far, a key and the text
after the key, to what has been gathered then and the text after the member. -/
structure MemberReader (σ : Type) where
  step : σ → String → List Char → Except Fault (σ × List Char)
  shorter : ∀ {state after : σ} {key : String} {s rest : List Char},
    step state key s = .ok (after, rest) → rest.length < s.length

def readMembers {σ : Type} (members : MemberReader σ) (state : σ) (first : Bool) (s : List Char) :
    Except Fault (σ × List Char) :=
  match next : nextKey first s with
  | .error fault => .error fault
  | .ok (none, rest) => .ok (state, rest)
  | .ok (some key, rest) =>
    match member : members.step state key rest with
    | .error fault => .error fault
    | .ok (gathered, after) =>
      have : after.length < s.length := by
        have := length_nextKey next
        have := members.shorter member
        omega
      readMembers members gathered false after
termination_by s.length

theorem length_readMembers {σ : Type} {members : MemberReader σ} {state after : σ} {first : Bool}
    {s rest : List Char} (read : readMembers members state first s = .ok (after, rest)) :
    rest.length < s.length := by
  fun_induction readMembers members state first s generalizing after rest with
  | case1 => simp at read
  | case2 state first s later next =>
    simp only [Except.ok.injEq, Prod.mk.injEq] at read
    rw [← read.2]
    exact length_nextKey next
  | case3 => simp at read
  | case4 state first s key later next gathered further member bound ih =>
    exact Nat.lt_trans (ih read) bound

/-- Reads a member whose value is a text into a table. A repeated key keeps its last value. -/
def readEntry (table : Table) (key : String) (s : List Char) : Except Fault (Table × List Char) :=
  match readColon s with
  | .error fault => .error fault
  | .ok rest => (readString rest).map fun read => (table.insert key read.1, read.2)

theorem length_readEntry {table after : Table} {key : String} {s rest : List Char}
    (read : readEntry table key s = .ok (after, rest)) : rest.length < s.length := by
  unfold readEntry at read
  split at read
  · simp at read
  · rename_i later colon
    have bound := length_readColon colon
    cases text : readString later with
    | error fault => simp [text, Except.map] at read
    | ok result =>
      simp only [text, Except.map, Except.ok.injEq, Prod.mk.injEq] at read
      have := length_readString text
      rw [← read.2]
      omega

def readTable (s : List Char) : Except Fault (Table × List Char) :=
  match dropSpaces s with
  | '\x7b' :: rest => readMembers ⟨readEntry, length_readEntry⟩ Table.empty true rest
  | other => .error (mismatch "a map" other)

theorem length_readTable {s rest : List Char} {table : Table} (read : readTable s = .ok (table, rest)) :
    rest.length < s.length := by
  have bound := length_dropSpaces_le s
  unfold readTable at read
  split at read
  · rename_i after spaces
    have := length_readMembers read
    rw [spaces, List.length_cons] at bound
    omega
  · simp at read

def Reader.table : Reader Table :=
  ⟨readTable, length_readTable⟩

/-! ## Records -/

structure Field (α : Type) where
  name : String
  read : Reader (α → α)

def Field.of {α β : Type} (name : String) (reader : Reader β) (put : β → α → α) : Field α where
  name := name
  read :=
    { run := fun s => (reader.run s).map fun read => (put read.1, read.2)
      shorter := by
        intro s rest change read
        cases value : reader.run s with
        | error fault => simp [value, Except.map] at read
        | ok result =>
          simp only [value, Except.map, Except.ok.injEq, Prod.mk.injEq] at read
          rw [← read.2]
          exact reader.shorter value }

variable {α : Type}

def duplicate (key : String) (s : List Char) : Fault :=
  match dropSpaces s with
  | '\x7d' :: rest => .before (.duplicateField key) rest
  | rest => .before (.duplicateField key) rest

/-- Reads a member of a record; the state holds the record and the fields given so far. -/
def readField (fields : List (Field α)) (state : α × List String) (key : String) (s : List Char) :
    Except Fault ((α × List String) × List Char) :=
  match fields.find? fun field => field.name == key with
  | none =>
    match readColon s with
    | .error fault => .error fault
    | .ok rest => (skipValue [] rest).map fun after => (state, after)
  | some field =>
    if key ∈ state.2 then .error (duplicate key s)
    else
      match readColon s with
      | .error fault => .error fault
      | .ok rest =>
        (field.read.run rest).map fun read => ((read.1 state.1, key :: state.2), read.2)

theorem length_readField {fields : List (Field α)} {state after : α × List String} {key : String}
    {s rest : List Char} (read : readField fields state key s = .ok (after, rest)) :
    rest.length < s.length := by
  unfold readField at read
  split at read
  · split at read
    · simp at read
    · rename_i later colon
      have bound := length_readColon colon
      cases value : skipValue [] later with
      | error fault => simp [value, Except.map] at read
      | ok left =>
        simp only [value, Except.map, Except.ok.injEq, Prod.mk.injEq] at read
        have := length_skipValue value
        rw [← read.2]
        omega
  · rename_i field found
    split at read
    · simp at read
    · split at read
      · simp at read
      · rename_i later colon
        have bound := length_readColon colon
        cases value : field.read.run later with
        | error fault => simp [value, Except.map] at read
        | ok result =>
          simp only [value, Except.map, Except.ok.injEq, Prod.mk.injEq] at read
          have := field.read.shorter value
          rw [← read.2]
          omega

def closeList (s : List Char) : Except Fault (List Char) :=
  match dropSpaces s with
  | [] => .error ⟨.eofList, 0⟩
  | c :: rest =>
    if c = ']' then .ok rest
    else if c = ',' then
      match dropSpaces rest with
      | ']' :: after => .error (.upon .trailingComma (']' :: after))
      | after => .error (.upon .trailingCharacters after)
    else .error (.upon .trailingCharacters (c :: rest))

/-- The next item of a list: whether there is one, and the text from it on, or after the closing
bracket. `first` says that no item has been read yet. -/
def nextItem (first : Bool) (s : List Char) : Except Fault (Bool × List Char) :=
  match dropSpaces s with
  | [] => .error ⟨.eofList, 0⟩
  | c :: rest =>
    if c = ']' then .ok (false, rest)
    else if first then .ok (true, c :: rest)
    else if c = ',' then
      match dropSpaces rest with
      | [] => .error ⟨.eofValue, 0⟩
      | d :: after =>
        if d = ']' then .error (.upon .trailingComma (d :: after)) else .ok (true, d :: after)
    else .error (.upon .expectedListEnd (c :: rest))

/-- Reads a list as the values of the given fields, of which the last ones may be missing. -/
def readItems (fields : List (Field α)) (record : α) (first : Bool) (s : List Char) :
    Except Fault (α × List Char) :=
  match fields with
  | [] => (closeList s).map fun rest => (record, rest)
  | field :: more =>
    match nextItem first s with
    | .error fault => .error fault
    | .ok (false, rest) => .ok (record, rest)
    | .ok (true, item) =>
      match field.read.run item with
      | .error fault => .error fault
      | .ok (change, rest) => readItems more (change record) false rest

theorem length_closeList {s rest : List Char} (closed : closeList s = .ok rest) :
    rest.length < s.length := by
  have bound := length_dropSpaces_le s
  unfold closeList at closed
  split at closed
  · simp at closed
  · rename_i c after spaces
    rw [spaces, List.length_cons] at bound
    split at closed
    · simp only [Except.ok.injEq] at closed
      subst closed
      omega
    · split at closed
      · split at closed <;> simp at closed
      · simp at closed

theorem length_nextItem {first there : Bool} {s rest : List Char}
    (next : nextItem first s = .ok (there, rest)) :
    rest.length ≤ s.length ∧ (there = false → rest.length < s.length) := by
  have bound := length_dropSpaces_le s
  unfold nextItem at next
  split at next
  · simp at next
  · rename_i c after spaces
    rw [spaces, List.length_cons] at bound
    have innerBound := length_dropSpaces_le after
    split at next
    · simp only [Except.ok.injEq, Prod.mk.injEq] at next
      rw [← next.2]
      omega
    · split at next
      · simp only [Except.ok.injEq, Prod.mk.injEq] at next
        rw [← next.1, ← next.2, List.length_cons]
        exact ⟨bound, by simp⟩
      · split at next
        · split at next
          · simp at next
          · rename_i d later inner
            rw [inner] at innerBound
            split at next
            · simp at next
            · simp only [Except.ok.injEq, Prod.mk.injEq] at next
              rw [← next.1, ← next.2]
              exact ⟨by omega, by simp⟩
        · simp at next

theorem length_readItems {fields : List (Field α)} {record result : α} {first : Bool}
    {s rest : List Char} (read : readItems fields record first s = .ok (result, rest)) :
    rest.length < s.length := by
  induction fields generalizing record first s with
  | nil =>
    unfold readItems at read
    cases closed : closeList s with
    | error fault => simp [closed, Except.map] at read
    | ok left =>
      simp only [closed, Except.map, Except.ok.injEq, Prod.mk.injEq] at read
      rw [← read.2]
      exact length_closeList closed
  | cons field more ih =>
    unfold readItems at read
    split at read
    · simp at read
    · rename_i left next
      simp only [Except.ok.injEq, Prod.mk.injEq] at read
      rw [← read.2]
      exact (length_nextItem next).2 rfl
    · rename_i item next
      have bound := (length_nextItem next).1
      split at read
      · simp at read
      · rename_i change later value
        have valueBound := field.read.shorter value
        have := ih read
        omega

def readRecord (expected : String) (fields : List (Field α)) (start : α) (s : List Char) :
    Except Fault (α × List Char) :=
  match dropSpaces s with
  | '[' :: rest => readItems fields start true rest
  | '\x7b' :: rest =>
    (readMembers ⟨readField fields, length_readField⟩ (start, []) true rest).map fun read =>
      (read.1.1, read.2)
  | other => .error (mismatch expected other)

theorem length_readRecord {expected : String} {fields : List (Field α)} {start record : α}
    {s rest : List Char} (read : readRecord expected fields start s = .ok (record, rest)) :
    rest.length < s.length := by
  have bound := length_dropSpaces_le s
  unfold readRecord at read
  split at read
  · rename_i after spaces
    have := length_readItems read
    rw [spaces, List.length_cons] at bound
    omega
  · rename_i after spaces
    rw [spaces, List.length_cons] at bound
    cases members : readMembers ⟨readField fields, length_readField⟩ (start, []) true after with
    | error fault => simp [members, Except.map] at read
    | ok result =>
      simp only [members, Except.map, Except.ok.injEq, Prod.mk.injEq] at read
      have := length_readMembers members
      rw [← read.2]
      omega
  · simp at read

def Reader.record (expected : String) (fields : List (Field α)) (start : α) : Reader α :=
  ⟨readRecord expected fields start, length_readRecord⟩

def namedValue (names : List (String × α)) (name : String) (rest : List Char) : Except Fault α :=
  match names.find? fun entry => entry.1 == name with
  | some entry => .ok entry.2
  | none => .error (.before (.unknownVariant name (names.map Prod.fst)) rest)

def readNull (s : List Char) : Except Fault (List Char) :=
  match dropSpaces s with
  | 'n' :: rest => readIdent ['u', 'l', 'l'] rest
  | other => .error (mismatch "unit" other)

/-- Reads a name, or an object of one name and null. -/
def readName (names : List (String × α)) (s : List Char) : Except Fault (α × List Char) :=
  match dropSpaces s with
  | [] => .error ⟨.eofValue, 0⟩
  | '"' :: text =>
    match readText text with
    | .error fault => .error fault
    | .ok (name, rest) => (namedValue names (String.ofList name) rest).map fun value => (value, rest)
  | '\x7b' :: inside =>
    match dropSpaces inside with
    | [] => .error ⟨.eofObject, 0⟩
    | '\x7d' :: rest => .error (.upon .expectedValue ('\x7d' :: rest))
    | '"' :: text =>
      match readText text with
      | .error fault => .error fault
      | .ok (name, afterName) =>
        match namedValue names (String.ofList name) afterName with
        | .error fault => .error fault
        | .ok value =>
          match (readColon afterName).bind readNull with
          | .error fault => .error fault
          | .ok afterNull =>
            match dropSpaces afterNull with
            | [] => .error ⟨.eofObject, 0⟩
            | '\x7d' :: rest => .ok (value, rest)
            | rest => .error (.before .expectedValue rest)
    | other => .error (.upon .keyNotText other)
  | other => .error (.upon .expectedValue other)

def readAll (read : List Char → Except Fault (α × List Char)) (source : String) : Except Error α :=
  match read source.toList with
  | .error fault => .error (fault.locate source.toList)
  | .ok (value, rest) =>
    match dropSpaces rest with
    | [] => .ok value
    | c :: after => .error ((Fault.upon .trailingCharacters (c :: after)).locate source.toList)

end PageUpkeep.Json
