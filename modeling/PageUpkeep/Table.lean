/-! Finite tables of texts, kept in increasing order of their keys.

Keys are compared by code point. A table is a list of entries in strictly increasing order, so two
tables that answer every look-up alike are the same table: `Table.ext_get?`.
-/

set_option autoImplicit false

namespace PageUpkeep

/-- Texts under keys, each key once, in increasing order of the keys. -/
structure Table where
  entries : List (String × String)
  sorted : entries.Pairwise fun first second => first.1 < second.1
  deriving DecidableEq, Repr

namespace Table

def insertEntry (key value : String) : List (String × String) → List (String × String)
  | [] => [(key, value)]
  | entry :: rest =>
    if key < entry.1 then (key, value) :: entry :: rest
    else if key = entry.1 then (key, value) :: rest
    else entry :: insertEntry key value rest

theorem mem_insertEntry {key value : String} {entry : String × String} {entries : List (String × String)}
    (member : entry ∈ insertEntry key value entries) : entry = (key, value) ∨ entry ∈ entries := by
  induction entries with
  | nil => simpa [insertEntry] using member
  | cons head rest ih =>
    unfold insertEntry at member
    split at member
    · simpa using member
    · split at member
      · rcases List.mem_cons.mp member with same | later
        · exact .inl same
        · exact .inr (List.mem_cons_of_mem _ later)
      · rcases List.mem_cons.mp member with same | later
        · exact .inr (same ▸ List.mem_cons_self)
        · exact (ih later).imp_right (List.mem_cons_of_mem _)

theorem insertEntry_sorted (key value : String) {entries : List (String × String)}
    (sorted : entries.Pairwise fun first second => first.1 < second.1) :
    (insertEntry key value entries).Pairwise fun first second => first.1 < second.1 := by
  induction entries with
  | nil => simp [insertEntry]
  | cons head rest ih =>
    obtain ⟨least, tail⟩ := List.pairwise_cons.mp sorted
    unfold insertEntry
    split
    · rename_i before
      refine List.pairwise_cons.mpr ⟨fun entry member => ?_, sorted⟩
      rcases List.mem_cons.mp member with rfl | later
      · exact before
      · exact String.lt_trans before (least entry later)
    · rename_i notBefore
      split
      · rename_i same
        exact List.pairwise_cons.mpr ⟨fun entry member => same ▸ least entry member, tail⟩
      · rename_i different
        have after : head.1 < key :=
          Std.lt_of_le_of_ne (String.not_lt.mp notBefore) (Ne.symm different)
        refine List.pairwise_cons.mpr ⟨fun entry member => ?_, ih tail⟩
        rcases mem_insertEntry member with rfl | later
        · exact after
        · exact least entry later

def empty : Table :=
  ⟨[], .nil⟩

instance : Inhabited Table := ⟨empty⟩

def lookupEntry (key : String) : List (String × String) → Option String
  | [] => none
  | entry :: rest => if key = entry.1 then some entry.2 else lookupEntry key rest

def get? (table : Table) (key : String) : Option String :=
  lookupEntry key table.entries

def contains (table : Table) (key : String) : Bool :=
  (table.get? key).isSome

def insert (table : Table) (key value : String) : Table :=
  ⟨insertEntry key value table.entries, insertEntry_sorted key value table.sorted⟩

def erase (table : Table) (key : String) : Table :=
  ⟨table.entries.filter fun entry => entry.1 != key, table.sorted.filter _⟩

/-- The table of a list of entries, a later entry replacing an earlier one of the same key. -/
def ofList (entries : List (String × String)) : Table :=
  entries.foldl (fun table entry => table.insert entry.1 entry.2) empty

@[simp] theorem get?_empty (key : String) : empty.get? key = none := rfl

theorem lookupEntry_insertEntry (key value other : String) (entries : List (String × String)) :
    lookupEntry other (insertEntry key value entries) =
      if other = key then some value else lookupEntry other entries := by
  induction entries with
  | nil => simp [insertEntry, lookupEntry]
  | cons head rest ih =>
    unfold insertEntry
    split
    · simp [lookupEntry]
    · split
      · rename_i same
        subst same
        by_cases found : other = head.1 <;> simp [lookupEntry, found]
      · rename_i different
        by_cases found : other = head.1
        · have absent : ¬ other = key := fun same => different (same ▸ found)
          simp [lookupEntry, found, Ne.symm different]
        · simp [lookupEntry, found, ih]

theorem get?_insert (table : Table) (key value other : String) :
    (table.insert key value).get? other = if other = key then some value else table.get? other :=
  lookupEntry_insertEntry key value other table.entries

theorem lookupEntry_filter_ne (key other : String) (entries : List (String × String)) :
    lookupEntry other (entries.filter fun entry => entry.1 != key) =
      if other = key then none else lookupEntry other entries := by
  induction entries with
  | nil => simp [lookupEntry]
  | cons head rest ih =>
    by_cases dropped : head.1 = key
    · by_cases found : other = key <;> simp_all [lookupEntry]
    · by_cases found : other = head.1
      · simp [lookupEntry, dropped, found]
      · simp [lookupEntry, dropped, found, ih]

theorem get?_erase (table : Table) (key other : String) :
    (table.erase key).get? other = if other = key then none else table.get? other :=
  lookupEntry_filter_ne key other table.entries

theorem mem_of_lookupEntry {key value : String} {entries : List (String × String)}
    (found : lookupEntry key entries = some value) : (key, value) ∈ entries := by
  induction entries with
  | nil => simp [lookupEntry] at found
  | cons head rest ih =>
    unfold lookupEntry at found
    split at found
    · rename_i same
      subst same
      exact Option.some.inj found ▸ List.mem_cons_self
    · exact List.mem_cons_of_mem _ (ih found)

theorem lookupEntry_of_mem {key value : String} {entries : List (String × String)}
    (sorted : entries.Pairwise fun first second => first.1 < second.1)
    (member : (key, value) ∈ entries) : lookupEntry key entries = some value := by
  induction entries with
  | nil => simp at member
  | cons head rest ih =>
    obtain ⟨least, tail⟩ := List.pairwise_cons.mp sorted
    rcases List.mem_cons.mp member with rfl | later
    · simp [lookupEntry]
    · have different : key ≠ head.1 := fun same =>
        String.lt_irrefl _ (same ▸ least _ later)
      simpa [lookupEntry, different] using ih tail later

theorem get?_eq_some_iff (table : Table) (key value : String) :
    table.get? key = some value ↔ (key, value) ∈ table.entries :=
  ⟨mem_of_lookupEntry, lookupEntry_of_mem table.sorted⟩

/-- Tables that answer every look-up alike are equal: order and number of entries leave no choice. -/
theorem ext_get? {first second : Table} (same : ∀ key, first.get? key = second.get? key) :
    first = second := by
  have members : ∀ entry, entry ∈ first.entries ↔ entry ∈ second.entries := fun entry => by
    rw [← get?_eq_some_iff, ← get?_eq_some_iff, same]
  have entries : first.entries = second.entries := by
    obtain ⟨left, leftSorted⟩ := first
    obtain ⟨right, rightSorted⟩ := second
    simp only at members ⊢
    clear same
    induction left generalizing right with
    | nil => exact (List.eq_nil_iff_forall_not_mem.mpr fun entry member =>
        (List.not_mem_nil ((members entry).mpr member))).symm
    | cons head rest ih =>
      obtain ⟨least, tail⟩ := List.pairwise_cons.mp leftSorted
      cases right with
      | nil => exact absurd ((members head).mp List.mem_cons_self) List.not_mem_nil
      | cons other others =>
        obtain ⟨otherLeast, otherTail⟩ := List.pairwise_cons.mp rightSorted
        -- Either head stands in the other table too, and neither comes before the other.
        have heads : head = other := by
          rcases List.mem_cons.mp ((members head).mp List.mem_cons_self) with same | later
          · exact same
          · rcases List.mem_cons.mp ((members other).mpr List.mem_cons_self) with same | earlier
            · exact same.symm
            · exact absurd (String.lt_trans (otherLeast _ later) (least _ earlier)) (String.lt_irrefl _)
        subst heads
        rw [ih tail others otherTail]
        intro entry
        have outside : ∀ {entries : List (String × String)},
            (∀ later ∈ entries, head.1 < later.1) → entry ∈ entries → entry ≠ head :=
          fun bound member same => String.lt_irrefl _ (same ▸ bound entry member)
        constructor
        · intro member
          exact ((List.mem_cons.mp ((members entry).mp (List.mem_cons_of_mem _ member)))).resolve_left
            (outside least member)
        · intro member
          exact ((List.mem_cons.mp ((members entry).mpr (List.mem_cons_of_mem _ member)))).resolve_left
            (outside otherLeast member)
  cases first
  cases second
  simpa using entries

end Table

end PageUpkeep
