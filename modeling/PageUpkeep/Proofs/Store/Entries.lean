import PageUpkeep.Proofs.Store.CutShort
import PageUpkeep.Store

/-! What is stored, whether or not the store answers just now, and what an edit does to it.

An edit that succeeds changes the entry under its key and no other, and one that fails changes nothing, with two
exceptions. Where the file is cut short all its entries are gone. And where the path leads through a directory that
is missing and back, the directory may be made before the edit fails, so that a file is found that was not
found before.
-/

set_option autoImplicit false

namespace PageUpkeep

namespace Edit

def key : Edit → String
  | .set key _ | .remove key => key

def value? : Edit → Option String
  | .set _ value => some value
  | .remove _ => none

theorem get?_apply (edit : Edit) (table : Table) (other : String) :
    (edit.apply table).get? other = if other = edit.key then edit.value? else table.get? other := by
  cases edit with
  | set key value => exact table.get?_insert key value other
  | remove key => exact table.get?_erase key other

theorem apply_apply {first second : Edit} (apart : first.key ≠ second.key) (table : Table) :
    first.apply (second.apply table) = second.apply (first.apply table) := by
  apply Table.ext_get?
  intro key
  rw [get?_apply, get?_apply, get?_apply, get?_apply]
  by_cases own : key = first.key
  · have other : key ≠ second.key := own ▸ apart
    rw [if_pos own, if_neg other, if_pos own]
  · rw [if_neg own, if_neg own]

theorem apply_apply_of_key {first second : Edit} (same : first.key = second.key) (table : Table) :
    second.apply (first.apply table) = second.apply table := by
  apply Table.ext_get?
  intro key
  rw [get?_apply, get?_apply, get?_apply, same]
  split <;> rfl

end Edit

namespace FileStore

variable {store after : FileStore}

/-- What the file holds under a key; a file that holds no table has no entries. -/
def stored? (store : FileStore) (key : String) : Option String :=
  match store.load with
  | .ok table => table.get? key
  | .error _ => none

theorem stored?_of_load {table : Table} (loaded : store.load = .ok table) (key : String) :
    store.stored? key = table.get? key := by
  rw [stored?, loaded]

theorem stored?_of_unreadable (unreadable : ∀ content, store.files.read store.path ≠ .ok content)
    (key : String) : store.stored? key = none := by
  unfold stored?
  split
  · rename_i table loaded
    rcases read_of_load loaded with ⟨rfl, _⟩ | ⟨content, read⟩
    · rfl
    · exact absurd read (unreadable content)
  · rfl

theorem stored?_of_cutShort {table : Table} {error : StoreError} (cut : store.CutShort table after error)
    (key : String) : after.stored? key = none := by
  unfold stored?
  split
  · rename_i left loaded
    rw [load_of_cutShort cut loaded, Table.get?_empty]
  · rfl

theorem load_of_edit {edit : Edit} (success : store.edit edit = (after, .ok ())) :
    ∃ table, store.load = .ok table ∧ after.load = .ok (edit.apply table) := by
  rcases edit_cases success with ⟨error, _, _, failed⟩ | ⟨table, loaded, idle | saved⟩
  · cases failed
  · -- An edit that writes nothing has nothing to change.
    obtain ⟨idle, rfl, _⟩ := idle
    exact ⟨table, loaded, by rw [Edit.apply_of_isIdle idle, loaded]⟩
  · exact ⟨table, loaded, load_of_save saved.2⟩

theorem stored?_edit {edit : Edit} (success : store.edit edit = (after, .ok ())) (key : String) :
    after.stored? key = if key = edit.key then edit.value? else store.stored? key := by
  obtain ⟨table, loaded, applied⟩ := load_of_edit success
  rw [stored?_of_load applied, stored?_of_load loaded, edit.get?_apply]

/-- The path could not be followed, but leads to a file that was there, once missing directories were made; and
the file cannot be opened to be written. -/
structure Unveils (store after : FileStore) : Prop where
  lost : store.files.locate store.path = .error .notFound
  there : ∃ content, store.files.find? store.path.destination = some (.file content)
  found : after.files.locate store.path = .ok store.path.destination
  locked : after.files.unwritable? store.path.destination ≠ none

theorem stored?_of_lost (lost : store.files.locate store.path = .error .notFound) (key : String) :
    store.stored? key = none := by
  have unread : store.files.read store.path = .error .notFound := by
    rw [FileTree.read, lost]
  apply stored?_of_unreadable
  intro content read
  rw [unread] at read
  cases read

theorem unveils_of_read {content : ByteArray} (missing : store.files.readText store.path = .error .notFound)
    (adds : store.files.AddsAbove store.path after.files)
    (locked : ∀ place, ¬ after.files.Writable store.path place)
    (read : after.files.read store.path = .ok content) : store.Unveils after := by
  obtain ⟨found, _, file, name⟩ := (FileTree.read_eq_ok_iff content).mp read
  have there := (adds.find?_file_iff _ content).mp file
  refine ⟨FileTree.locate_of_missing missing there, ⟨content, there⟩, found, ?_⟩
  intro unlocked
  exact locked _ ⟨name, found, by simp [file], unlocked⟩

theorem stored?_of_refused {table : Table} (loaded : store.load = .ok table) (refused : store.Refused after) :
    (∀ key, after.stored? key = store.stored? key) ∨ store.Unveils after := by
  rcases read_of_load loaded with ⟨rfl, missing⟩ | ⟨content, read⟩
  · -- Nothing was read before, so all depends on whether anything is now.
    by_cases reads : ∃ content, after.files.read store.path = .ok content
    · obtain ⟨content, read⟩ := reads
      cases refused with
      | directories found failed =>
        have led := ((FileTree.read_eq_ok_iff content).mp read).1
        exact absurd led (FileTree.not_located_of_makeDirectories found failed _)
      | file made locked =>
        exact .inr (unveils_of_read missing (addsAbove_of_made made) locked read)
    · refine .inl fun key => ?_
      have path : after.path = store.path := by cases refused <;> rfl
      rw [stored?_of_load loaded, Table.get?_empty]
      exact stored?_of_unreadable (path ▸ not_exists.mp reads) key
  · -- Where the file could be read there was no directory to be made.
    have made := makeParents_of_located ((FileTree.read_eq_ok_iff content).mp read).1
    have same : after = store := by
      cases refused with
      | directories found failed =>
        rw [FileTree.makeDirectories_of_located found ((FileTree.read_eq_ok_iff content).mp read).1] at failed
        cases failed
      | file also _ =>
        rw [made] at also
        cases also
        rfl
    exact .inl fun key => same ▸ rfl

end FileStore

namespace Store

/-- What is stored under a key, seen past the switch of a store in memory. -/
def stored? : Store → String → Option String
  | .memory store, key => store.entries.get? key
  | .unavailable, _ => none
  | .file store, key => store.stored? key

variable {store after : Store} {edit : Edit}

theorem stored?_edit (success : store.edit edit = (after, .ok ())) (key : String) :
    after.stored? key = if key = edit.key then edit.value? else store.stored? key := by
  cases store with
  | memory store =>
    simp only [Store.edit, MemoryStore.edit] at success
    split at success
    · cases success
    · cases success
      exact edit.get?_apply store.entries key
  | unavailable => cases success
  | file store =>
    cases changed : store.edit edit with
    | mk next answer =>
      simp only [Store.edit, changed, Prod.map, id, Prod.mk.injEq] at success
      obtain ⟨rfl, rfl⟩ := success
      exact FileStore.stored?_edit changed key

/-- An edit that fails and yet changes what is found in the store. -/
inductive Mishap (edit : Edit) : Store → Store → Prop where
  | cutShort {store after : FileStore} {table : Table} {error : StoreError}
      (failed : store.edit edit = (after, .error error)) (loaded : store.load = .ok table)
      (cut : store.CutShort (edit.apply table) after error) : Mishap edit (.file store) (.file after)
  | unveiled {store after : FileStore} {error : StoreError} (failed : store.edit edit = (after, .error error))
      (unveils : store.Unveils after) : Mishap edit (.file store) (.file after)

theorem Mishap.stored? (mishap : Mishap edit store after) :
    (∀ key, after.stored? key = none) ∨ ∀ key, store.stored? key = none := by
  cases mishap with
  | cutShort _ _ cut => exact .inl (FileStore.stored?_of_cutShort cut)
  | unveiled _ unveils => exact .inr (FileStore.stored?_of_lost unveils.lost)

theorem stored?_failed_edit {error : StoreError} (failed : store.edit edit = (after, .error error)) :
    (∀ key, after.stored? key = store.stored? key) ∨ Mishap edit store after := by
  cases store with
  | memory store =>
    simp only [Store.edit, MemoryStore.edit] at failed
    split at failed
    · cases failed
      exact .inl fun _ => rfl
    · cases failed
  | unavailable =>
    cases failed
    exact .inl fun _ => rfl
  | file store =>
    cases changed : store.edit edit with
    | mk next answer =>
      simp only [Store.edit, changed, Prod.map, id, Prod.mk.injEq] at failed
      obtain ⟨rfl, rfl⟩ := failed
      rcases FileStore.edit_cases changed with ⟨_, _, rfl, _⟩ | ⟨table, loaded, idle | saved⟩
      · exact .inl fun _ => rfl
      · cases idle.2.2
      · rcases FileStore.save_cases saved.2 with ⟨_, _, _, _, _, _, done⟩ | ⟨_, same, cut | refused⟩
        · cases done
        · cases same
          exact .inr (.cutShort changed loaded cut)
        · -- No file was touched, but a directory that was made may lead to one.
          rcases FileStore.stored?_of_refused loaded refused with same | unveils
          · exact .inl same
          · exact .inr (.unveiled changed unveils)

/-- Whether an edit succeeds or fails, it is felt under its key at most, save for a mishap. -/
theorem stored?_edit_of_ne (store : Store) (edit : Edit) :
    (∀ key, key ≠ edit.key → (store.edit edit).1.stored? key = store.stored? key) ∨
      Mishap edit store (store.edit edit).1 := by
  cases changed : store.edit edit with
  | mk after answer =>
    cases answer with
    | ok _ => exact .inl fun key other => by rw [stored?_edit changed, if_neg other]
    | error error =>
      rcases stored?_failed_edit changed with same | mishap
      · exact .inl fun key _ => same key
      · exact .inr mishap

end Store

end PageUpkeep
