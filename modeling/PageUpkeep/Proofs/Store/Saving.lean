import PageUpkeep.Proofs.Files.Enclosing
import PageUpkeep.Proofs.Json.TableForm
import PageUpkeep.Store.File

/-! What comes of a save to a store in a file, and of an edit.

A save that succeeds is read back. One that fails either has touched no file, or was broken off while the file was
written; then the file holds the first bytes of its new text.
-/

set_option autoImplicit false

namespace PageUpkeep

theorem Edit.apply_of_isIdle {edit : Edit} {table : Table} (idle : edit.isIdle table = true) :
    edit.apply table = table := by
  cases edit with
  | set key value => cases idle
  | remove key =>
    have absent : table.get? key = none := by simpa [isIdle, Table.contains] using idle
    apply Table.ext_get?
    intro other
    rw [apply, Table.get?_erase]
    split
    · rename_i same
      rw [same, absent]
    · rfl

namespace Table

theorem get?_foldl_insert {entries : List (String × String)}
    (sorted : entries.Pairwise fun first second => first.1 < second.1) (table : Table) (key : String) :
    (entries.foldl (fun table entry => table.insert entry.1 entry.2) table).get? key =
      (lookupEntry key entries).or (table.get? key) := by
  induction entries generalizing table with
  | nil => rfl
  | cons entry rest ih =>
    obtain ⟨least, tail⟩ := List.pairwise_cons.mp sorted
    rw [List.foldl_cons, ih tail, get?_insert]
    by_cases same : key = entry.1
    · subst same
      -- No later entry has this key, for all later keys are greater.
      have once : lookupEntry entry.1 rest = none := by
        cases found : lookupEntry entry.1 rest with
        | none => rfl
        | some value =>
          have later := least _ (mem_of_lookupEntry found)
          exact absurd later (String.lt_irrefl _)
      simp [once, lookupEntry]
    · simp [same, lookupEntry]

theorem ofList_entries (table : Table) : ofList table.entries = table := by
  apply ext_get?
  intro key
  rw [ofList, get?_foldl_insert table.sorted, get?_empty, Option.or_none]
  rfl

end Table

namespace FileStore

variable {store saved : FileStore} {table : Table}

theorem tableOfText_of_form {entries : List (String × String)} {content : String}
    (form : Json.TableForm entries content.toList) : tableOfText content = .ok (Table.ofList entries) := by
  have notBlank : ¬ Text.isBlankText content.toList = true := by
    intro blank
    have brace := List.all_eq_true.mp blank _ (Json.brace_mem_of_tableForm form)
    exact absurd brace (by decide)
  rw [tableOfText, if_neg notBlank, Json.readAll_of_form form]

theorem tableOfText_textOfTable (table : Table) : tableOfText (textOfTable table) = .ok table := by
  have form := Json.tableForm_table table
  rw [← @String.toList_ofList (Json.table table)] at form
  rw [textOfTable, tableOfText_of_form form, Table.ofList_entries]

theorem load_of_text {content : String} (read : store.files.readText store.path = .ok content)
    (meant : tableOfText content = .ok table) : store.load = .ok table := by
  simp [load, read, meant]

theorem load_of_missing (missing : store.files.readText store.path = .error .notFound) :
    store.load = .ok .empty := by
  simp [load, missing]

theorem read_of_load (loaded : store.load = .ok table) :
    (table = .empty ∧ store.files.readText store.path = .error .notFound) ∨
      ∃ content, store.files.read store.path = .ok content := by
  unfold load at loaded
  split at loaded
  · rename_i missing
    cases loaded
    exact .inl ⟨rfl, missing⟩
  · cases loaded
  · rename_i text read
    obtain ⟨content, found, _⟩ := (FileTree.readText_eq_ok_iff text).mp read
    exact .inr ⟨content, found⟩

theorem addsAbove_makeParents (store : FileStore) :
    store.files.AddsAbove store.path store.makeParents.1 := by
  unfold makeParents
  split
  · exact .refl _ _
  · rename_i parent found
    have adds := FileTree.addsAbove_makeDirectories found store.files
    split
    · rename_i grown made
      rw [made] at adds
      exact adds
    · rename_i grown fault stuck
      rw [stuck] at adds
      exact adds

theorem addsAbove_of_made {grown : FileTree} {answer : Except StoreError Unit}
    (made : store.makeParents = (grown, answer)) : store.files.AddsAbove store.path grown := by
  have adds := addsAbove_makeParents store
  rw [made] at adds
  exact adds

theorem makeParents_of_located {place : Place} (located : store.files.locate store.path = .ok place) :
    store.makeParents = (store.files, .ok ()) := by
  unfold makeParents
  split
  · rfl
  · rename_i parent found
    rw [FileTree.makeDirectories_of_located found located]

theorem path_save (store : FileStore) (table : Table) : (store.save table).1.path = store.path := by
  unfold save
  split <;> rfl

variable {grown : FileTree} {place : Place}

theorem save_of_made (made : store.makeParents = (grown, .ok ())) (writable : grown.Writable store.path place)
    (table : Table) :
    store.save table =
      (⟨store.path, grown.put place (.file (grown.fill place (textOfTable table).toUTF8).1)⟩,
        (grown.fill place (textOfTable table).toUTF8).2.mapError (.file store.path.toString)) := by
  rw [save, made]
  simp only [FileTree.write_of_writable writable]

/-- A save that is broken off while the file is written: the place is too narrow for the new text of the file. -/
inductive CutShort (store : FileStore) (table : Table) : FileStore → StoreError → Prop where
  | cut {grown : FileTree} {place : Place} {room : Nat} {fault : DiskFault}
      (made : store.makeParents = (grown, .ok ())) (writable : grown.Writable store.path place)
      (narrow : grown.restriction? place = some (.narrow room fault))
      (tight : room < (textOfTable table).toUTF8.size) :
      CutShort store table
        ⟨store.path, grown.put place (.file ((textOfTable table).toUTF8.extract 0 room))⟩
        (.file store.path.toString (.disk fault))

/-- A save that gives up before the file is opened: the directories above it could not be made, or it cannot be
opened with them. -/
inductive Refused (store : FileStore) : FileStore → Prop where
  | directories {parent : Path} {grown : FileTree} {fault : FileFault}
      (found : store.path.parent? = some parent)
      (failed : store.files.makeDirectories parent = (grown, .error fault)) :
      Refused store ⟨store.path, grown⟩
  | file {grown : FileTree} (made : store.makeParents = (grown, .ok ()))
      (locked : ∀ place, ¬ grown.Writable store.path place) :
      Refused store ⟨store.path, grown⟩

/-- All that a save can come to. -/
theorem save_cases {answer : Except StoreError Unit} (tried : store.save table = (saved, answer)) :
    (∃ grown place, store.makeParents = (grown, .ok ()) ∧ grown.Writable store.path place ∧
        grown.fill place (textOfTable table).toUTF8 = ((textOfTable table).toUTF8, .ok ()) ∧
        saved = ⟨store.path, grown.put place (.file (textOfTable table).toUTF8)⟩ ∧ answer = .ok ()) ∨
      ∃ error, answer = .error error ∧ (store.CutShort table saved error ∨ store.Refused saved) := by
  cases made : store.makeParents with
  | mk grown outcome =>
    cases outcome with
    | error error =>
      rw [save, made] at tried
      cases tried
      refine .inr ⟨error, rfl, .inr ?_⟩
      unfold makeParents at made
      split at made
      · cases made
      · rename_i parent found
        split at made
        · cases made
        · rename_i between fault failed
          cases made
          exact .directories found failed
    | ok done =>
      by_cases opens : ∃ place, grown.Writable store.path place
      · obtain ⟨place, writable⟩ := opens
        rw [save_of_made made writable] at tried
        rcases grown.fill_cases place (textOfTable table).toUTF8 with whole | ⟨room, fault, narrow, tight, cut⟩
        · rw [whole] at tried
          cases tried
          exact .inl ⟨grown, place, rfl, writable, whole, rfl, rfl⟩
        · rw [cut] at tried
          cases tried
          exact .inr ⟨_, rfl, .inl (.cut made writable narrow tight)⟩
      · have locked := not_exists.mp opens
        obtain ⟨fault, failed⟩ := FileTree.write_of_not_writable locked (textOfTable table).toUTF8
        rw [save, made] at tried
        simp only [failed] at tried
        cases tried
        exact .inr ⟨_, rfl, .inr (.file made locked)⟩

theorem eq_of_save (success : store.save table = (saved, .ok ())) :
    ∃ grown place, store.makeParents = (grown, .ok ()) ∧ grown.Writable store.path place ∧
      grown.fill place (textOfTable table).toUTF8 = ((textOfTable table).toUTF8, .ok ()) ∧
      saved = ⟨store.path, grown.put place (.file (textOfTable table).toUTF8)⟩ := by
  rcases save_cases success with ⟨grown, place, made, writable, whole, same, _⟩ | ⟨_, failed, _⟩
  · exact ⟨grown, place, made, writable, whole, same⟩
  · cases failed

theorem read_of_save (success : store.save table = (saved, .ok ())) :
    saved.files.read saved.path = .ok (textOfTable table).toUTF8 := by
  obtain ⟨grown, place, _, writable, _, rfl⟩ := eq_of_save success
  exact FileTree.read_put writable _

theorem load_of_save (success : store.save table = (saved, .ok ())) : saved.load = .ok table :=
  load_of_text (FileTree.readText_of_read (read_of_save success)) (tableOfText_textOfTable table)

theorem save_of_save (success : store.save table = (saved, .ok ())) :
    saved.save table = (saved, .ok ()) := by
  obtain ⟨grown, place, _, writable, whole, rfl⟩ := eq_of_save success
  have again : (grown.put place (.file (textOfTable table).toUTF8)).fill place (textOfTable table).toUTF8 =
      ((textOfTable table).toUTF8, .ok ()) := whole
  have still := writable.put (textOfTable table).toUTF8
  rw [save_of_made (makeParents_of_located still.located) still]
  simp only [again, FileTree.put_put]
  rfl

/-- The directories above the file can be made, and then any content can be written. -/
def CanBeWritten (store : FileStore) : Prop :=
  ∃ grown, store.makeParents = (grown, .ok ()) ∧ ∀ content, (grown.write store.path content).2 = .ok ()

theorem canBeWritten_iff :
    store.CanBeWritten ↔ ∃ grown place, store.makeParents = (grown, .ok ()) ∧
      grown.Writable store.path place ∧ ∀ content, grown.fill place content = (content, .ok ()) := by
  constructor
  · rintro ⟨grown, made, writes⟩
    obtain ⟨place, writable, _⟩ := FileTree.writable_of_write (Prod.ext rfl (writes .empty))
    refine ⟨grown, place, made, writable, ?_⟩
    intro content
    obtain ⟨other, also, whole, _⟩ := FileTree.writable_of_write (Prod.ext rfl (writes content))
    -- A path leads to one place.
    obtain rfl : other = place := Except.ok.inj (also.located.symm.trans writable.located)
    exact whole
  · rintro ⟨grown, place, made, writable, roomy⟩
    refine ⟨grown, made, ?_⟩
    intro content
    rw [FileTree.write_of_writable writable, roomy]

theorem canBeWritten_of_writable (writable : store.files.Writable store.path place)
    (free : store.files.restriction? place = none) : store.CanBeWritten :=
  canBeWritten_iff.mpr ⟨store.files, place, makeParents_of_located writable.located, writable,
    FileTree.fill_of_unrestricted free⟩

theorem save_of_canBeWritten (writable : store.CanBeWritten) (table : Table) :
    ∃ saved, store.save table = (saved, .ok ()) ∧ saved.CanBeWritten := by
  obtain ⟨grown, place, made, opens, roomy⟩ := canBeWritten_iff.mp writable
  have saved := save_of_made made opens table
  rw [roomy] at saved
  have still := opens.put (textOfTable table).toUTF8
  exact ⟨_, saved, canBeWritten_iff.mpr ⟨_, place, makeParents_of_located still.located, still, roomy⟩⟩

/-- All that an edit can come to: the file cannot be loaded, there is nothing to write, or the edited table
is saved. -/
theorem edit_cases {edit : Edit} {after : FileStore} {answer : Except StoreError Unit}
    (changed : store.edit edit = (after, answer)) :
    (∃ error, store.load = .error error ∧ after = store ∧ answer = .error error) ∨
      ∃ table, store.load = .ok table ∧
        (edit.isIdle table = true ∧ after = store ∧ answer = .ok () ∨
          edit.isIdle table = false ∧ store.save (edit.apply table) = (after, answer)) := by
  unfold FileStore.edit plan at changed
  cases loaded : store.load with
  | error error =>
    rw [loaded] at changed
    cases changed
    exact .inl ⟨error, rfl, rfl, rfl⟩
  | ok table =>
    rw [loaded] at changed
    cases idle : edit.isIdle table with
    | true =>
      simp only [Except.map, idle, commit, if_true] at changed
      cases changed
      exact .inr ⟨table, rfl, .inl ⟨idle, rfl, rfl⟩⟩
    | false =>
      simp only [Except.map, idle, commit] at changed
      exact .inr ⟨table, rfl, .inr ⟨idle, changed⟩⟩

end FileStore

end PageUpkeep
