import PageUpkeep.Proofs.Store.Entries
import PageUpkeep.Proofs.Store.Refinement

/-! One text for each table.

A call that writes the file writes all of it anew. Nothing is left of the text that was read before, of its
order, its blanks, its escapes or its repeated keys: what is written depends on the resulting table alone. So
histories that end in writing the same table leave the same bytes, however they came to it.
-/

set_option autoImplicit false

namespace PageUpkeep.FileStore

section

variable {store after : FileStore} {edit : Edit} {table : Table}

/-- A call writes the file if it succeeds and has something to write: a text to set, or an entry that is
there to remove. -/
inductive Writes (store : FileStore) : Edit → FileStore → Prop where
  | set {key value : String} {after : FileStore} (success : store.edit (.set key value) = (after, .ok ())) :
      Writes store (.set key value) after
  | remove {key value : String} {after : FileStore} (present : store.get key = .ok (some value))
      (success : store.edit (.remove key) = (after, .ok ())) : Writes store (.remove key) after

theorem Writes.success (writes : store.Writes edit after) : store.edit edit = (after, .ok ()) := by
  cases writes with
  | set success => exact success
  | remove _ success => exact success

theorem Writes.not_idle (writes : store.Writes edit after) (loaded : store.load = .ok table) :
    edit.isIdle table = false := by
  cases writes with
  | set _ => rfl
  | remove present _ =>
    have found := present
    simp only [get, loaded, Except.map, Except.ok.injEq] at found
    simp [Edit.isIdle, Table.contains, found]

theorem Writes.saves (writes : store.Writes edit after) :
    ∃ table, store.load = .ok table ∧ store.save (edit.apply table) = (after, .ok ()) := by
  rcases edit_cases writes.success with ⟨error, _, _, failed⟩ | ⟨table, loaded, idle | saved⟩
  · cases failed
  · exact absurd idle.1 (Bool.eq_false_iff.mp (writes.not_idle loaded))
  · exact ⟨table, loaded, saved.2⟩

theorem Writes.read (writes : store.Writes edit after) :
    ∃ table, after.load = .ok table ∧ after.files.read after.path = .ok (textOfTable table).toUTF8 := by
  obtain ⟨table, _, saved⟩ := writes.saves
  exact ⟨edit.apply table, load_of_save saved, read_of_save saved⟩

theorem Writes.again (writes : store.Writes edit after) : after.edit edit = (after, .ok ()) := by
  obtain ⟨table, _, saved⟩ := writes.saves
  have loaded := load_of_save saved
  have settled : edit.apply (edit.apply table) = edit.apply table := Edit.apply_apply_of_key rfl table
  cases idle : edit.isIdle (edit.apply table) with
  | true => simp [FileStore.edit, plan, loaded, Except.map, idle, commit]
  | false =>
    simp [FileStore.edit, plan, loaded, Except.map, idle, commit, settled, save_of_save saved]

end

/-- Calls to stores that may be opened on any paths, one after the other, and a last one that is to change
its store. -/
structure History (ι : Type) where
  opened : ι → Path
  files : FileTree
  earlier : List (ι × Call)
  last : ι × Edit

namespace History

variable {ι κ : Type}

def before (history : History ι) : FileStore :=
  ⟨history.opened history.last.1, (runOpened history.opened history.files history.earlier).1⟩

def after (history : History ι) : FileStore :=
  (history.before.edit history.last.2).1

theorem ends_as_memory (history : History ι) {path : Path}
    (same : ∀ handle, history.opened handle = path) {entries : List (String × String)}
    (holds : (FileStore.mk path history.files).Holds entries)
    (writable : (FileStore.mk path history.files).CanBeWritten) :
    history.before.edit history.last.2 = (history.after, .ok ()) ∧
      history.after.load = .ok (history.last.2.apply
        ((MemoryStore.ofEntries entries).run (history.earlier.map Prod.snd)).1.entries) := by
  have alike : (FileStore.mk path history.files).Simulates (MemoryStore.ofEntries entries) :=
    ⟨load_of_holds holds, rfl, writable⟩
  obtain ⟨_, _, still⟩ := alike.run same history.earlier
  rw [← same history.last.1] at still
  obtain ⟨after, success, _, _, ends⟩ := still.edit history.last.2
  have reached : history.after = after := congrArg Prod.fst success
  rw [reached]
  exact ⟨success, ends.entries⟩

end History

/-- What a history leaves in the file that it ends in writing depends on the table alone that the file holds
then: two histories that end in the same table leave the same bytes. These are one text of that table, with
its keys in increasing order and each of them once; and the last call, made again, changes nothing. -/
theorem one_text_per_table {ι κ : Type} (first : History ι) (second : History κ)
    (firstWrites : first.before.Writes first.last.2 first.after)
    (secondWrites : second.before.Writes second.last.2 second.after)
    (same : first.after.load = second.after.load) :
    ∃ table, first.after.load = .ok table ∧
      first.after.files.read first.after.path = .ok (textOfTable table).toUTF8 ∧
      second.after.files.read second.after.path = .ok (textOfTable table).toUTF8 ∧
      Json.TableForm table.entries (textOfTable table).toList ∧
      (table.entries.Pairwise fun earlier later => earlier.1 < later.1) ∧
      first.after.edit first.last.2 = (first.after, .ok ()) := by
  obtain ⟨table, loaded, read⟩ := firstWrites.read
  obtain ⟨other, loadedToo, readToo⟩ := secondWrites.read
  have tables : other = table := by
    rw [loaded, loadedToo] at same
    exact (Except.ok.inj same).symm
  rw [tables] at readToo
  have form : Json.TableForm table.entries (textOfTable table).toList := by
    rw [textOfTable, String.toList_ofList]
    exact Json.tableForm_table table
  exact ⟨table, loaded, read, readToo, form, table.sorted, firstWrites.again⟩

theorem one_text_per_table_of_two_orders :
    let path : Path := ⟨"s", []⟩
    let source := "\x7b\"b\":\"2\", \"a\":\"0\"\x7d"
    let first : History Bool :=
      ⟨fun _ => path, .empty, [(true, .change (.set "a" "1"))], (false, .set "b" "2")⟩
    let second : History Unit :=
      ⟨fun _ => path, FileTree.empty.put ⟨.above 0, ["s"]⟩ (.file source.toUTF8), [], ((), .set "a" "1")⟩
    first.before.Writes (.set "b" "2") first.after ∧ second.before.Writes (.set "a" "1") second.after ∧
      first.after.load = second.after.load ∧
      first.after.files.read first.after.path =
        .ok "\x7b\n  \"a\": \"1\",\n  \"b\": \"2\"\n\x7d".toUTF8 ∧
      second.after.files.read second.after.path =
        .ok "\x7b\n  \"a\": \"1\",\n  \"b\": \"2\"\n\x7d".toUTF8 := by
  intro path source first second
  have located : FileTree.empty.locate ⟨"s", []⟩ = .ok ⟨.above 0, ["s"]⟩ := by rfl
  have absent : FileTree.empty.readText ⟨"s", []⟩ = .error .notFound := by rfl
  have free : FileTree.empty.Writable path ⟨.above 0, ["s"]⟩ := ⟨rfl, located, nofun, rfl⟩
  have makeable : (FileStore.mk path first.files).CanBeWritten := canBeWritten_of_writable free rfl
  have read : second.files.read path = .ok source.toUTF8 := FileTree.read_put free _
  have letter (c : Char) (plain : c ≠ '"' ∧ c ≠ '\\' ∧ Json.isControl c = false) :
      Json.TextForm [c] [c] := by
    simpa using Json.TextForm.cons (.plain plain.1 plain.2.1 plain.2.2) .nil
  have front := @Json.MemberForm.member "b" "2" [] _ [] [] _ [] .nil (.quotes (letter 'b' (by decide))) .nil
    .nil (.quotes (letter '2' (by decide))) .nil
  have back := @Json.MemberForm.member "a" "0" [' '] _ [] [] _ [] (by decide)
    (.quotes (letter 'a' (by decide))) .nil .nil (.quotes (letter '0' (by decide))) .nil
  have form : Json.TableForm [("b", "2"), ("a", "0")] source.toList := by
    simpa [source] using @Json.TableForm.filled _ [] _ [] .nil (.cons front (.last back)) .nil
  obtain ⟨firstDone, firstLoaded⟩ := first.ends_as_memory (fun _ => rfl) (.missing absent) makeable
  obtain ⟨secondDone, secondLoaded⟩ := second.ends_as_memory (fun _ => rfl)
    (.object (FileTree.readText_of_read read) form) (canBeWritten_of_writable (free.put _) rfl)
  have same : first.after.load = second.after.load := by
    rw [firstLoaded, secondLoaded]
    rfl
  have firstWrites : first.before.Writes (.set "b" "2") first.after := .set firstDone
  have secondWrites : second.before.Writes (.set "a" "1") second.after := .set secondDone
  obtain ⟨table, loaded, firstRead, secondRead, _⟩ :=
    one_text_per_table first second firstWrites secondWrites same
  have text : textOfTable table = "\x7b\n  \"a\": \"1\",\n  \"b\": \"2\"\n\x7d" := by
    rw [firstLoaded] at loaded
    rw [← Except.ok.inj loaded]
    decide
  rw [text] at firstRead secondRead
  exact ⟨firstWrites, secondWrites, same, firstRead, secondRead⟩

end PageUpkeep.FileStore
