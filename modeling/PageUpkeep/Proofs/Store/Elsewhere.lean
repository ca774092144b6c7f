import PageUpkeep.Proofs.Store.Sparing

/-! What is read along a path that leads elsewhere.

Where a path leads is told from its steps alone; a tree only says whether it can be followed there. So a path
that leads to another file than that of a store is never led there, whatever directories the store makes, and
what is read along it stays.
-/

set_option autoImplicit false

namespace PageUpkeep

namespace FileTree

variable {tree between after : FileTree} {path : Path} {place : Place}

/-- Two trees, of which the second has all the directories of the first, and the same files but for one. -/
structure WritesAt (place : Place) (tree after : FileTree) : Prop where
  directories : KeepsDirectories tree after
  files : ∀ other, other ≠ place → ∀ content,
    after.find? other = some (.file content) ↔ tree.find? other = some (.file content)

namespace WritesAt

theorem refl (place : Place) (tree : FileTree) : WritesAt place tree tree :=
  ⟨.refl tree, fun _ _ _ => Iff.rfl⟩

theorem trans (first : WritesAt place tree between) (second : WritesAt place between after) :
    WritesAt place tree after where
  directories := first.directories.trans second.directories
  files other elsewhere content :=
    (second.files other elsewhere content).trans (first.files other elsewhere content)

theorem readText_iff (writes : WritesAt place tree after) (elsewhere : path.destination ≠ place)
    (located : tree.locate path = .ok path.destination) (text : String) :
    after.readText path = .ok text ↔ tree.readText path = .ok text := by
  have still : after.locate path = .ok path.destination := follow_kept writes.directories located
  have readable := writes.directories.unreadable? path.destination
  simp only [readText_eq_ok_iff, read_eq_ok_iff, writes.files _ elsewhere, located, still, readable]

theorem readText (writes : WritesAt place tree after) (elsewhere : path.destination ≠ place) {text : String}
    (read : tree.readText path = .ok text) : after.readText path = .ok text := by
  obtain ⟨content, found, _⟩ := (readText_eq_ok_iff text).mp read
  exact (writes.readText_iff elsewhere ((read_eq_ok_iff content).mp found).1 text).mpr read

end WritesAt

end FileTree

/-- Whatever comes of an edit, it writes at most the one file that the path of the store leads to. -/
theorem FileStore.writesAt_of_edit {store after : FileStore} {edit : Edit} {answer : Except StoreError Unit}
    (changed : store.edit edit = (after, answer)) :
    store.files.WritesAt store.path.destination after.files := by
  refine ⟨?_, ?_⟩
  · rcases edit_cases changed with ⟨_, _, rfl, _⟩ | ⟨table, _, ⟨_, rfl, _⟩ | ⟨_, saved⟩⟩
    · exact .refl _
    · exact .refl _
    · rcases refused_or_put saved with refused | ⟨grown, place, content, made, writable, rfl⟩
      · exact (addsAbove_of_refused refused).keepsDirectories
      · exact (addsAbove_of_made made).keepsDirectories.trans
          (FileTree.keepsDirectories_put writable.free _)
  · intro other elsewhere content
    refine find?_file_of_edit changed ?_ content
    intro located
    exact elsewhere (FileTree.destination_of_located located).symm

end PageUpkeep
