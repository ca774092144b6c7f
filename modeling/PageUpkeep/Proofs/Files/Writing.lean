import PageUpkeep.Proofs.Files.Parent

/-! Writing a file and reading it back, and what stays when directories cannot be made.

A write either changes nothing or has opened the file, which then holds what the disk took of the content. Where
a path leads somewhere the directories above are there already, and where directories cannot be made nothing can
be read below them.
-/

set_option autoImplicit false

namespace PageUpkeep

def Path.destination (path : Path) : Place :=
  path.steps.foldl Place.enter (.start path)

namespace FileTree

variable {tree grown written : FileTree} {path parent : Path} {place : Place} {content : ByteArray}

theorem isDirectory_eq_true_iff :
    tree.isDirectory path = true ↔
      ∃ place, tree.locate path = .ok place ∧ tree.find? place = some .directory := by
  unfold isDirectory
  split
  · rename_i place located
    simp [located]
  · rename_i fault failed
    simp [failed]

theorem foldlM_enter_eq {steps : List String} {reached : Place}
    (followed : steps.foldlM tree.enter place = .ok reached) :
    steps.foldl Place.enter place = reached := by
  induction steps generalizing place with
  | nil => exact Except.ok.inj followed
  | cons step more ih =>
    obtain ⟨next, entered, further⟩ := (foldlM_enter_cons_iff step more reached).mp followed
    obtain ⟨_, _, _, rfl⟩ := (enter_eq_ok_iff step next).mp entered
    exact ih further

theorem destination_of_located (located : tree.locate path = .ok place) : path.destination = place := by
  obtain ⟨_, _, _, led⟩ := (follow_eq_ok_iff _ _).mp located
  exact foldlM_enter_eq led

theorem read_eq_ok_iff (content : ByteArray) :
    tree.read path = .ok content ↔
      tree.locate path = .ok path.destination ∧ tree.unreadable? path.destination = none ∧
        tree.find? path.destination = some (.file content) ∧ path.endsInSlash = false := by
  unfold FileTree.read
  cases located : tree.locate path with
  | error fault => simp
  | ok place =>
    obtain rfl := destination_of_located located
    cases readable : tree.unreadable? path.destination with
    | some fault => simp [readable]
    | none =>
      cases found : tree.find? path.destination with
      | none => simp [readable, found]
      | some node =>
        cases node with
        | directory => simp [readable, found]
        | file bytes => cases slash : path.endsInSlash <;> simp [readable, found]

theorem readText_eq_ok_iff (text : String) :
    tree.readText path = .ok text ↔
      ∃ content, tree.read path = .ok content ∧ String.fromUTF8? content = some text := by
  unfold readText
  cases tree.read path with
  | error fault => simp
  | ok content => cases decoded : String.fromUTF8? content <;> simp [decoded]

theorem readText_of_read {text : String} (read : tree.read path = .ok text.toUTF8) :
    tree.readText path = .ok text := by
  have valid : text.toByteArray.IsValidUTF8 := text.isValidUTF8
  simp [readText, read, String.fromUTF8?, valid, String.fromUTF8]

theorem locate_of_missing (missing : tree.readText path = .error .notFound)
    (there : tree.find? path.destination = some (.file content)) :
    tree.locate path = .error .notFound := by
  have unread : tree.read path = .error .notFound := by
    unfold readText at missing
    split at missing
    · rename_i fault failed
      rw [failed, Except.error.inj missing]
    · split at missing <;> cases missing
  cases located : tree.locate path with
  | error fault => simpa [FileTree.read, located] using unread
  | ok place =>
    obtain rfl := destination_of_located located
    cases readable : tree.unreadable? path.destination with
    | some fault => simp [FileTree.read, located, readable] at unread
    | none => cases slash : path.endsInSlash <;> simp [FileTree.read, located, readable, there, slash] at unread

theorem unreadable?_of_unwritable (allowed : tree.unwritable? place = none) :
    tree.unreadable? place = none := by
  unfold unwritable? at allowed
  unfold unreadable?
  cases found : tree.restriction? place with
  | none => rfl
  | some restriction =>
    rw [found] at allowed
    cases restriction with
    | closed fault => cases allowed
    | fixed fault => rfl
    | narrow room fault => rfl

/-- A path leads to a place where a file can be opened to be written, be it there or not. -/
structure Writable (tree : FileTree) (path : Path) (place : Place) : Prop where
  name : path.endsInSlash = false
  located : tree.locate path = .ok place
  free : tree.find? place ≠ some .directory
  allowed : tree.unwritable? place = none

theorem fill_cases (tree : FileTree) (place : Place) (content : ByteArray) :
    tree.fill place content = (content, .ok ()) ∨
      ∃ room fault, tree.restriction? place = some (.narrow room fault) ∧ room < content.size ∧
        tree.fill place content = (content.extract 0 room, .error (.disk fault)) := by
  unfold fill
  split
  · rename_i room fault found
    by_cases tight : room < content.size
    · exact .inr ⟨room, fault, found, tight, if_pos tight⟩
    · exact .inl (if_neg tight)
  · exact .inl rfl

theorem fill_of_unrestricted (free : tree.restriction? place = none) (content : ByteArray) :
    tree.fill place content = (content, .ok ()) := by
  rw [fill, free]

theorem write_of_writable (writable : tree.Writable path place) (content : ByteArray) :
    tree.write path content =
      (tree.put place (.file (tree.fill place content).1), (tree.fill place content).2) := by
  have located : tree.follow path path.steps = .ok place := writable.located
  have free := writable.free
  simp only [write, writable.name, Bool.false_eq_true, if_false, located, writable.allowed]

theorem directory_of_last_dot {steps : List String}
    (followed : tree.follow path (steps ++ ["."]) = .ok place) : tree.find? place = some .directory := by
  have led := ((follow_eq_ok_iff _ _).mp followed).2.2.2
  obtain ⟨middle, _, last⟩ := (foldlM_enter_append_iff steps ["."] place).mp led
  obtain ⟨next, entered, stopped⟩ := (foldlM_enter_cons_iff "." [] place).mp last
  obtain ⟨_, there, _, same⟩ := (enter_eq_ok_iff "." next).mp entered
  cases stopped
  exact same ▸ there

theorem located_of_follow (free : tree.find? place ≠ some .directory)
    (followed : tree.follow path
      (if path.endsInSlash then path.steps.dropLast ++ ["."] else path.steps) = .ok place) :
    path.endsInSlash = false ∧ tree.locate path = .ok place := by
  cases slash : path.endsInSlash with
  | true =>
    -- Behind a slash the last step is a dot, and only a directory lets it be taken.
    rw [if_pos slash] at followed
    exact absurd (directory_of_last_dot followed) free
  | false =>
    rw [slash] at followed
    exact ⟨rfl, followed⟩

theorem write_of_not_writable (locked : ∀ place, ¬ tree.Writable path place) (content : ByteArray) :
    ∃ fault, tree.write path content = (tree, .error fault) := by
  unfold write
  split
  · exact ⟨_, rfl⟩
  · rename_i place followed
    split
    · exact ⟨_, rfl⟩
    · exact ⟨_, rfl⟩
    · rename_i allowed directory
      obtain ⟨name, located⟩ := located_of_follow directory followed
      exact absurd ⟨name, located, directory, allowed⟩ (locked place)

theorem writable_of_write (success : tree.write path content = (written, .ok ())) :
    ∃ place, tree.Writable path place ∧ tree.fill place content = (content, .ok ()) ∧
      written = tree.put place (.file content) := by
  by_cases opens : ∃ place, tree.Writable path place
  · obtain ⟨place, writable⟩ := opens
    rw [write_of_writable writable] at success
    rcases tree.fill_cases place content with whole | ⟨_, _, _, _, cut⟩
    · rw [whole] at success
      cases success
      exact ⟨place, writable, whole, rfl⟩
    · rw [cut] at success
      cases success
  · obtain ⟨fault, failed⟩ := write_of_not_writable (not_exists.mp opens) content
    rw [failed] at success
    cases success

theorem Writable.put (writable : tree.Writable path place) (content : ByteArray) :
    (tree.put place (.file content)).Writable path place where
  name := writable.name
  located := follow_kept (keepsDirectories_put writable.free _) writable.located
  free := by simp [find?_put_self writable.free]
  allowed := writable.allowed

theorem read_put (writable : tree.Writable path place) (content : ByteArray) :
    (tree.put place (.file content)).read path = .ok content := by
  have there := writable.put content
  obtain rfl := destination_of_located there.located
  exact (read_eq_ok_iff content).mpr ⟨there.located, unreadable?_of_unwritable there.allowed,
    find?_put_self writable.free _, writable.name⟩

theorem putNode_putNode (place : Place) (first second : Node) (nodes : List (Place × Node)) :
    putNode place second (putNode place first nodes) = putNode place second nodes := by
  induction nodes with
  | nil => simp [putNode]
  | cons entry rest ih =>
    by_cases same : place = entry.1
    · simp [putNode, same]
    · simp [putNode, same, ih]

theorem put_put (tree : FileTree) (place : Place) (first second : Node) :
    (tree.put place first).put place second = tree.put place second :=
  congrArg (fun nodes => { tree with nodes }) (putNode_putNode place first second tree.nodes)

/-! ## Making directories -/

theorem makeDirectory_of_isDirectory (there : tree.isDirectory path = true) :
    tree.makeDirectory path = .error .alreadyExists := by
  obtain ⟨place, located, found⟩ := isDirectory_eq_true_iff.mp there
  simp [makeDirectory, located, found]

theorem ensureDirectory_of_isDirectory (there : tree.isDirectory path = true) :
    tree.ensureDirectory path = (tree, .ok ()) := by
  simp [ensureDirectory, makeDirectory_of_isDirectory there, there]

theorem makeDirectories_of_isDirectory (there : tree.isDirectory path = true) :
    tree.makeDirectories path = (tree, .ok ()) := by
  rw [makeDirectories, makeDirectory_of_isDirectory there, ensureDirectory_of_isDirectory there]
  simp

theorem makeDirectories_of_isEmpty (empty : path.isEmpty = true) :
    tree.makeDirectories path = (tree, .ok ()) := by
  rw [makeDirectories, if_pos empty]

theorem makeDirectories_of_located (found : path.parent? = some parent)
    (located : tree.locate path = .ok place) : tree.makeDirectories parent = (tree, .ok ()) := by
  cases empty : parent.isEmpty with
  | true => exact makeDirectories_of_isEmpty empty
  | false =>
    have above := (Path.above_of_parent found).resolve_left (by simp [empty])
    exact makeDirectories_of_isDirectory (isDirectory_of_above above empty located)

theorem isDirectory_of_ensureDirectory {fault : FileFault}
    (failed : tree.ensureDirectory path = (grown, .error fault)) : grown.isDirectory path = false := by
  unfold ensureDirectory at failed
  split at failed
  · cases failed
  · obtain ⟨rfl, answer⟩ := Prod.mk.inj failed
    split at answer
    · cases answer
    · rename_i missing
      exact Bool.eq_false_iff.mpr missing

theorem isEmpty_of_makeDirectories {fault : FileFault}
    (failed : tree.makeDirectories path = (grown, .error fault)) : path.isEmpty = false := by
  cases empty : path.isEmpty with
  | false => rfl
  | true =>
    rw [makeDirectories_of_isEmpty empty] at failed
    cases failed

theorem not_located_of_missing (found : path.parent? = some parent) (named : parent.isEmpty = false)
    (missing : tree.isDirectory parent = false) (place : Place) : tree.locate path ≠ .ok place := by
  intro located
  have above := (Path.above_of_parent found).resolve_left (by simp [named])
  rw [isDirectory_of_above above named located] at missing
  cases missing

theorem isDirectory_of_makeDirectories {fault : FileFault}
    (failed : tree.makeDirectories path = (grown, .error fault)) : grown.isDirectory path = false := by
  -- Induction on the way up: what failed first failed for want of a directory, and so did all below it.
  fun_induction makeDirectories tree path with
  | case1 => cases failed
  | case2 path named missing alone =>
    cases failed
    apply Bool.eq_false_iff.mpr
    intro there
    rw [makeDirectory_of_isDirectory there] at missing
    cases missing
  | case3 path named missing parent above deeper between made ih =>
    exact isDirectory_of_ensureDirectory failed
  | case4 path named missing parent above deeper between fault stuck ih =>
    -- A directory here would have its parent above it, which is what could not be made.
    cases failed
    apply Bool.eq_false_iff.mpr
    intro there
    obtain ⟨place, located, _⟩ := isDirectory_eq_true_iff.mp there
    exact not_located_of_missing above (isEmpty_of_makeDirectories stuck) (ih stuck) place located
  | case5 path named other => exact isDirectory_of_ensureDirectory failed

theorem not_located_of_makeDirectories {fault : FileFault} (found : path.parent? = some parent)
    (failed : tree.makeDirectories parent = (grown, .error fault)) (place : Place) :
    grown.locate path ≠ .ok place :=
  not_located_of_missing found (isEmpty_of_makeDirectories failed)
    (isDirectory_of_makeDirectories failed) place

end FileTree

end PageUpkeep
