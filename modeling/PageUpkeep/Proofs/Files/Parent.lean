import PageUpkeep.Files.Tree

/-! Following a path to its parent.

The parent of a path is written in front of it and its steps are taken first, so whoever can follow a path
has been in its parent, and a tree with more directories leads nobody elsewhere.
-/

set_option autoImplicit false

namespace PageUpkeep

namespace Path

variable {path parent : Path}

theorem trimEnd_append (pieces : List String) : ∃ dropped, pieces = trimEnd pieces ++ dropped := by
  obtain ⟨front, split⟩ := @List.dropWhile_suffix _ pieces.reverse isMeaningless
  refine ⟨front.reverse, ?_⟩
  rw [trimEnd, ← List.reverse_append, split, List.reverse_reverse]

theorem trimEnd_eq_concat {pieces : List String} (several : trimEnd pieces ≠ []) :
    ∃ front piece, trimEnd pieces = front ++ [piece] ∧ isMeaningless piece = false := by
  unfold trimEnd at several ⊢
  cases left : pieces.reverse.dropWhile isMeaningless with
  | nil => simp [left] at several
  | cons piece more =>
    refine ⟨more.reverse, piece, by simp, ?_⟩
    have kept := @List.head?_dropWhile_not _ isMeaningless pieces.reverse
    simpa [left] using kept

/-- A path written in front of another one, with fewer steps from the same start. -/
structure Above (parent path : Path) : Prop where
  start : Place.start parent = Place.start path
  steps : ∃ rest, rest ≠ [] ∧ path.steps = parent.steps ++ rest
  text : ∃ rest, path.toString = parent.toString ++ rest

theorem steps_ne_nil {pieces : List String} {piece : String} (member : piece ∈ pieces)
    (named : isMeaningless piece = false) : (pieces.filter fun piece => !piece.isEmpty) ≠ [] := by
  apply List.ne_nil_of_mem
  refine List.mem_filter.mpr ⟨member, ?_⟩
  simp only [isMeaningless, Bool.or_eq_false_iff] at named
  simp [named.1]

theorem above_of_parts {first piece : String} {kept later : List String} (member : piece ∈ later)
    (named : isMeaningless piece = false) (nonempty : ¬ (first.isEmpty && kept.isEmpty) = true) :
    Above ⟨first, kept⟩ ⟨first, kept ++ later⟩ := by
  -- Both begin at the root if the first piece is empty, for then the parent has pieces after it.
  refine ⟨?_, ⟨_, steps_ne_nil member named, ?_⟩, ⟨"/" ++ "/".intercalate later, ?_⟩⟩
  · cases empty : first.isEmpty <;> simp_all [Place.start, isAbsolute]
  · simp only [steps, List.filter_cons, List.filter_append]
    split <;> rfl
  · rw [toString, toString, ← List.cons_append, String.intercalate_append_of_ne_nil
      (List.cons_ne_nil _ _) (List.ne_nil_of_mem member), String.append_assoc]

theorem above_root {piece : String} {later : List String} (member : piece ∈ later)
    (named : isMeaningless piece = false) : Above ⟨"", [""]⟩ ⟨"", later⟩ := by
  have several := List.ne_nil_of_mem member
  refine ⟨?_, ⟨_, steps_ne_nil member named, ?_⟩, ⟨"/".intercalate later, ?_⟩⟩
  · simp [Place.start, isAbsolute, several]
  · simp [steps]
  · rw [toString, String.intercalate_cons_of_ne_nil several]
    rfl

theorem above_of_parent (found : path.parent? = some parent) :
    parent.isEmpty = true ∨ Above parent path := by
  obtain ⟨first, pieces⟩ := path
  unfold parent? at found
  dsimp only at found
  split at found
  · left
    split at found
    · cases found
    · cases found
      rfl
  · right
    rename_i several
    obtain ⟨front, piece, named, meaningful⟩ := trimEnd_eq_concat (mt List.isEmpty_iff.mpr several)
    obtain ⟨beyond, others⟩ := trimEnd_append pieces
    obtain ⟨between, kept⟩ := trimEnd_append front
    simp only [named, List.dropLast_concat, Option.some.injEq] at found
    -- The path goes on after its parent with the last named piece, and perhaps with meaningless ones.
    have parts : pieces = trimEnd front ++ (between ++ (piece :: beyond)) := by
      rw [← List.append_assoc, ← kept, others, named, List.append_assoc, List.singleton_append]
    have member : piece ∈ between ++ (piece :: beyond) := by simp
    subst parts
    split at found
    · rename_i both
      simp only [Bool.and_eq_true, String.isEmpty_iff, List.isEmpty_iff] at both
      rw [← found, both.1, both.2]
      exact above_root member meaningful
    · rename_i nonempty
      rw [← found]
      exact above_of_parts member meaningful nonempty

end Path

namespace FileTree

variable {tree grown : FileTree} {path parent : Path} {place : Place}

/-- What is a directory in one tree is a directory in the other, and the disk allows the same in both. -/
structure KeepsDirectories (tree grown : FileTree) : Prop where
  there : ∀ place, tree.find? place = some .directory → grown.find? place = some .directory
  restrictions : grown.restrictions = tree.restrictions

theorem KeepsDirectories.refl (tree : FileTree) : KeepsDirectories tree tree :=
  ⟨fun _ there => there, rfl⟩

theorem KeepsDirectories.trans {between : FileTree} (first : KeepsDirectories tree between)
    (second : KeepsDirectories between grown) : KeepsDirectories tree grown :=
  ⟨fun place there => second.there place (first.there place there),
    second.restrictions.trans first.restrictions⟩

theorem KeepsDirectories.unreadable? (kept : KeepsDirectories tree grown) (place : Place) :
    grown.unreadable? place = tree.unreadable? place := by
  simp only [FileTree.unreadable?, restriction?, kept.restrictions]

theorem keepsDirectories_put (other : tree.find? place ≠ some .directory) (node : Node) :
    KeepsDirectories tree (tree.put place node) := by
  refine ⟨?_, rfl⟩
  intro inner there
  -- The place that is put was no directory before, so it is another one.
  rw [find?_put]
  split
  · rfl
  · split
    · rename_i same
      exact absurd (same ▸ there) other
    · exact there

theorem names_ne_nil (other : tree.find? place ≠ some .directory) : place.names ≠ [] := by
  intro base
  exact other (by rw [find?, if_pos base])

theorem find?_put_self (other : tree.find? place ≠ some .directory) (node : Node) :
    (tree.put place node).find? place = some node := by
  rw [find?_put, if_neg (names_ne_nil other), if_pos rfl]

theorem enter_eq_ok_iff (step : String) (next : Place) :
    tree.enter place step = .ok next ↔
      tree.unreadable? place = none ∧ tree.find? place = some .directory ∧
        step.utf8ByteSize ≤ nameLimit ∧ place.enter step = next := by
  unfold enter
  split
  · rename_i fault refused
    simp [refused]
  · rename_i missing
    simp [missing]
  · rename_i content file
    simp [file]
  · rename_i readable there
    by_cases long : nameLimit < step.utf8ByteSize
    · simp [there, long, Nat.not_le.mpr long]
    · simp [readable, there, long, Nat.not_lt.mp long]

theorem enter_kept (kept : KeepsDirectories tree grown) {step : String} {next : Place}
    (entered : tree.enter place step = .ok next) : grown.enter place step = .ok next := by
  rw [enter_eq_ok_iff] at entered ⊢
  obtain ⟨readable, there, short⟩ := entered
  exact ⟨(kept.unreadable? place).trans readable, kept.there place there, short⟩

theorem foldlM_enter_cons_iff (step : String) (more : List String) (reached : Place) :
    (step :: more).foldlM tree.enter place = .ok reached ↔
      ∃ next, tree.enter place step = .ok next ∧ more.foldlM tree.enter next = .ok reached := by
  rw [List.foldlM_cons]
  cases tree.enter place step with
  | error fault => simp [bind, Except.bind]
  | ok next => simp [bind, Except.bind]

theorem foldlM_enter_append_iff (front back : List String) (reached : Place) :
    (front ++ back).foldlM tree.enter place = .ok reached ↔
      ∃ middle, front.foldlM tree.enter place = .ok middle ∧
        back.foldlM tree.enter middle = .ok reached := by
  rw [List.foldlM_append]
  cases front.foldlM tree.enter place with
  | error fault => simp [bind, Except.bind]
  | ok middle => simp [bind, Except.bind]

theorem foldlM_enter_kept (kept : KeepsDirectories tree grown) {steps : List String} {reached : Place}
    (followed : steps.foldlM tree.enter place = .ok reached) :
    steps.foldlM grown.enter place = .ok reached := by
  induction steps generalizing place with
  | nil => exact followed
  | cons step more ih =>
    obtain ⟨next, entered, further⟩ := (foldlM_enter_cons_iff step more reached).mp followed
    exact (foldlM_enter_cons_iff step more reached).mpr ⟨next, enter_kept kept entered, ih further⟩

theorem directory_of_foldlM_append {front back : List String} {reached : Place} (further : back ≠ [])
    (followed : (front ++ back).foldlM tree.enter place = .ok reached) :
    ∃ middle, front.foldlM tree.enter place = .ok middle ∧ tree.find? middle = some .directory := by
  obtain ⟨middle, led, rest⟩ := (foldlM_enter_append_iff front back reached).mp followed
  obtain ⟨step, more, rfl⟩ := List.exists_cons_of_ne_nil further
  obtain ⟨next, entered, _⟩ := (foldlM_enter_cons_iff step more reached).mp rest
  exact ⟨middle, led, ((enter_eq_ok_iff step next).mp entered).2.1⟩

theorem follow_eq_ok_iff (steps : List String) (reached : Place) :
    tree.follow path steps = .ok reached ↔
      path.toString.toList.contains '\x00' = false ∧ path.isEmpty = false ∧
        path.toString.utf8ByteSize < pathLimit ∧
        steps.foldlM tree.enter (.start path) = .ok reached := by
  unfold follow
  dsimp only
  cases path.toString.toList.contains '\x00' <;> cases path.isEmpty <;>
    by_cases long : pathLimit ≤ path.toString.utf8ByteSize <;>
    simp [long, Nat.not_le.mp, Nat.not_lt.mpr]

theorem follow_kept (kept : KeepsDirectories tree grown) {steps : List String} {reached : Place}
    (followed : tree.follow path steps = .ok reached) : grown.follow path steps = .ok reached := by
  rw [follow_eq_ok_iff] at followed ⊢
  obtain ⟨clean, named, short, led⟩ := followed
  exact ⟨clean, named, short, foldlM_enter_kept kept led⟩

theorem isDirectory_of_above (above : Path.Above parent path) (named : parent.isEmpty = false)
    {reached : Place} (located : tree.locate path = .ok reached) : tree.isDirectory parent = true := by
  obtain ⟨start, ⟨later, further, steps⟩, ⟨rest, text⟩⟩ := above
  obtain ⟨clean, _, short, led⟩ := (follow_eq_ok_iff _ _).mp located
  rw [steps, ← start] at led
  obtain ⟨middle, followed, there⟩ := directory_of_foldlM_append further led
  -- What is asked of the text of the path holds of the parent's, which stands in front of it.
  rw [text] at clean short
  have cleanParent : parent.toString.toList.contains '\x00' = false := by
    simp only [String.toList_append, List.contains_append, Bool.or_eq_false_iff] at clean
    exact clean.1
  have shortParent : parent.toString.utf8ByteSize < pathLimit := by
    rw [String.utf8ByteSize_append] at short
    omega
  have found : tree.locate parent = .ok middle :=
    (follow_eq_ok_iff _ _).mpr ⟨cleanParent, named, shortParent, followed⟩
  simp [isDirectory, found, there]

end FileTree

end PageUpkeep
