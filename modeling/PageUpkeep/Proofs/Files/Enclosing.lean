import PageUpkeep.Proofs.Files.Writing

/-! What making directories changes, told from the path they are made for.

Nothing but missing directories above the path comes into being, also where it is given up half-way. So
whatever else there is, each file among it, stays as it was.
-/

set_option autoImplicit false

namespace PageUpkeep

/-- A path that is met on the way from a path to its start, by going from parent to parent. -/
inductive Path.Encloses : Path → Path → Prop where
  | parent {outer path : Path} (found : path.parent? = some outer) : Encloses outer path
  | further {outer parent path : Path} (found : path.parent? = some parent)
      (encloses : Encloses outer parent) : Encloses outer path

namespace FileTree

variable {tree between grown : FileTree} {path inner : Path} {place : Place}

/-- Two trees on one disk with the same files and directories, save for directories above a path that the first
one lacks and the second one has. -/
structure AddsAbove (path : Path) (tree grown : FileTree) : Prop where
  nodes : ∀ place, grown.find? place = tree.find? place ∨
    tree.find? place = none ∧ grown.find? place = some .directory ∧
      ∃ outer, outer.Encloses path ∧ grown.locate outer = .ok place
  restrictions : grown.restrictions = tree.restrictions

theorem AddsAbove.refl (path : Path) (tree : FileTree) : AddsAbove path tree tree :=
  ⟨fun _ => .inl rfl, rfl⟩

theorem AddsAbove.keepsDirectories (adds : AddsAbove path tree grown) : KeepsDirectories tree grown := by
  refine ⟨?_, adds.restrictions⟩
  intro place there
  rcases adds.nodes place with same | ⟨missing, _⟩
  · rw [same, there]
  · rw [there] at missing
    cases missing

theorem AddsAbove.trans (first : AddsAbove path tree between) (second : AddsAbove path between grown) :
    AddsAbove path tree grown := by
  refine ⟨?_, second.restrictions.trans first.restrictions⟩
  intro place
  rcases second.nodes place with kept | ⟨missing, made, above⟩
  · rcases first.nodes place with same | ⟨missing, made, outer, encloses, located⟩
    · exact .inl (kept.trans same)
    · -- Where the first made a directory the second still finds it.
      exact .inr ⟨missing, kept.trans made, outer, encloses,
        follow_kept second.keepsDirectories located⟩
  · rcases first.nodes place with same | ⟨_, already, _⟩
    · exact .inr ⟨same ▸ missing, made, above⟩
    · rw [already] at missing
      cases missing

theorem AddsAbove.inside (found : inner.parent? = some path) (adds : AddsAbove path tree grown) :
    AddsAbove inner tree grown := by
  refine ⟨?_, adds.restrictions⟩
  intro place
  rcases adds.nodes place with same | ⟨missing, made, outer, encloses, located⟩
  · exact .inl same
  · exact .inr ⟨missing, made, outer, .further found encloses, located⟩

theorem AddsAbove.find?_file_iff (adds : AddsAbove path tree grown) (place : Place)
    (content : ByteArray) :
    grown.find? place = some (.file content) ↔ tree.find? place = some (.file content) := by
  rcases adds.nodes place with same | ⟨missing, made, _⟩
  · rw [same]
  · rw [missing, made]
    constructor
    · intro file
      cases file
    · intro file
      cases file

theorem find?_put_of_ne {other : Place} (different : other ≠ place) (node : Node) :
    (tree.put place node).find? other = tree.find? other := by
  rw [find?_put, if_neg different]
  split
  · rename_i base
    rw [find?, if_pos base]
  · rfl

theorem addsAbove_makeDirectory (found : inner.parent? = some path)
    (made : tree.makeDirectory path = .ok grown) : AddsAbove inner tree grown := by
  unfold makeDirectory at made
  split at made
  · cases made
  · rename_i place located
    split at made
    · cases made
    · cases made
    · rename_i missing _
      cases made
      have free : tree.find? place ≠ some .directory := by simp [missing]
      refine ⟨?_, rfl⟩
      intro other
      by_cases same : other = place
      · subst same
        exact .inr ⟨missing, find?_put_self free _, path, .parent found,
          follow_kept (keepsDirectories_put free _) located⟩
      · exact .inl (find?_put_of_ne same _)

theorem addsAbove_ensureDirectory (found : inner.parent? = some path) (tree : FileTree) :
    AddsAbove inner tree (tree.ensureDirectory path).1 := by
  unfold ensureDirectory
  split
  · rename_i grown made
    exact addsAbove_makeDirectory found made
  · exact .refl inner tree

/-- Whether or not it succeeds, making a directory and all above it makes nothing else. -/
theorem addsAbove_makeDirectories (found : inner.parent? = some path) (tree : FileTree) :
    AddsAbove inner tree (tree.makeDirectories path).1 := by
  -- Induction on the way up, with the path that the directories are made for going up along with it.
  fun_induction makeDirectories tree path generalizing inner with
  | case1 => exact .refl inner tree
  | case2 => exact .refl inner tree
  | case3 path named missing parent above deeper between made ih =>
    have before := (ih above).inside found
    rw [made] at before
    exact before.trans (addsAbove_ensureDirectory found between)
  | case4 path named missing parent above deeper between fault stuck ih =>
    have before := (ih above).inside found
    rw [stuck] at before
    exact before
  | case5 path named other => exact addsAbove_ensureDirectory found tree

end FileTree

end PageUpkeep
