/-! Paths as texts, and their parents.

A path is kept as the pieces between its slashes, so that it is printed as it was written. Empty
pieces and single dots mean nothing after the first piece; a parent is what is left without the last
piece that means something.
-/

set_option autoImplicit false

namespace PageUpkeep

/-- The pieces of a path between slashes. An empty first piece before others is the root. -/
structure Path where
  first : String
  others : List String
  deriving DecidableEq, Repr

namespace Path

def ofString (path : String) : Path :=
  match path.toList.splitOnP (· == '/') with
  | [] => ⟨"", []⟩
  | first :: others => ⟨String.ofList first, others.map String.ofList⟩

def toString (path : Path) : String :=
  "/".intercalate (path.first :: path.others)

def isEmpty (path : Path) : Bool :=
  path.first.isEmpty && path.others.isEmpty

def isMeaningless (piece : String) : Bool :=
  piece.isEmpty || piece == "."

def trimEnd (pieces : List String) : List String :=
  (pieces.reverse.dropWhile isMeaningless).reverse

theorem length_trimEnd_le (pieces : List String) : (trimEnd pieces).length ≤ pieces.length := by
  have bound := (@List.dropWhile_sublist _ pieces.reverse isMeaningless).length_le
  simpa [trimEnd] using bound

/-- The path that holds what a path names: the empty path for a single piece, and none for the root
and for the empty path itself. -/
def parent? (path : Path) : Option Path :=
  let named := trimEnd path.others
  if named.isEmpty then
    if path.first.isEmpty then none else some ⟨"", []⟩
  else
    let kept := trimEnd named.dropLast
    some (if path.first.isEmpty && kept.isEmpty then ⟨"", [""]⟩ else ⟨path.first, kept⟩)

def depth (path : Path) : Nat :=
  2 * (trimEnd path.others).length + if path.first.isEmpty then 0 else 1

theorem trimEnd_trimEnd (pieces : List String) : trimEnd (trimEnd pieces) = trimEnd pieces := by
  have idem : ∀ reversed : List String,
      (reversed.dropWhile isMeaningless).dropWhile isMeaningless = reversed.dropWhile isMeaningless := by
    intro reversed
    induction reversed with
    | nil => rfl
    | cons piece more ih =>
      by_cases meaningless : isMeaningless piece <;> simp [meaningless, ih]
  simp [trimEnd, idem]

theorem depth_parent {path parent : Path} (found : path.parent? = some parent) :
    parent.depth < path.depth := by
  unfold parent? at found
  dsimp only at found
  split at found
  · rename_i single
    split at found
    · simp at found
    · rename_i named
      simp only [Option.some.injEq] at found
      rw [← found]
      simp [depth, trimEnd, named]
  · rename_i several
    simp only [Option.some.injEq] at found
    have positive : 0 < (trimEnd path.others).length := by
      cases pieces : trimEnd path.others with
      | nil => simp [pieces] at several
      | cons piece more => simp
    have dropped : (trimEnd (trimEnd path.others).dropLast).length < (trimEnd path.others).length := by
      have := length_trimEnd_le (trimEnd path.others).dropLast
      rw [List.length_dropLast] at this
      omega
    rw [← found]
    -- What is left behind the root alone is the root, which has no depth but its own.
    split
    · simp only [depth]
      have : trimEnd [""] = [] := by decide
      rw [this]
      simp only [List.length_nil]
      have : ("" : String).isEmpty = true := by decide
      rw [this]
      simp only [if_true]
      omega
    · simp only [depth, trimEnd_trimEnd]
      omega

def isAbsolute (path : Path) : Bool :=
  path.first.isEmpty && !path.others.isEmpty

def steps (path : Path) : List String :=
  (path.first :: path.others).filter fun piece => !piece.isEmpty

def endsInSlash (path : Path) : Bool :=
  path.others.getLast? == some ""

end Path

end PageUpkeep
