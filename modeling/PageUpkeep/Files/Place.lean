import PageUpkeep.Files.Path

/-! Places of files: where a path begins, and the names from there on.

How deep the working directory lies under the root is not known. The directories above it are therefore
counted from it, and no place that is found by them is taken for one that is found from the root.
-/

set_option autoImplicit false

namespace PageUpkeep

inductive Base where
  | root
  /-- The directory that is a number of levels above the working directory. -/
  | above (levels : Nat)
  deriving DecidableEq, Repr

structure Place where
  base : Base
  names : List String
  deriving DecidableEq, Repr

namespace Place

def working : Place :=
  ⟨.above 0, []⟩

def start (path : Path) : Place :=
  if path.isAbsolute then ⟨.root, []⟩ else working

def child (place : Place) (name : String) : Place :=
  { place with names := place.names ++ [name] }

def parent (place : Place) : Place :=
  match place.names, place.base with
  | [], .root => place
  | [], .above levels => ⟨.above (levels + 1), []⟩
  | names, base => ⟨base, names.dropLast⟩

def enter (place : Place) (step : String) : Place :=
  if step = "." then place else if step = ".." then place.parent else place.child step

def isUnder (place other : Place) : Bool :=
  place.base == other.base && other.names.isPrefixOf place.names

end Place

end PageUpkeep
