import PageUpkeep.Files.Tree
import PageUpkeep.Json.Fault

/-! Why a store cannot answer. -/

set_option autoImplicit false

namespace PageUpkeep

inductive StoreError where
  /-- The store is disabled or out of reach here. -/
  | unavailable (reason : String)
  /-- A file or a directory above it could not be read or written. -/
  | file (path : String) (fault : FileFault)
  /-- A file does not hold a table of texts. -/
  | malformed (path : String) (error : Json.Error)
  /-- The store refused the operation. -/
  | refused (reason : String)
  deriving DecidableEq, Repr

namespace StoreError

def cause? : StoreError → Option String
  | .file _ fault => some fault.message
  | .malformed _ error => some error.message
  | .unavailable _ | .refused _ => none

def message : StoreError → String
  | .unavailable reason => "storage is unavailable: " ++ reason
  | .file path fault => "storage file " ++ path ++ ": " ++ fault.message
  | .malformed path error => "storage file " ++ path ++ " is malformed: " ++ error.message
  | .refused reason => "storage backend error: " ++ reason

end StoreError

end PageUpkeep
