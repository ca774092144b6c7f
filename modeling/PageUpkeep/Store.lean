import PageUpkeep.Store.File

/-! Stores of texts under keys: one in memory that can be made to fail, one that always fails, and one
in a file. All three are asked and changed in the same two ways, and any call may fail. -/

set_option autoImplicit false

namespace PageUpkeep

/-- A table in memory, with a switch that makes every call fail. -/
structure MemoryStore where
  entries : Table
  failing : Bool
  deriving DecidableEq, Repr

namespace MemoryStore

def ofEntries (entries : List (String × String)) : MemoryStore :=
  ⟨Table.ofList entries, false⟩

def switchedOff : StoreError :=
  .unavailable "memory storage switched off"

def get (store : MemoryStore) (key : String) : Except StoreError (Option String) :=
  if store.failing then .error switchedOff else .ok (store.entries.get? key)

def edit (store : MemoryStore) (edit : Edit) : MemoryStore × Except StoreError Unit :=
  if store.failing then (store, .error switchedOff)
  else ({ store with entries := edit.apply store.entries }, .ok ())

end MemoryStore

inductive Store where
  | memory (store : MemoryStore)
  | unavailable
  | file (store : FileStore)
  deriving DecidableEq

namespace Store

def disabled : StoreError :=
  .unavailable "storage disabled"

def get : Store → String → Except StoreError (Option String)
  | .memory store, key => store.get key
  | .unavailable, _ => .error disabled
  | .file store, key => store.get key

def edit : Store → Edit → Store × Except StoreError Unit
  | .memory store, change => (store.edit change).map .memory id
  | .unavailable, _ => (.unavailable, .error disabled)
  | .file store, change => (store.edit change).map .file id

def set (store : Store) (key value : String) : Store × Except StoreError Unit :=
  store.edit (.set key value)

def remove (store : Store) (key : String) : Store × Except StoreError Unit :=
  store.edit (.remove key)

end Store

end PageUpkeep
