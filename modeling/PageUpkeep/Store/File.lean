import PageUpkeep.Json.Printer
import PageUpkeep.Json.Reader
import PageUpkeep.Store.Error
import PageUpkeep.Text.Blank

/-! A store kept in one file, as a JSON table of texts.

Every call reads the whole file anew, and a call that changes the table then writes the whole file
anew; between the two steps another process may act. A missing or blank file is an empty table. A
removal of what is not there writes nothing.
-/

set_option autoImplicit false

namespace PageUpkeep

inductive Edit where
  | set (key value : String)
  | remove (key : String)
  deriving DecidableEq, Repr

namespace Edit

def apply : Edit → Table → Table
  | .set key value, table => table.insert key value
  | .remove key, table => table.erase key

/-- Whether there is anything to write: a removal of a missing key changes nothing. -/
def isIdle : Edit → Table → Bool
  | .set _ _, _ => false
  | .remove key, table => !table.contains key

end Edit

structure FileStore where
  path : Path
  files : FileTree
  deriving DecidableEq

namespace FileStore

/-- The table a text stands for; a blank text is an empty table. -/
def tableOfText (content : String) : Except Json.Error Table :=
  if Text.isBlankText content.toList then .ok .empty else Json.readAll Json.readTable content

def textOfTable (table : Table) : String :=
  String.ofList (Json.table table)

def load (store : FileStore) : Except StoreError Table :=
  match store.files.readText store.path with
  | .error .notFound => .ok .empty
  | .error fault => .error (.file store.path.toString fault)
  | .ok content =>
    match tableOfText content with
    | .ok table => .ok table
    | .error error => .error (.malformed store.path.toString error)

def makeParents (store : FileStore) : FileTree × Except StoreError Unit :=
  match store.path.parent? with
  | none => (store.files, .ok ())
  | some parent =>
    match store.files.makeDirectories parent with
    | (grown, .ok ()) => (grown, .ok ())
    | (grown, .error fault) => (grown, .error (.file parent.toString fault))

def save (store : FileStore) (table : Table) : FileStore × Except StoreError Unit :=
  match store.makeParents with
  | (grown, .error error) => ({ store with files := grown }, .error error)
  | (grown, .ok ()) =>
    let (written, answer) := grown.write store.path (textOfTable table).toUTF8
    ({ store with files := written }, answer.mapError (.file store.path.toString))

/-- The reading half of an edit: the table to write, if there is one to write. -/
def plan (store : FileStore) (edit : Edit) : Except StoreError (Option Table) :=
  store.load.map fun table => if edit.isIdle table then none else some (edit.apply table)

def commit (store : FileStore) : Option Table → FileStore × Except StoreError Unit
  | none => (store, .ok ())
  | some table => store.save table

def get (store : FileStore) (key : String) : Except StoreError (Option String) :=
  store.load.map fun table => table.get? key

def edit (store : FileStore) (edit : Edit) : FileStore × Except StoreError Unit :=
  match store.plan edit with
  | .error error => (store, .error error)
  | .ok planned => store.commit planned

end FileStore

end PageUpkeep
