import PageUpkeep.Files.Place

/-! A tree of files: where a path leads, and reading, writing and making directories along paths.

The tree maps places to files and directories, and says where the disk allows less than everything. A path is
followed one step at a time, every step from a directory that is there. Every operation names the first obstacle
it meets.
-/

set_option autoImplicit false

namespace PageUpkeep

/-- What a disk answers where it does not do what it is asked for. -/
inductive DiskFault where
  | permissionDenied
  | inputOutput
  | noSpace
  | readOnly
  | quotaExceeded
  deriving DecidableEq, Repr

namespace DiskFault

def number : DiskFault → Nat
  | permissionDenied => 13
  | inputOutput => 5
  | noSpace => 28
  | readOnly => 30
  | quotaExceeded => 122

def description : DiskFault → String
  | permissionDenied => "Permission denied"
  | inputOutput => "Input/output error"
  | noSpace => "No space left on device"
  | readOnly => "Read-only file system"
  | quotaExceeded => "Disk quota exceeded"

end DiskFault

inductive FileFault where
  | notFound
  | alreadyExists
  | notADirectory
  | isADirectory
  | nameTooLong
  | nulByte
  | notText
  | disk (fault : DiskFault)
  | other (message : String)
  deriving DecidableEq, Repr

namespace FileFault

def number? : FileFault → Option Nat
  | notFound => some 2
  | alreadyExists => some 17
  | notADirectory => some 20
  | isADirectory => some 21
  | nameTooLong => some 36
  | disk fault => some fault.number
  | nulByte | notText | other _ => none

def description : FileFault → String
  | notFound => "No such file or directory"
  | alreadyExists => "File exists"
  | notADirectory => "Not a directory"
  | isADirectory => "Is a directory"
  | nameTooLong => "File name too long"
  | nulByte => "file name contained an unexpected NUL byte"
  | notText => "stream did not contain valid UTF-8"
  | disk fault => fault.description
  | other message => message

def message (fault : FileFault) : String :=
  fault.description ++
    match fault.number? with
    | some number => " (os error " ++ number.repr ++ ")"
    | none => ""

end FileFault

inductive Node where
  | file (content : ByteArray)
  | directory

instance : DecidableEq Node
  | .file content, .file other =>
    match ByteArray.instDecidableEq content other with
    | isTrue same => isTrue (congrArg Node.file same)
    | isFalse different => isFalse fun same => different (Node.file.inj same)
  | .directory, .directory => isTrue rfl
  | .file _, .directory => isFalse nofun
  | .directory, .file _ => isFalse nofun

/-- What a disk allows at a place, where that is not everything. -/
inductive Restriction where
  /-- Nothing can be read, entered or made there. -/
  | closed (fault : DiskFault)
  /-- What is there can be read but not written, and nothing can be made. -/
  | fixed (fault : DiskFault)
  /-- A file there takes so many bytes and no more. -/
  | narrow (room : Nat) (fault : DiskFault)
  deriving DecidableEq, Repr

namespace Restriction

def reading? : Restriction → Option DiskFault
  | closed fault => some fault
  | fixed _ | narrow _ _ => none

def opening? : Restriction → Option DiskFault
  | closed fault | fixed fault => some fault
  | narrow _ _ => none

end Restriction

/-- Files and directories by place; where paths begin there are directories without an entry. What the disk does
not allow is known beforehand, place by place, for what is there and for what is still to be made. -/
structure FileTree where
  nodes : List (Place × Node)
  restrictions : List (Place × Restriction) := []
  deriving DecidableEq

namespace FileTree

def empty : FileTree :=
  { nodes := [] }

instance : Inhabited FileTree := ⟨empty⟩

def lookupNode (place : Place) : List (Place × Node) → Option Node
  | [] => none
  | entry :: rest => if place = entry.1 then some entry.2 else lookupNode place rest

def find? (tree : FileTree) (place : Place) : Option Node :=
  if place.names = [] then some .directory else lookupNode place tree.nodes

def putNode (place : Place) (node : Node) : List (Place × Node) → List (Place × Node)
  | [] => [(place, node)]
  | entry :: rest => if place = entry.1 then (place, node) :: rest else entry :: putNode place node rest

def put (tree : FileTree) (place : Place) (node : Node) : FileTree :=
  { tree with nodes := putNode place node tree.nodes }

theorem lookupNode_putNode (place other : Place) (node : Node) (nodes : List (Place × Node)) :
    lookupNode other (putNode place node nodes) =
      if other = place then some node else lookupNode other nodes := by
  induction nodes with
  | nil => simp [putNode, lookupNode]
  | cons entry rest ih =>
    unfold putNode
    split
    · rename_i same
      subst same
      by_cases found : other = entry.1 <;> simp [lookupNode, found]
    · rename_i different
      by_cases found : other = entry.1
      · have absent : ¬ entry.1 = place := fun same => different same.symm
        simp [lookupNode, found, absent]
      · simp [lookupNode, found, ih]

theorem find?_put (tree : FileTree) (place other : Place) (node : Node) :
    (tree.put place node).find? other =
      if other.names = [] then some .directory
      else if other = place then some node
      else tree.find? other := by
  unfold find? put
  split
  · rfl
  · exact lookupNode_putNode place other node tree.nodes

def removeUnder (tree : FileTree) (place : Place) : FileTree :=
  { tree with nodes := tree.nodes.filter fun entry => !entry.1.isUnder place }

def restriction? (tree : FileTree) (place : Place) : Option Restriction :=
  tree.restrictions.lookup place

def unreadable? (tree : FileTree) (place : Place) : Option DiskFault :=
  (tree.restriction? place).bind Restriction.reading?

def unwritable? (tree : FileTree) (place : Place) : Option DiskFault :=
  (tree.restriction? place).bind Restriction.opening?

/-! ## Following paths -/

/-- The longest name a directory can hold, in bytes. -/
def nameLimit : Nat := 255

/-- The length in bytes from which a path is refused unseen. -/
def pathLimit : Nat := 4096

def enter (tree : FileTree) (place : Place) (step : String) : Except FileFault Place :=
  match tree.unreadable? place, tree.find? place with
  | some fault, _ => .error (.disk fault)
  | none, none => .error .notFound
  | none, some (.file _) => .error .notADirectory
  | none, some .directory =>
    if nameLimit < step.utf8ByteSize then .error .nameTooLong else .ok (place.enter step)

/-- The place that steps lead to, where they are taken for a path that can be asked for. -/
def follow (tree : FileTree) (path : Path) (steps : List String) : Except FileFault Place :=
  let written := path.toString
  if written.toList.contains '\x00' then .error .nulByte
  else if path.isEmpty then .error .notFound
  else if pathLimit ≤ written.utf8ByteSize then .error .nameTooLong
  else steps.foldlM tree.enter (.start path)

/-- The place a path leads to. All but its last step are there; what it names may be missing. -/
def locate (tree : FileTree) (path : Path) : Except FileFault Place :=
  tree.follow path path.steps

def isDirectory (tree : FileTree) (path : Path) : Bool :=
  match tree.locate path with
  | .ok place => tree.find? place == some .directory
  | .error _ => false

def read (tree : FileTree) (path : Path) : Except FileFault ByteArray :=
  match tree.locate path with
  | .error fault => .error fault
  | .ok place =>
    match tree.unreadable? place, tree.find? place with
    | some fault, _ => .error (.disk fault)
    | none, none => .error .notFound
    | none, some .directory => .error .isADirectory
    | none, some (.file content) => if path.endsInSlash then .error .notADirectory else .ok content

def readText (tree : FileTree) (path : Path) : Except FileFault String :=
  match tree.read path with
  | .error fault => .error fault
  | .ok content =>
    match String.fromUTF8? content with
    | some text => .ok text
    | none => .error .notText

/-- What a file keeps of a content, and what it says to the rest. -/
def fill (tree : FileTree) (place : Place) (content : ByteArray) : ByteArray × Except FileFault Unit :=
  match tree.restriction? place with
  | some (.narrow room fault) =>
    if room < content.size then (content.extract 0 room, .error (.disk fault)) else (content, .ok ())
  | _ => (content, .ok ())

/-- Gives a file its whole content, whether it was there or not. The file is emptied when it is opened, and a write
that is broken off leaves what was taken of the content by then. A path that ends in a slash names no file, and its
last step is not taken. -/
def write (tree : FileTree) (path : Path) (content : ByteArray) : FileTree × Except FileFault Unit :=
  match tree.follow path (if path.endsInSlash then path.steps.dropLast ++ ["."] else path.steps) with
  | .error fault => (tree, .error fault)
  | .ok place =>
    match tree.find? place, tree.unwritable? place with
    | some .directory, _ => (tree, .error .isADirectory)
    | _, some fault => (tree, .error (.disk fault))
    | _, none =>
      let (kept, answer) := tree.fill place content
      (tree.put place (.file kept), answer)

def makeDirectory (tree : FileTree) (path : Path) : Except FileFault FileTree :=
  match tree.locate path with
  | .error fault => .error fault
  | .ok place =>
    match tree.find? place, tree.unwritable? place with
    | some _, _ => .error .alreadyExists
    | none, some fault => .error (.disk fault)
    | none, none => .ok (tree.put place .directory)

def ensureDirectory (tree : FileTree) (path : Path) : FileTree × Except FileFault Unit :=
  match tree.makeDirectory path with
  | .ok grown => (grown, .ok ())
  | .error fault => (tree, if tree.isDirectory path then .ok () else .error fault)

/-- Makes a directory and all above it. Those made before an obstacle stay. -/
def makeDirectories (tree : FileTree) (path : Path) : FileTree × Except FileFault Unit :=
  if path.isEmpty then (tree, .ok ())
  else
    match tree.makeDirectory path with
    | .error .notFound =>
      match above : path.parent? with
      | none => (tree, .error (.other "failed to create whole tree"))
      | some parent =>
        have : parent.depth < path.depth := Path.depth_parent above
        match makeDirectories tree parent with
        | (grown, .ok ()) => grown.ensureDirectory path
        | (grown, .error fault) => (grown, .error fault)
    | _ => tree.ensureDirectory path
termination_by path.depth

def plant (tree : FileTree) (place : Place) (node : Node) : FileTree :=
  let above := (List.range place.names.length).map fun count =>
    { place with names := place.names.take count }
  let grown := above.foldl (fun tree directory =>
    match tree.find? directory with
    | none => tree.put directory .directory
    | some _ => tree) tree
  match node, grown.find? place with
  | .directory, some .directory => grown
  | _, _ => grown.put place node

end FileTree

end PageUpkeep
