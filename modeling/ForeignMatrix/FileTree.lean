import ForeignMatrix.HostPath

/-!
# File trees

The directories and regular files of a host, and how a path finds its way among
them: from the root if it begins with a slash, else from the working directory.
Overlong paths and names, and paths with a null byte, find nothing. There are no
links and no devices, so a file reads as it was written.
-/

namespace ForeignMatrix

/-- What a path can find. -/
inductive FileNode (α : Type) where
  /-- A regular file. -/
  | file (content : α)
  /-- A directory. -/
  | directory
  deriving Repr

/-- Where a node is: the names that lead to it from the root. -/
abbrev Place := List NodeName

/-- Nodes of a host by their places. -/
structure FileTree (α : Type) where
  /-- Nodes below the root, the latest first. -/
  nodes : List (Place × FileNode α) := []
  /-- Where the working directory is, or was. -/
  workingPlace : Place := []
  deriving Repr

namespace FileTree

variable {α : Type}

/-- Node at a place; the root is a directory. -/
def node? (tree : FileTree α) (place : Place) : Option (FileNode α) :=
  if place = [] then some .directory else tree.nodes.lookup place

/-- Whether a directory is at a place. -/
def isDirectoryAt (tree : FileTree α) (place : Place) : Bool :=
  match tree.node? place with
  | some .directory => true
  | _ => false

/-- Greatest size of a name in bytes. -/
def nameLimit : Nat := 255

/-- Place that a piece of a path leads to from another place. Only a directory
leads anywhere, an overlong name leads nowhere, and the root is above itself. -/
def step (tree : FileTree α) (place : Place) (piece : NodeName) : Option Place :=
  if !tree.isDirectoryAt place ∨ nameLimit < piece.length then none
  else if piece = [] ∨ piece = HostPath.here then some place
  else if piece = HostPath.above then some place.dropLast
  else some (place ++ [piece])

/-- Greatest size of a path in bytes. -/
def pathLimit : Nat := 4095

/-- Place that a path begins at. -/
def origin (tree : FileTree α) (path : HostPath) : Place :=
  if path.isAbsolute then [] else tree.workingPlace

/-- Place that a path names; the last piece need not exist. -/
def place? (tree : FileTree α) (path : HostPath) : Option Place :=
  if path.bytes = [] ∨ pathLimit < path.bytes.length ∨ 0 ∈ path.bytes then none
  else path.pieces.foldlM tree.step (tree.origin path)

/-- Node that a path finds. -/
def find? (tree : FileTree α) (path : HostPath) : Option (FileNode α) :=
  (tree.place? path).bind tree.node?

/-- Whether a path finds a regular file. -/
def isFile (tree : FileTree α) (path : HostPath) : Bool :=
  match tree.find? path with
  | some (.file _) => true
  | _ => false

/-- Content of the regular file that a path finds. -/
def read? (tree : FileTree α) (path : HostPath) : Option α :=
  match tree.find? path with
  | some (.file content) => some content
  | _ => none

/-- Path of the working directory, unless it has been removed. -/
def workingPath? (tree : FileTree α) : Option HostPath :=
  if tree.isDirectoryAt tree.workingPlace then some (.ofNames tree.workingPlace) else none

/-- Puts a node at a place, over whatever was there. -/
def put (tree : FileTree α) (place : Place) (node : FileNode α) : FileTree α :=
  { tree with nodes := (place, node) :: tree.nodes.filter (·.1 != place) }

/-- Makes a directory at a place where nothing is. -/
def makeDirectory (tree : FileTree α) (place : Place) : FileTree α :=
  if (tree.node? place).isSome then tree else tree.put place .directory

/-- Puts a node where the pieces of a path lead from a place, and makes the
directories on the way. A directory stays where one is. -/
def putFrom (node : FileNode α) (tree : FileTree α) (place : Place) :
    List NodeName → FileTree α
  | [] =>
    match node with
    | .directory => tree.makeDirectory place
    | .file _ => if tree.isDirectoryAt place then tree else tree.put place node
  | piece :: rest =>
    let tree := tree.makeDirectory place
    match tree.step place piece with
    | some place => putFrom node tree place rest
    | none => tree

/-- Puts a node where a path names one. -/
def putAt (tree : FileTree α) (path : HostPath) (node : FileNode α) : FileTree α :=
  putFrom node tree (tree.origin path) path.pieces

/-- Nothing but the working directory and the directories above it. -/
def inDirectory (place : Place) : FileTree α :=
  { putFrom .directory {} [] place with workingPlace := place }

/-- Writes a file, unless the path names a directory or leads nowhere. -/
def write? (tree : FileTree α) (path : HostPath) (content : α) : Option (FileTree α) :=
  match tree.place? path with
  | none => none
  | some place => if tree.isDirectoryAt place then none else some (tree.put place (.file content))

end FileTree

end ForeignMatrix
