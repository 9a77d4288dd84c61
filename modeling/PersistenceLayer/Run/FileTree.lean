import PersistenceLayer.Path

/-!
# File trees

A file tree holds directories and files, most of them below a home directory
where relative paths start. Paths are followed one component at a time, through
existing directories only; they may also lead out of the home directory. The
operations say what they change and why they can fail.
-/

namespace PersistenceLayer

/-- A directory that always exists and that names can lead on from. -/
inductive Anchor where
  /-- The directory a number of levels above the home directory. -/
  | aboveHome (levels : Nat)
  /-- The directory where absolute paths start. -/
  | root
  deriving DecidableEq, Repr

/-- The directory that an anchor lies in; the one at the root lies in itself. -/
def Anchor.parent : Anchor → Anchor
  | aboveHome levels => aboveHome (levels + 1)
  | root => root

/-- A place in a tree: an anchor, and the names that lead on from it. -/
structure Location where
  anchor : Anchor
  names : List String
  deriving DecidableEq, Repr

namespace Location

/-- The home directory. -/
def home : Location := ⟨.aboveHome 0, []⟩

/-- The place one name below a directory. -/
def child (directory : Location) (name : String) : Location :=
  { directory with names := directory.names ++ [name] }

/-- The directory that a place lies in. -/
def parent (location : Location) : Location :=
  if location.names = [] then ⟨location.anchor.parent, []⟩
  else { location with names := location.names.dropLast }

end Location

/-- What can stand at a place. -/
inductive TreeEntry where
  | directory
  | file (contents : String)
  deriving DecidableEq, Repr

/-- Why an operation on a tree fails. -/
inductive Obstruction where
  | notFound
  | exists
  | notDirectory
  | isDirectory
  | nameTooLong
  | invalidPath
  /-- The storage refuses the operation for reasons of its own. -/
  | refused
  deriving DecidableEq, Repr

/-- The wording of an obstruction. -/
def Obstruction.message : Obstruction → String
  | notFound => "No such file or directory (os error 2)"
  | .exists => "File exists (os error 17)"
  | notDirectory => "Not a directory (os error 20)"
  | isDirectory => "Is a directory (os error 21)"
  | nameTooLong => "File name too long (os error 36)"
  | invalidPath => "file name contained an unexpected NUL byte"
  | refused => "Input/output error (os error 5)"

/-- A tree as the entries at its places. Anchors need none. -/
structure FileTree where
  entries : List (Location × TreeEntry)
  deriving Repr

namespace FileTree

/-- The tree without entries. -/
def empty : FileTree := ⟨[]⟩

/-- What stands at a place; at an anchor it is a directory. -/
def entry? (tree : FileTree) (location : Location) : Option TreeEntry :=
  if location.names = [] then some .directory else tree.entries.lookup location

/-- The contents of the file at a place. -/
def contents? (tree : FileTree) (location : Location) : Option String :=
  match tree.entry? location with
  | some (.file contents) => some contents
  | _ => none

/-- The tree with an entry put at a place, in place of what stood there. -/
def put (tree : FileTree) (location : Location) (entry : TreeEntry) : FileTree :=
  ⟨tree.entries.filter (fun other => other.1 != location) ++ [(location, entry)]⟩

/-- The tree without the entry at a place. -/
def erase (tree : FileTree) (location : Location) : FileTree :=
  ⟨tree.entries.filter fun other => other.1 != location⟩

/-- The entries below the home directory, by the names that lead to them from there. -/
def listing (tree : FileTree) : List (List String × TreeEntry) :=
  (tree.entries.filter fun entry => entry.1.anchor = .aboveHome 0).map fun (location, entry) =>
    (location.names, entry)

/-- The longest name that a tree can hold, in bytes. -/
def nameLimit : Nat := 255

/-- The longest path that can be followed, in bytes. -/
def pathLimit : Nat := 4095

/-- Whether a path can be followed at all. -/
def checkPath (path : Path) : Except Obstruction Unit :=
  if path.text.toList.contains '\x00' then .error .invalidPath
  else if pathLimit < path.text.utf8ByteSize then .error .nameTooLong
  else .ok ()

/-- The place one name below a directory, whether or not something stands there. -/
def placeBelow (directory : Location) (name : String) : Except Obstruction Location :=
  if nameLimit < name.utf8ByteSize then .error .nameTooLong else .ok (directory.child name)

/-- The directory that a component leads to from another one. -/
def enter (tree : FileTree) (directory : Location) : Path.Component → Except Obstruction Location
  | .root => .ok ⟨.root, []⟩
  | .current => .ok directory
  | .parent => .ok directory.parent
  | .normal name => do
    let location ← placeBelow directory name
    match tree.entry? location with
    | none => .error .notFound
    | some (.file _) => .error .notDirectory
    | some .directory => .ok location

/-- The directory that components lead to, one after the other. -/
def walk (tree : FileTree) (directory : Location) :
    List Path.Component → Except Obstruction Location
  | [] => .ok directory
  | component :: components => do
    tree.walk (← tree.enter directory component) components

/-- The directory at a path. -/
def directoryAt (tree : FileTree) (path : Path) : Except Obstruction Location := do
  checkPath path
  tree.walk .home path.components

/-- The place that a path names inside an existing directory, whether or not something stands
there. A path without a last name can only lead to a directory. -/
def placeAt (tree : FileTree) (path : Path) : Except Obstruction Location := do
  match path.lastName? with
  | some name =>
    checkPath path
    placeBelow (← tree.walk .home path.components.dropLast) name
  | none =>
    let _ ← tree.directoryAt path
    .error .isDirectory

/-- The contents of the file at a path. -/
def read (tree : FileTree) (path : Path) : Except Obstruction String := do
  match tree.entry? (← tree.placeAt path) with
  | none => .error .notFound
  | some .directory => .error .isDirectory
  | some (.file contents) => .ok contents

/-- The tree with a file written at a path whose directory exists. -/
def write (tree : FileTree) (path : Path) (contents : String) : Except Obstruction FileTree := do
  let location ← tree.placeAt path
  match tree.entry? location with
  | some .directory => .error .isDirectory
  | _ => .ok (tree.put location (.file contents))

/-- The tree without the file at a path. -/
def remove (tree : FileTree) (path : Path) : Except Obstruction FileTree := do
  let location ← tree.placeAt path
  match tree.entry? location with
  | none => .error .notFound
  | some .directory => .error .isDirectory
  | some (.file _) => .ok (tree.erase location)

/-- Makes the directories that components lead through, as far as that is possible. -/
def makeDirectoriesFrom (tree : FileTree) (directory : Location) :
    List Path.Component → FileTree × Except Obstruction Unit
  | [] => (tree, .ok ())
  | .root :: components => tree.makeDirectoriesFrom ⟨.root, []⟩ components
  | .current :: components => tree.makeDirectoriesFrom directory components
  | .parent :: components => tree.makeDirectoriesFrom directory.parent components
  | .normal name :: components =>
    match placeBelow directory name with
    | .error obstruction => (tree, .error obstruction)
    | .ok location =>
      match tree.entry? location with
      | some .directory => tree.makeDirectoriesFrom location components
      | some (.file _) =>
        (tree, .error (if components.isEmpty then .exists else .notDirectory))
      | none => (tree.put location .directory).makeDirectoriesFrom location components

/-- Makes a directory and those it lies in, as far as they are missing. A file in the way or a name
too long stops it; the directories above stay made. The directory before a single dot at the end of
the path is not made but has to be there. -/
def makeDirectories (tree : FileTree) (path : Path) : FileTree × Except Obstruction Unit :=
  match checkPath path with
  | .error obstruction => (tree, .error obstruction)
  | .ok () =>
    if path.endsInDot then
      let (made, result) := tree.makeDirectoriesFrom .home path.components.dropLast
      (made, do
        let _ ← result
        let _ ← made.directoryAt path
        return ())
    else tree.makeDirectoriesFrom .home path.components

/-- The length of the longest name in a tree. -/
def longestName (tree : FileTree) : Nat :=
  tree.entries.foldl (fun longest entry => max longest (entry.1.names.getLast?.getD "").length) 0

/-- A name for a temporary file that nothing in the tree has, being longer than all of them. -/
def freshName (tree : FileTree) : String :=
  ".tmp" ++ String.ofList (List.replicate (tree.longestName + 1) '0')

/-- The tree with a new empty file in a directory, and the place of the file. -/
def createTemporary (tree : FileTree) (path : Path) : Except Obstruction (FileTree × Location) := do
  let directory ← tree.directoryAt path
  let location := directory.child tree.freshName
  return (tree.put location (.file ""), location)

/-- The tree with the file at a place moved to a path, in place of a file that stood there. -/
def rename (tree : FileTree) (source : Location) (path : Path) : Except Obstruction FileTree := do
  let destination ← tree.placeAt path
  match tree.entry? source, tree.entry? destination with
  | none, _ => .error .notFound
  | _, some .directory => .error .isDirectory
  | some entry, _ => .ok ((tree.erase source).put destination entry)

end FileTree

end PersistenceLayer
