import PersistenceLayer.Run.FileTree

/-!
# Storages

A run writes to a storage through six operations. A disk is the storage that
can be reasoned about: a file tree together with a rule which steps it breaks
off, and a record of the steps it took, so that a run can be looked at after any
of them. A step that is broken off may have done a part of its work.
-/

namespace PersistenceLayer

/-- A storage in a monad, with handles for the temporary files it creates. The operations that can
fail say why in the storage's own words. -/
structure Storage (m : Type → Type) (Temporary : Type) where
  /-- Makes a directory and those it lies in, as far as they are missing. -/
  makeDirectories : Path → m (Except String Unit)
  /-- Creates an empty temporary file in a directory. -/
  createTemporary : Path → m (Except String Temporary)
  /-- Fills a temporary file. -/
  fillTemporary : Temporary → String → m (Except String Unit)
  /-- Moves a temporary file to a path, in place of a file that stands there. -/
  publish : Temporary → Path → m (Except String Unit)
  /-- Deletes a temporary file; if that fails nothing else can be done about it. -/
  discard : Temporary → m Unit
  /-- Deletes a published file; if that fails nothing else can be done about it. -/
  withdraw : Path → m Unit

/-- A step that a disk takes, with what it is asked to do. -/
inductive Step where
  | makeDirectories (path : Path)
  | createTemporary (path : Path)
  | fillTemporary (temporary : Location) (contents : String)
  | publish (temporary : Location) (path : Path)
  | discard (temporary : Location)
  | withdraw (path : Path)
  deriving DecidableEq, Repr

namespace Step

/-- Whether a step prepares files next to their destinations, where nobody looks for them yet. -/
def isStaging : Step → Bool
  | makeDirectories _ | createTemporary _ | fillTemporary _ _ => true
  | publish _ _ | discard _ | withdraw _ => false

/-- Whether a step takes back what an earlier one did. -/
def isUndoing : Step → Bool
  | discard _ | withdraw _ => true
  | makeDirectories _ | createTemporary _ | fillTemporary _ _ | publish _ _ => false

/-- The tree after a number of parts of a step. Only the directories of a path are made one after
the other and only the characters of a file are written so; every other step has a single part, and
before it is done nothing is. -/
def partly (parts : Nat) (tree : FileTree) : Step → FileTree
  | makeDirectories path => (tree.makeDirectoriesFrom .home (path.components.take parts)).1
  | fillTemporary location contents =>
    tree.put location (.file (String.ofList (contents.toList.take parts)))
  | createTemporary _ | publish _ _ | discard _ | withdraw _ => tree

end Step

/-- A step that a disk took, with the tree that was there before it. -/
structure Event where
  step : Step
  before : FileTree
  succeeded : Bool
  deriving Repr

/-- A file tree as a storage. -/
structure Disk where
  tree : FileTree
  /-- The number of parts after which the disk breaks a step off, if it does, given the number of
  steps before it. -/
  breaksOff : Nat → Step → Option Nat
  /-- The steps so far, the latest first. -/
  past : List Event

namespace Disk

/-- A disk that holds a tree and has not taken a step, with a rule which steps it breaks off. -/
def unreliable (breaksOff : Nat → Step → Option Nat) (tree : FileTree) : Disk :=
  ⟨tree, breaksOff, []⟩

/-- A disk that holds a tree and breaks nothing off, so that a step fails only if something in the
tree is in its way. -/
def ofTree (tree : FileTree) : Disk :=
  unreliable (fun _ _ => none) tree

/-- Takes a step: it changes the tree unless the disk breaks it off. -/
def take {α : Type} (step : Step) (change : FileTree → FileTree × Except Obstruction α) :
    StateM Disk (Except String α) := fun disk =>
  let (tree, result) : FileTree × Except Obstruction α :=
    match disk.breaksOff disk.past.length step with
    | some parts => (step.partly parts disk.tree, .error .refused)
    | none => change disk.tree
  (result.mapError Obstruction.message,
    { disk with tree := tree, past := ⟨step, disk.tree, result.isOk⟩ :: disk.past })

/-- A change that leaves the tree as it is when it fails. -/
def attempt (change : FileTree → Except Obstruction FileTree) (tree : FileTree) :
    FileTree × Except Obstruction Unit :=
  match change tree with
  | .ok changed => (changed, .ok ())
  | .error obstruction => (tree, .error obstruction)

/-- Creates a temporary file in a tree. -/
def newTemporary (path : Path) (tree : FileTree) : FileTree × Except Obstruction Location :=
  match tree.createTemporary path with
  | .ok (changed, location) => (changed, .ok location)
  | .error obstruction => (tree, .error obstruction)

/-- The operations of a disk. -/
def storage : Storage (StateM Disk) Location where
  makeDirectories path := take (.makeDirectories path) fun tree => tree.makeDirectories path
  createTemporary path := take (.createTemporary path) (newTemporary path)
  fillTemporary location contents :=
    take (.fillTemporary location contents) fun tree =>
      (tree.put location (.file contents), .ok ())
  publish location path :=
    take (.publish location path) (attempt fun tree => tree.rename location path)
  discard location := do
    let _ ← take (.discard location) fun tree => (tree.erase location, .ok ())
  withdraw path := do
    let _ ← take (.withdraw path) (attempt fun tree => tree.remove path)

end Disk

end PersistenceLayer
