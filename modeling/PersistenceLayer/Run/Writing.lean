import PersistenceLayer.Run.Rendering
import PersistenceLayer.Run.Storage

/-!
# Writing a run

The artifacts of an entity are written together: all of them are staged in
temporary files next to their destinations, and only then is one after the other
published. If a step fails, what was published of this entity is withdrawn and
what was staged is discarded; earlier entities stay written.
-/

namespace PersistenceLayer

/-- An artifact in a temporary file, with the path it will be published at. -/
structure Staged (Temporary : Type) where
  temporary : Temporary
  destination : Path

namespace Storage

variable {m : Type → Type} [Monad m] {Temporary : Type} (storage : Storage m Temporary)

/-- Stages an artifact below the output directory. -/
def stage (output : Path) (artifact : Artifact) : m (Except Failure (Staged Temporary)) := do
  let destination := output.join artifact.path
  let directory := destination.parent?.getD output
  match ← storage.makeDirectories directory with
  | .error reason => return .error (.storage directory reason)
  | .ok () =>
    match ← storage.createTemporary directory with
    | .error reason => return .error (.storage directory reason)
    | .ok temporary =>
      match ← storage.fillTemporary temporary artifact.contents with
      | .ok () => return .ok ⟨temporary, destination⟩
      | .error reason =>
        storage.discard temporary
        return .error (.storage destination reason)

/-- Discards staged artifacts. -/
def discardAll : List (Staged Temporary) → m Unit
  | [] => pure ()
  | staged :: others => do
    storage.discard staged.temporary
    discardAll others

/-- Withdraws published artifacts. -/
def withdrawAll : List Path → m Unit
  | [] => pure ()
  | path :: paths => do
    storage.withdraw path
    withdrawAll paths

/-- Stages artifacts in order. The first argument holds those staged already, which are discarded
if one of the others cannot be staged. -/
def stageAll (output : Path) (staged : List (Staged Temporary)) :
    List Artifact → m (Except Failure (List (Staged Temporary)))
  | [] => return .ok staged
  | artifact :: artifacts => do
    match ← storage.stage output artifact with
    | .ok next => stageAll output (staged ++ [next]) artifacts
    | .error failure =>
      storage.discardAll staged
      return .error failure

/-- Publishes staged artifacts in order. The first argument holds the paths published already, which
are withdrawn if one of the others cannot be published. -/
def publishAll (published : List Path) : List (Staged Temporary) → m (Except Failure (List Path))
  | [] => return .ok published
  | staged :: others => do
    match ← storage.publish staged.temporary staged.destination with
    | .ok () => publishAll (published ++ [staged.destination]) others
    | .error reason =>
      storage.withdrawAll published
      storage.discardAll (staged :: others)
      return .error (.storage staged.destination reason)

/-- Writes the artifacts of one entity. -/
def writeArtifacts (output : Path) (artifacts : List Artifact) :
    m (Except Failure (List Path)) := do
  match ← storage.stageAll output [] artifacts with
  | .error failure => return .error failure
  | .ok staged => storage.publishAll [] staged

/-- Renders the artifacts of one entity and claims their paths. -/
def prepare (set : EntitySet) (options : Options) (claimed : ClaimedPaths) (entity : Entity) :
    Except Failure (List Artifact × ClaimedPaths) := do
  let artifacts ← Failure.ofDefect (set.renderEntity options entity)
  return (artifacts, ← claimPaths claimed artifacts)

/-- Generates the artifacts of some entities of a run in which paths are claimed already. -/
def generateFrom (output : Path) (set : EntitySet) (options : Options) (claimed : ClaimedPaths) :
    List Entity → m (Except Failure (List Path))
  | [] => return .ok []
  | entity :: entities => do
    match prepare set options claimed entity with
    | .error failure => return .error failure
    | .ok (artifacts, claimed) =>
      match ← storage.writeArtifacts output artifacts with
      | .error failure => return .error failure
      | .ok written =>
        match ← generateFrom output set options claimed entities with
        | .error failure => return .error failure
        | .ok others => return .ok (written ++ others)

/-- Generates a whole run below the output directory. The first failure ends it. -/
def generateAll (output : Path) (set : EntitySet) (options : Options) :
    m (Except Failure (List Path)) :=
  storage.generateFrom output set options [] set.entities

end Storage

end PersistenceLayer
