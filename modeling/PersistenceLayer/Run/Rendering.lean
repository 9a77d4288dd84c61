import PersistenceLayer.Artifact.Rendering
import PersistenceLayer.Run.Failure

/-!
# Rendering a run

A run renders all artifacts of all entities in the order of declaration. No two
of them may have the same path, compared by components.
-/

namespace PersistenceLayer

/-- The paths that the artifacts of a run have claimed so far. -/
abbrev ClaimedPaths := List (List Path.Component)

/-- Claims the paths of some artifacts, in order. The first one that is claimed already ends it. -/
def claimPaths (claimed : ClaimedPaths) : List Artifact → Except Failure ClaimedPaths
  | [] => .ok claimed
  | artifact :: artifacts =>
    if artifact.path.components ∈ claimed then .error (.collision artifact.path)
    else claimPaths (artifact.path.components :: claimed) artifacts

namespace EntitySet

/-- Renders the artifacts of some entities of a run in which paths are claimed already. -/
def renderFrom (set : EntitySet) (options : Options) (claimed : ClaimedPaths) :
    List Entity → Except Failure (List Artifact)
  | [] => .ok []
  | entity :: entities => do
    let artifacts ← Failure.ofDefect (set.renderEntity options entity)
    let claimed ← claimPaths claimed artifacts
    return artifacts ++ (← set.renderFrom options claimed entities)

/-- Renders a whole run in memory. -/
def renderAll (set : EntitySet) (options : Options) : Except Failure (List Artifact) :=
  set.renderFrom options [] set.entities

end EntitySet

end PersistenceLayer
