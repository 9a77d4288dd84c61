import PersistenceLayer.Path
import PersistenceLayer.Model.Defect

/-!
# Failures of a run

A run ends early at a defect of the model, at an artifact that an earlier one
has already claimed the path of, or at a storage that refuses a step.
-/

namespace PersistenceLayer

/-- The ways in which a run can fail. -/
inductive Failure where
  | defect (cause : Defect)
  /-- Two artifacts would have the same path, shown as the later one built it. -/
  | collision (path : Path)
  /-- The storage could not write at a path, for a reason in its own words. -/
  | storage (path : Path) (reason : String)
  deriving DecidableEq, Repr

namespace Failure

/-- The wording of a failure. -/
def message : Failure → String
  | defect cause => cause.message
  | collision path => "artifact '" ++ path.text ++ "' would be generated more than once"
  | storage path reason => "failed to write '" ++ path.text ++ "': " ++ reason

/-- Whether the declared model is to blame, and not the place it is written to. -/
def isConfigurationDefect : Failure → Bool
  | storage _ _ => false
  | _ => true

end Failure

/-- A result that can only fail at a defect, as a result of a run. -/
def Failure.ofDefect {α : Type} : Except Defect α → Except Failure α
  | .ok value => .ok value
  | .error cause => .error (.defect cause)

end PersistenceLayer
