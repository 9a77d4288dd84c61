import PersistenceLayer.Model.EntitySet

/-!
# Relationships

A relationship is resolved to the entity it names and to the first identifier
that entity declares. Of the target only its names, its package and that
identifier are kept: nothing else of it can reach a generated artifact.
-/

namespace PersistenceLayer

/-- The target of a relationship. -/
structure Target where
  entityName : String
  packageName : String
  identifierName : String
  idKind : IdKind
  deriving DecidableEq, Repr

/-- An entity as the target of relationships, if it has an identifier. -/
def Entity.target? (entity : Entity) : Option Target :=
  entity.identifier?.map fun (identifier, kind) =>
    ⟨entity.name, entity.packageName, identifier.name, kind⟩

namespace EntitySet

/-- The entity that a relationship of the given owner and attribute names. -/
def findTarget (set : EntitySet) (owner attr target : String) : Except Defect Entity :=
  match set.get? target with
  | some entity => .ok entity
  | none => .error (.unknownEntity owner attr target)

/-- The target of a relationship of the given owner and attribute. -/
def resolveTarget (set : EntitySet) (owner attr target : String) : Except Defect Target := do
  let entity ← set.findTarget owner attr target
  match entity.target? with
  | some resolved => return resolved
  | none => .error (.missingIdentifier owner attr target)

end EntitySet

end PersistenceLayer
