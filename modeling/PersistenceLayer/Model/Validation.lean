import PersistenceLayer.Model.Relationship
import PersistenceLayer.Text.Identifier

/-!
# Validation

All defects of a set at once, in the order of declaration. Generation does not
rely on it: it meets the same defects one at a time, and it does not mind names
that are no identifiers.
-/

namespace PersistenceLayer

/-- What validation reports: a name that cannot be used in generated sources, or a defect that
generation would stop at. -/
inductive Finding where
  | entityName (entity : String)
  | attributeName (entity attr : String)
  | defect (cause : Defect)
  deriving DecidableEq, Repr

/-- The wording of a finding. -/
def Finding.message : Finding → String
  | entityName entity => "entity name '" ++ entity ++ "' is not a valid identifier"
  | attributeName entity attr =>
    "attribute name '" ++ attr ++ "' in entity '" ++ entity ++ "' is not a valid identifier"
  | defect cause => cause.message

namespace EntitySet

/-- The defect of an attribute's column type or of the target it names. -/
def attributeDefect? (set : EntitySet) (owner : String) (attr : Attribute) : Option Defect :=
  match attr.columnType with
  | none => some (.undeclaredColumnType owner attr.name)
  | some (.manyToOne target) =>
    match set.resolveTarget owner attr.name target with
    | .ok _ => none
    | .error defect => some defect
  | some _ => none

/-- What validation finds at an attribute: first about its name, then about its type. -/
def attributeFindings (set : EntitySet) (owner : String) (attr : Attribute) : List Finding :=
  (if Text.isIdentifier attr.name then [] else [.attributeName owner attr.name]) ++
    ((set.attributeDefect? owner attr).map Finding.defect).toList

/-- What validation finds at an entity: first about its name, then about each attribute. -/
def entityFindings (set : EntitySet) (entity : Entity) : List Finding :=
  (if Text.isIdentifier entity.name then [] else [.entityName entity.name]) ++
    entity.attributes.flatMap (set.attributeFindings entity.name)

/-- Everything that validation finds. -/
def findings (set : EntitySet) : List Finding :=
  set.entities.flatMap set.entityFindings

/-- Whether validation accepts a set. -/
def isValid (set : EntitySet) : Bool := set.findings.isEmpty

end EntitySet

end PersistenceLayer
