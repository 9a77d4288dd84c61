import PersistenceLayer.Artifact.Contract
import PersistenceLayer.Artifact.DataHolder
import PersistenceLayer.Artifact.Extension
import PersistenceLayer.Artifact.Metamodel
import PersistenceLayer.Artifact.Persisted

/-!
# Emission

An artifact is written by walks over the declared attributes of its entity. Each
walk looks up for itself what it needs of an attribute: the column type, and of a
relationship the entity it names, or that entity together with its identifier. A
walk ends at the first attribute where a look-up fails. The walk for the imports
of types comes first in every artifact.
-/

namespace PersistenceLayer

/-- The column type of an attribute of the given owner, which has to be declared. -/
def Attribute.declaredType (attr : Attribute) (owner : String) : Except Defect ColumnType :=
  match attr.columnType with
  | some type => .ok type
  | none => .error (.undeclaredColumnType owner attr.name)

namespace Emission

variable (set : EntitySet) (entity : Entity)

/-! ## Look-ups at one attribute -/

/-- The qualified names that the types of an attribute have to be imported by. A relationship needs
the scalar of its target's identifier, and the persisted class of a target in another package. -/
def typeImports (attr : Attribute) : Except Defect (List String) := do
  match ← attr.declaredType entity.name with
  | .manyToOne name =>
    let target ← set.resolveTarget entity.name attr.name name
    return target.idKind.scalar.qualifiedName?.toList ++
      (target.foreignType? entity.packageName (Naming.entityType target.entityName)).toList
  | type => return (type.scalar?.bind Scalar.qualifiedName?).toList

/-- The qualified name of the metamodel that the criteria path of an attribute leads into, if that
has to be imported. -/
def metamodelImports (attr : Attribute) : Except Defect (List String) := do
  match ← attr.declaredType entity.name with
  | .manyToOne name =>
    let target ← set.resolveTarget entity.name attr.name name
    return (target.foreignType? entity.packageName
      (Naming.metamodelType target.entityName)).toList
  | _ => return []

/-- The property of an attribute in client-facing data. -/
def flatProperty (attr : Attribute) : Except Defect FlatProperty := do
  let name := Naming.property attr.name
  match ← attr.declaredType entity.name with
  | .identifier kind _ => return ⟨name, kind.scalar⟩
  | .version kind => return ⟨name, kind.scalar⟩
  | .basic type => return ⟨name, type.scalar⟩
  | .manyToOne target =>
    let target ← set.resolveTarget entity.name attr.name target
    return ⟨name ++ Text.capitalized target.identifierName, target.idKind.scalar⟩

/-- The property of an attribute in a contract. -/
def contractProperty (options : Options) (attr : Attribute) : Except Defect ContractProperty := do
  let property ← flatProperty set entity attr
  return ⟨if options.constrainedData then attr.constraints else [], property⟩

/-- The handle of an attribute. Of a target only the entity matters here, not its identifier. -/
def handle (attr : Attribute) : Except Defect Handle := do
  let name := Naming.property attr.name
  match ← attr.declaredType entity.name with
  | .identifier kind _ => return ⟨name, .scalar kind.scalar⟩
  | .version kind => return ⟨name, .scalar kind.scalar⟩
  | .basic type => return ⟨name, .scalar type.scalar⟩
  | .manyToOne target =>
    let target ← set.findTarget entity.name attr.name target
    return ⟨name, .entity (Naming.entityType target.name)⟩

/-- The property of an attribute in the persisted class. Of a target only the entity matters here,
not its identifier. -/
def persistedProperty (attr : Attribute) : Except Defect PersistedProperty := do
  let name := Naming.property attr.name
  let column := attr.columnParameters
  match ← attr.declaredType entity.name with
  | .identifier kind generated =>
    return ⟨identifierAnnotations kind generated column, name, .scalar kind.scalar⟩
  | .version kind => return ⟨versionAnnotations column, name, .scalar kind.scalar⟩
  | .basic type => return ⟨basicAnnotations type column, name, .scalar type.scalar⟩
  | .manyToOne target =>
    let target ← set.findTarget entity.name attr.name target
    return ⟨relationshipAnnotations column, name, .entity (Naming.entityType target.name)⟩

/-- The predicates of an attribute. Their operands are those of client-facing data. -/
def predicateCase (attr : Attribute) : Except Defect PredicateCase := do
  let type ← attr.declaredType entity.name
  let operand ← flatProperty set entity attr
  return ⟨Naming.caseName attr.name, operand.scalar, Operator.admitted type.isText⟩

/-- The criteria path of an attribute. -/
def criteriaPath (attr : Attribute) : Except Defect CriteriaPath := do
  let own := ⟨Naming.metamodelType entity.name, Naming.property attr.name⟩
  match ← attr.declaredType entity.name with
  | .manyToOne name =>
    let target ← set.resolveTarget entity.name attr.name name
    return ⟨own, some target.identifierReference⟩
  | _ => return ⟨own, none⟩

/-- The branches of an attribute's orders. -/
def orderBranches (attr : Attribute) : Except Defect (List OrderBranch) := do
  let path ← criteriaPath set entity attr
  return Direction.all.map fun direction => ⟨Naming.caseName attr.name, direction, path⟩

/-- The branches of an attribute's predicates. -/
def predicateBranches (attr : Attribute) : Except Defect (List PredicateBranch) := do
  let path ← criteriaPath set entity attr
  let type ← attr.declaredType entity.name
  return (Operator.admitted type.isText).map fun operator =>
    ⟨Naming.caseName attr.name, operator, path⟩

/-- The assignment that copies an attribute into the persisted object; there is none for a column
that the persistence runtime manages. -/
def entityAssignment? (attr : Attribute) : Except Defect (Option EntityAssignment) := do
  let type ← attr.declaredType entity.name
  let property := Naming.property attr.name
  match type with
  | .identifier _ _ | .version _ => return none
  | .basic _ => return some (.plain property)
  | .manyToOne name =>
    let target ← set.resolveTarget entity.name attr.name name
    return some (.lookup property (property ++ Text.capitalized target.identifierName)
      (Naming.entityType target.entityName))

/-- The assignment that copies an attribute into client-facing data. -/
def dataAssignment (attr : Attribute) : Except Defect DataAssignment := do
  let property := Naming.property attr.name
  match ← attr.declaredType entity.name with
  | .manyToOne name =>
    let target ← set.resolveTarget entity.name attr.name name
    return .navigated (property ++ Text.capitalized target.identifierName) property
      (Text.decapitalized target.identifierName)
  | _ => return .plain property

/-! ## Walks over all attributes -/

/-- The file of a contract. -/
def contractFile (options : Options) : Except Defect SourceFile := do
  let imports ← entity.attributes.mapM (typeImports set entity)
  let properties ← entity.attributes.mapM (contractProperty set entity options)
  return .ofEntity entity .kotlin (Contract.fixedImports options ++ imports.flatten)
    (Contract.body entity.name properties)

/-- The file of a data holder. -/
def dataHolderFile (options : Options) : Except Defect SourceFile := do
  let imports ← entity.attributes.mapM (typeImports set entity)
  let properties ← entity.attributes.mapM (flatProperty set entity)
  return .ofEntity entity .kotlin (DataHolder.fixedImports options ++ imports.flatten)
    (DataHolder.body options entity.name properties)

/-- The file of a metamodel. -/
def metamodelFile : Except Defect SourceFile := do
  let imports ← entity.attributes.mapM (typeImports set entity)
  let handles ← entity.attributes.mapM (handle set entity)
  return .ofEntity entity .java (Metamodel.fixedImports ++ imports.flatten)
    (Metamodel.body entity.name handles)

/-- The file of a persisted class. -/
def persistedFile : Except Defect SourceFile := do
  let imports ← entity.attributes.mapM (typeImports set entity)
  let properties ← entity.attributes.mapM (persistedProperty set entity)
  return .ofEntity entity .kotlin (Persisted.fixedImports ++ imports.flatten)
    (Persisted.body entity.name (Persisted.classAnnotations entity) properties)

/-- The file of a vocabulary. Orders are declared by the names of the attributes alone. -/
def vocabularyFile : Except Defect SourceFile := do
  let imports ← entity.attributes.mapM (typeImports set entity)
  let orders := entity.attributes.map fun attr => Naming.caseName attr.name
  let predicates ← entity.attributes.mapM (predicateCase set entity)
  return .ofEntity entity .kotlin imports.flatten
    (Vocabulary.body entity.name orders predicates)

/-- The assignments of a copy into the persisted object. Attributes whose flags rule the copy out
are passed over before anything is looked up. -/
def entityAssignments (mode : CopyMode) : Except Defect (List EntityAssignment) := do
  let assignments ← (entity.attributes.filter mode.allows).mapM (entityAssignment? set entity)
  return assignments.filterMap id

/-- The file of an extension. -/
def extensionFile : Except Defect SourceFile := do
  let imports ← entity.attributes.mapM (typeImports set entity)
  let metamodels ← entity.attributes.mapM (metamodelImports set entity)
  let orders ← entity.attributes.mapM (orderBranches set entity)
  let predicates ← entity.attributes.mapM (predicateBranches set entity)
  let insertable ← entityAssignments set entity .insertable
  let updatable ← entityAssignments set entity .updatable
  let data ← entity.attributes.mapM (dataAssignment set entity)
  return .ofEntity entity .kotlin
    (Extension.fixedImports ++ imports.flatten ++ metamodels.flatten)
    (Extension.body entity.name orders.flatten predicates.flatten insertable updatable data)

end Emission

/-- The file of an entity's artifact, written by walks over the declared attributes. -/
def EntitySet.emit (set : EntitySet) (options : Options) (entity : Entity) :
    Kind → Except Defect SourceFile
  | .contract => Emission.contractFile set entity options
  | .dataHolder => Emission.dataHolderFile set entity options
  | .metamodel => Emission.metamodelFile set entity
  | .persisted => Emission.persistedFile set entity
  | .vocabulary => Emission.vocabularyFile set entity
  | .extension => Emission.extensionFile set entity

end PersistenceLayer
