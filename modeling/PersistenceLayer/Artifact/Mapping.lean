import PersistenceLayer.Artifact.Naming
import PersistenceLayer.Model.Relationship

/-!
# Mapped attributes

An attribute is mapped when its column type is declared and, if it is a
relationship, its target is resolved. Everything that is generated for an entity
is a function of its mapped attributes, which describes in one place what the
artifacts look up on their own as they are written.
-/

namespace PersistenceLayer

/-- A declared column type with its relationship resolved. -/
inductive MappedType where
  | identifier (kind : IdKind) (generated : Bool)
  | version (kind : VersionKind)
  | basic (type : BasicType)
  | manyToOne (target : Target)
  deriving DecidableEq, Repr

/-- An attribute with its declared column type. -/
structure MappedAttribute where
  source : Attribute
  type : MappedType
  deriving DecidableEq, Repr

/-- A property of client-facing data. -/
structure FlatProperty where
  name : String
  scalar : Scalar
  deriving DecidableEq, Repr

namespace EntitySet

/-- Maps an attribute of the given owner. -/
def mapAttribute (set : EntitySet) (owner : String) (attr : Attribute) :
    Except Defect MappedAttribute :=
  match attr.columnType with
  | none => .error (.undeclaredColumnType owner attr.name)
  | some (.identifier kind generated) => .ok ⟨attr, .identifier kind generated⟩
  | some (.version kind) => .ok ⟨attr, .version kind⟩
  | some (.basic type) => .ok ⟨attr, .basic type⟩
  | some (.manyToOne target) => do
    return ⟨attr, .manyToOne (← set.resolveTarget owner attr.name target)⟩

/-- Maps attributes in order as far as possible, with the defect that ends the mapping. -/
def mapAttributes (set : EntitySet) (owner : String) :
    List Attribute → List MappedAttribute × Option Defect
  | [] => ([], none)
  | attr :: attrs =>
    match set.mapAttribute owner attr with
    | .error defect => ([], some defect)
    | .ok mapped =>
      let (others, defect) := set.mapAttributes owner attrs
      (mapped :: others, defect)

/-- Maps all attributes of an entity. -/
def mapEntity (set : EntitySet) (entity : Entity) : Except Defect (List MappedAttribute) :=
  match set.mapAttributes entity.name entity.attributes with
  | (mapped, none) => .ok mapped
  | (_, some defect) => .error defect

end EntitySet

/-- The scalar that a column holds: its own, or that of the target's identifier. -/
def MappedType.scalar : MappedType → Scalar
  | identifier kind _ => kind.scalar
  | version kind => kind.scalar
  | basic type => type.scalar
  | manyToOne target => target.idKind.scalar

/-- The type of a property of the persisted class: a scalar, or the persisted class of a
relationship's target. -/
inductive ValueType where
  | scalar (type : Scalar)
  | entity (typeName : String)
  deriving DecidableEq, Repr

namespace ValueType

/-- The name of a type in Kotlin sources. -/
def kotlinName : ValueType → String
  | scalar type => type.kotlinName
  | entity typeName => typeName

/-- The name of a type in Java sources. -/
def javaName : ValueType → String
  | scalar type => type.javaName
  | entity typeName => typeName

end ValueType

namespace MappedAttribute

/-- The declared name of an attribute. -/
def name (mapped : MappedAttribute) : String := mapped.source.name

/-- The property of an attribute in the persisted class. -/
def property (mapped : MappedAttribute) : String := Naming.property mapped.name

/-- The case of an attribute among orders and predicates. -/
def caseName (mapped : MappedAttribute) : String := Naming.caseName mapped.name

/-- The target of an attribute, if it is a relationship. -/
def target? (mapped : MappedAttribute) : Option Target :=
  match mapped.type with
  | .manyToOne target => some target
  | _ => none

/-- The type of an attribute in the persisted class. -/
def valueType (mapped : MappedAttribute) : ValueType :=
  match mapped.type with
  | .manyToOne target => .entity (Naming.entityType target.entityName)
  | type => .scalar type.scalar

/-- The property of an attribute in client-facing data. A relationship collapses to the key of its
target. -/
def flat (mapped : MappedAttribute) : FlatProperty :=
  match mapped.type with
  | .manyToOne target =>
    ⟨Naming.foreignKey mapped.name target.identifierName, target.idKind.scalar⟩
  | type => ⟨mapped.property, type.scalar⟩

end MappedAttribute

end PersistenceLayer
