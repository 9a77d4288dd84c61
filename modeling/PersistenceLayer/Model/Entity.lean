import PersistenceLayer.Model.ColumnType

/-!
# Entities and their attributes

An entity is a named list of attributes together with the names its table goes
by. Names that are not given and flags that are not set stay out of the
generated annotations, so each of them is optional.
-/

namespace PersistenceLayer

/-- The validation constraints that an attribute can carry. -/
inductive Constraint where
  | notNull
  | notBlank
  | notEmpty
  deriving DecidableEq, Repr

/-- The name of a constraint, in models and in generated markers alike. -/
def Constraint.name : Constraint → String
  | notNull => "NotNull"
  | notBlank => "NotBlank"
  | notEmpty => "NotEmpty"

/-- An attribute. Its column type may be left undeclared, but then nothing can be generated for
its entity. -/
structure Attribute where
  name : String
  columnType : Option ColumnType := none
  columnName : Option String := none
  isUnique : Option Bool := none
  isNullable : Option Bool := none
  isInsertable : Option Bool := none
  isUpdatable : Option Bool := none
  constraints : List Constraint := []
  deriving DecidableEq, Repr

namespace Attribute

/-- Whether new rows take the attribute from client data; unless the flag says otherwise they do. -/
def allowsInsert (attr : Attribute) : Bool :=
  attr.isInsertable.getD true

/-- Whether existing rows take the attribute from client data; unless the flag says otherwise they
do. -/
def allowsUpdate (attr : Attribute) : Bool :=
  attr.isUpdatable.getD true

/-- The type of identifier that an attribute declares, if it does. -/
def idKind? (attr : Attribute) : Option IdKind :=
  attr.columnType.bind ColumnType.idKind?

end Attribute

/-- An entity. -/
structure Entity where
  name : String
  packageName : String := ""
  entityName : Option String := none
  tableName : Option String := none
  tableSchema : Option String := none
  attributes : List Attribute := []
  deriving DecidableEq, Repr

namespace Entity

/-- The names of the attributes, in the order of declaration. -/
def attributeNames (entity : Entity) : List String :=
  entity.attributes.map Attribute.name

/-- The first attribute with a name. -/
def attributeNamed? (entity : Entity) (name : String) : Option Attribute :=
  entity.attributes.find? fun attr => attr.name == name

/-- The first identifier, with its type. -/
def identifier? (entity : Entity) : Option (Attribute × IdKind) :=
  entity.attributes.findSome? fun attr =>
    attr.idKind?.map fun kind => (attr, kind)

end Entity

end PersistenceLayer
