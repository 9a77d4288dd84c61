import PersistenceLayer.Json.Printer
import PersistenceLayer.Model.EntitySet

/-!
# Models as JSON values

A model is written with its fields in the order of declaration and the tags of
its column types in front. A name, flag or number that is not set is left out,
and so are empty constraints; an undeclared column type is written as null.
-/

namespace PersistenceLayer

open Json (Value)

/-- A member that is written only if it has a value. -/
def optionalMember {α : Type} (name : String) (encode : α → Value) (value : Option α) :
    List (String × Value) :=
  (value.map fun content => (name, encode content)).toList

/-- A number of a column type as a JSON value. -/
def wordValue (word : UInt32) : Value := .integer word.toNat

/-- The name of an identifier type in models. -/
def IdKind.name : IdKind → String
  | integer => "integer"
  | long => "long"
  | uuid => "uuid"

/-- The name of a counter type in models. -/
def VersionKind.name : VersionKind → String
  | integer => "integer"
  | long => "long"

/-- The members that write a plain column type. -/
def BasicType.members : BasicType → List (String × Value)
  | integer => [("type", .text "integer")]
  | long => [("type", .text "long")]
  | boolean => [("type", .text "boolean")]
  | string length => ("type", .text "string") :: optionalMember "length" wordValue length
  | bigDecimal precision scale =>
    ("type", .text "big_decimal") ::
      (optionalMember "precision" wordValue precision ++ optionalMember "scale" wordValue scale)
  | byteArray => [("type", .text "byte_array")]
  | uuid => [("type", .text "uuid")]
  | localDateTime => [("type", .text "local_date_time")]
  | zonedDateTime => [("type", .text "zoned_date_time")]

/-- A column type as a JSON value. -/
def ColumnType.toValue : ColumnType → Value
  | identifier kind generated =>
    .object [("category", .text "id"), ("id_type", .text kind.name),
      ("auto_generated", .boolean generated)]
  | version kind => .object [("category", .text "version"), ("version_type", .text kind.name)]
  | basic type => .object (("category", .text "basic") :: type.members)
  | manyToOne target => .object [("category", .text "many_to_one"), ("target", .text target)]

/-- The constraints of an attribute as the member that writes them. -/
def constraintMember (constraints : List Constraint) : List (String × Value) :=
  if constraints.isEmpty then []
  else [("constraints", .list (constraints.map fun constraint => .text constraint.name))]

/-- An attribute as a JSON value. -/
def Attribute.toValue (attr : Attribute) : Value :=
  .object <|
    [("name", .text attr.name),
      ("column_type", (attr.columnType.map ColumnType.toValue).getD .null)] ++
    optionalMember "column_name" .text attr.columnName ++
    optionalMember "column_unique" .boolean attr.isUnique ++
    optionalMember "column_nullable" .boolean attr.isNullable ++
    optionalMember "column_insertable" .boolean attr.isInsertable ++
    optionalMember "column_updatable" .boolean attr.isUpdatable ++
    constraintMember attr.constraints

/-- An entity as a JSON value. -/
def Entity.toValue (entity : Entity) : Value :=
  .object <|
    [("name", .text entity.name), ("package_name", .text entity.packageName)] ++
    optionalMember "entity_name" .text entity.entityName ++
    optionalMember "table_name" .text entity.tableName ++
    optionalMember "table_schema" .text entity.tableSchema ++
    [("attributes", .list (entity.attributes.map Attribute.toValue))]

/-- A list of entities as a JSON value. -/
def entitiesValue (entities : List Entity) : Value :=
  .list (entities.map Entity.toValue)

/-- The JSON text of a list of entities. -/
def entitiesJson (entities : List Entity) : String :=
  (entitiesValue entities).render

/-- The JSON text of a set. -/
def EntitySet.toJson (set : EntitySet) : String :=
  entitiesJson set.entities

/-- The JSON text of one entity. -/
def Entity.toJson (entity : Entity) : String :=
  entity.toValue.render

/-- The JSON text of a column type. -/
def ColumnType.toJson (type : ColumnType) : String :=
  type.toValue.render

end PersistenceLayer
