import PersistenceLayer.Json.Tagged
import PersistenceLayer.Model.EntitySet

/-!
# Models from JSON texts

The readers of column types, attributes, entities and sets. The first problem of
a text is the one that is reported; a duplicate is a problem that shows when the
list of entities is complete, before what follows it is looked at.
-/

namespace PersistenceLayer

open Json

/-! ## Column types -/

/-- The choices of identifier types. -/
def IdKind.choices : List (String × IdKind) :=
  [("integer", .integer), ("long", .long), ("uuid", .uuid)]

/-- The choices of counter types. -/
def VersionKind.choices : List (String × VersionKind) :=
  [("integer", .integer), ("long", .long)]

/-- The choices of constraints. -/
def Constraint.choices : List (String × Constraint) :=
  [("NotNull", .notNull), ("NotBlank", .notBlank), ("NotEmpty", .notEmpty)]

namespace ColumnType

/-- The four ways a column type can be written. -/
inductive Form where
  | identifier
  | version
  | basic
  | manyToOne

/-- How a column type is tagged. -/
def tagging : Tagging Form :=
  { title := "ColumnType"
    tag := "category"
    choices := [("id", .identifier), ("version", .version), ("basic", .basic),
      ("many_to_one", .manyToOne)] }

/-- The type of an identifier. -/
def idTypeField : Field Value IdKind :=
  ⟨"id_type", Value.readChoice IdKind.choices, none⟩

/-- Whether the database generates an identifier. -/
def generatedField : Field Value Bool :=
  ⟨"auto_generated", Value.readBoolean, some false⟩

/-- The type of a counter. -/
def versionTypeField : Field Value VersionKind :=
  ⟨"version_type", Value.readChoice VersionKind.choices, none⟩

/-- The entity that a relationship names. -/
def targetField : Field Value String :=
  ⟨"target", Value.readText, none⟩

/-- The shape of an identifier. -/
def identifierShape : Shape Value :=
  ⟨"struct variant ColumnType::Id", [idTypeField.rule, generatedField.rule]⟩

/-- The shape of a counter. -/
def versionShape : Shape Value :=
  ⟨"struct variant ColumnType::Version", [versionTypeField.rule]⟩

/-- The shape of a relationship. -/
def manyToOneShape : Shape Value :=
  ⟨"struct variant ColumnType::ManyToOne", [targetField.rule]⟩

end ColumnType

namespace BasicType

/-- The nine ways a plain column type can be written. -/
inductive Form where
  | plain (type : BasicType)
  | string
  | bigDecimal

/-- How a plain column type is tagged. -/
def tagging : Tagging Form :=
  { title := "BasicType"
    tag := "type"
    choices := [("integer", .plain .integer), ("long", .plain .long),
      ("boolean", .plain .boolean), ("string", .string), ("big_decimal", .bigDecimal),
      ("byte_array", .plain .byteArray), ("uuid", .plain .uuid),
      ("local_date_time", .plain .localDateTime), ("zoned_date_time", .plain .zonedDateTime)] }

/-- A number that may be left out. -/
def wordField (name : String) : Field Value (Option UInt32) :=
  ⟨name, Value.readOptional Value.readWord, some none⟩

/-- The length of a text. -/
def lengthField : Field Value (Option UInt32) := wordField "length"

/-- The precision of a decimal. -/
def precisionField : Field Value (Option UInt32) := wordField "precision"

/-- The scale of a decimal. -/
def scaleField : Field Value (Option UInt32) := wordField "scale"

/-- The shape of a text. -/
def stringShape : Shape Value :=
  ⟨"struct variant BasicType::String", [lengthField.rule]⟩

/-- The shape of a decimal. -/
def bigDecimalShape : Shape Value :=
  ⟨"struct variant BasicType::BigDecimal", [precisionField.rule, scaleField.rule]⟩

/-- Reads a plain column type from what follows the tag of the column type. -/
def ofContent (content : Content) : Except Fault BasicType := do
  let (form, content) ← tagging.splitContent content
  match form with
  | .plain type =>
    content.checkEmpty
    return type
  | .string =>
    let fields ← stringShape.contentFields content
    return .string (← lengthField.get fields)
  | .bigDecimal =>
    let fields ← bigDecimalShape.contentFields content
    return .bigDecimal (← precisionField.get fields) (← scaleField.get fields)

end BasicType

/-- Reads a column type in a document. The first argument is the number of containers that may
still be opened. -/
def ColumnType.read (room : Nat) (node : Node) : Except Fault ColumnType := do
  let (form, content) ← tagging.split room node
  match form with
  | .identifier =>
    let fields ← identifierShape.contentFields content
    return .identifier (← idTypeField.get fields) (← generatedField.get fields)
  | .version =>
    let fields ← versionShape.contentFields content
    return .version (← versionTypeField.get fields)
  | .basic => return .basic (← BasicType.ofContent content)
  | .manyToOne =>
    let fields ← manyToOneShape.contentFields content
    return .manyToOne (← targetField.get fields)

/-! ## Attributes -/

namespace Attribute

/-- The name of an attribute. -/
def nameField : Field Node String := ⟨"name", Node.readText, none⟩

/-- The column type of an attribute. The argument is the number of containers that may still be
opened in it. -/
def columnTypeField (room : Nat) : Field Node (Option ColumnType) :=
  ⟨"column_type", Node.readOptional (ColumnType.read room), some none⟩

/-- The column name of an attribute. -/
def columnNameField : Field Node (Option String) :=
  ⟨"column_name", Node.readOptional Node.readText, some none⟩

/-- A column flag of an attribute. -/
def flagField (name : String) : Field Node (Option Bool) :=
  ⟨name, Node.readOptional Node.readBoolean, some none⟩

/-- Whether column values are unique. -/
def uniqueField : Field Node (Option Bool) := flagField "column_unique"

/-- Whether column values may be missing. -/
def nullableField : Field Node (Option Bool) := flagField "column_nullable"

/-- Whether new rows set the column. -/
def insertableField : Field Node (Option Bool) := flagField "column_insertable"

/-- Whether existing rows set the column. -/
def updatableField : Field Node (Option Bool) := flagField "column_updatable"

/-- The constraints of an attribute. -/
def constraintsField : Field Node (List Constraint) :=
  ⟨"constraints", Node.readList (Node.readChoice Constraint.choices), some []⟩

/-- The shape of an attribute in which the given number of containers may still be opened. -/
def shape (room : Nat) : Shape Node :=
  ⟨"struct Attribute",
    [nameField.rule, (columnTypeField room).rule, columnNameField.rule, uniqueField.rule,
      nullableField.rule, insertableField.rule, updatableField.rule, constraintsField.rule]⟩

/-- Reads an attribute. The first argument is the number of containers that may still be opened. -/
def read (room : Nat) (node : Node) : Except Fault Attribute := do
  let fields ← (shape (room - 1)).fields node
  return {
    name := ← nameField.get fields
    columnType := ← (columnTypeField (room - 1)).get fields
    columnName := ← columnNameField.get fields
    isUnique := ← uniqueField.get fields
    isNullable := ← nullableField.get fields
    isInsertable := ← insertableField.get fields
    isUpdatable := ← updatableField.get fields
    constraints := ← constraintsField.get fields }

end Attribute

/-! ## Entities -/

namespace Entity

/-- The name of an entity. -/
def nameField : Field Node String := ⟨"name", Node.readText, none⟩

/-- The package of an entity. -/
def packageNameField : Field Node String := ⟨"package_name", Node.readText, some ""⟩

/-- A name of an entity's table or of its persisted form. -/
def optionalNameField (name : String) : Field Node (Option String) :=
  ⟨name, Node.readOptional Node.readText, some none⟩

/-- The persisted name of an entity. -/
def entityNameField : Field Node (Option String) := optionalNameField "entity_name"

/-- The table of an entity. -/
def tableNameField : Field Node (Option String) := optionalNameField "table_name"

/-- The schema of an entity's table. -/
def tableSchemaField : Field Node (Option String) := optionalNameField "table_schema"

/-- The attributes of an entity. The argument is the number of containers that may still be opened
in them. -/
def attributesField (room : Nat) : Field Node (List Attribute) :=
  ⟨"attributes", Node.readList (Attribute.read (room - 1)), some []⟩

/-- The shape of an entity in which the given number of containers may still be opened. -/
def shape (room : Nat) : Shape Node :=
  ⟨"struct Entity",
    [nameField.rule, packageNameField.rule, entityNameField.rule, tableNameField.rule,
      tableSchemaField.rule, (attributesField room).rule]⟩

/-- Reads an entity. The first argument is the number of containers that may still be opened. -/
def read (room : Nat) (node : Node) : Except Fault Entity := do
  let fields ← (shape (room - 1)).fields node
  return {
    name := ← nameField.get fields
    packageName := ← packageNameField.get fields
    entityName := ← entityNameField.get fields
    tableName := ← tableNameField.get fields
    tableSchema := ← tableSchemaField.get fields
    attributes := ← (attributesField (room - 1)).get fields }

end Entity

/-! ## Whole texts -/

/-- Reads a list of entities. -/
def readEntities (node : Node) : Except Fault (List Entity) :=
  node.readList (Entity.read (nestingLimit - 1))

/-- Reads a set of entities; a duplicate is refused in the words of the defect. -/
def EntitySet.read (node : Node) : Except Fault EntitySet := do
  match EntitySet.ofEntities (← readEntities node) with
  | .ok set => return set
  | .error defect => .error (.unplaced (.refused defect.message))

/-- The set of entities in a JSON text. -/
def EntitySet.ofJson (text : String) : Except Fault EntitySet :=
  (Document.ofText text).read EntitySet.read

/-- The list of entities in a JSON text, duplicates included. -/
def entitiesOfJson (text : String) : Except Fault (List Entity) :=
  (Document.ofText text).read readEntities

/-- The entity in a JSON text. -/
def Entity.ofJson (text : String) : Except Fault Entity :=
  (Document.ofText text).read (Entity.read nestingLimit)

/-- The column type in a JSON text. -/
def ColumnType.ofJson (text : String) : Except Fault ColumnType :=
  (Document.ofText text).read (ColumnType.read nestingLimit)

end PersistenceLayer
