import PersistenceLayer.Artifact.SourceFile

/-!
# Persisted classes

The persisted class of an entity maps it to a table. Annotations say how; a
parameter is written only if the model sets it, so that nothing is decided for
the database that was not declared.
-/

namespace PersistenceLayer

/-- The argument of an annotation parameter. -/
inductive Argument where
  | text (value : String)
  | flag (value : Bool)
  | number (value : UInt32)
  | constant (name : String)
  deriving DecidableEq, Repr

/-- An argument as it is written. -/
def Argument.render : Argument → String
  | text value => "\"" ++ value ++ "\""
  | flag true => "true"
  | flag false => "false"
  | number value => toString value.toNat
  | constant name => name

/-- A named parameter of an annotation. -/
structure Parameter where
  name : String
  argument : Argument
  deriving DecidableEq, Repr

/-- A parameter as it is written. -/
def Parameter.render (parameter : Parameter) : String :=
  parameter.name ++ " = " ++ parameter.argument.render

/-- An annotation with its parameters. -/
structure Annotation where
  name : String
  parameters : List Parameter
  deriving DecidableEq, Repr

namespace Annotation

/-- The parameter list with its parentheses; without parameters there are none. -/
def parameterList (parameters : List Parameter) : String :=
  if parameters.isEmpty then ""
  else "(" ++ ", ".intercalate (parameters.map Parameter.render) ++ ")"

/-- An annotation as it is written. -/
def render (mark : Annotation) : String :=
  "@" ++ mark.name ++ parameterList mark.parameters

end Annotation

/-- A parameter that is written only if it has a value. -/
def optionalParameter {α : Type} (name : String) (argument : α → Argument) (value : Option α) :
    List Parameter :=
  (value.map fun content => ⟨name, argument content⟩).toList

/-- The parameter of a declared name; a blank name counts as none. -/
def nameParameter (name : String) (value : Option String) : List Parameter :=
  optionalParameter name .text (Text.nonBlank? value)

/-- The parameters that limit the values of a plain column. -/
def BasicType.parameters : BasicType → List Parameter
  | string length => optionalParameter "length" .number length
  | bigDecimal precision scale =>
    optionalParameter "precision" .number precision ++ optionalParameter "scale" .number scale
  | _ => []

/-- The parameters that a column shares with every other kind of column. -/
def Attribute.columnParameters (attr : Attribute) : List Parameter :=
  nameParameter "name" attr.columnName ++
    optionalParameter "unique" .flag attr.isUnique ++
    optionalParameter "nullable" .flag attr.isNullable ++
    optionalParameter "insertable" .flag attr.isInsertable ++
    optionalParameter "updatable" .flag attr.isUpdatable

/-- The way in which the database generates an identifier. -/
def IdKind.generationStrategy : IdKind → String
  | integer | long => "GenerationType.IDENTITY"
  | uuid => "GenerationType.UUID"

/-! ## Annotations of properties -/

/-- The annotations of an identifier. -/
def identifierAnnotations (kind : IdKind) (generated : Bool) (column : List Parameter) :
    List Annotation :=
  [⟨"get:Id", []⟩] ++
    (if generated then
      [⟨"get:GeneratedValue", [⟨"strategy", .constant kind.generationStrategy⟩]⟩]
    else []) ++
    [⟨"get:Column", column⟩]

/-- The annotations of a counter. -/
def versionAnnotations (column : List Parameter) : List Annotation :=
  [⟨"get:Version", []⟩, ⟨"get:Column", column⟩]

/-- The annotations of a plain column. -/
def basicAnnotations (type : BasicType) (column : List Parameter) : List Annotation :=
  [⟨"get:Column", column ++ type.parameters⟩]

/-- The annotations of a relationship. -/
def relationshipAnnotations (column : List Parameter) : List Annotation :=
  [⟨"get:ManyToOne", []⟩, ⟨"get:JoinColumn", column⟩]

/-- The annotations of an attribute's property. -/
def MappedAttribute.annotations (mapped : MappedAttribute) : List Annotation :=
  let column := mapped.source.columnParameters
  match mapped.type with
  | .identifier kind generated => identifierAnnotations kind generated column
  | .version _ => versionAnnotations column
  | .basic type => basicAnnotations type column
  | .manyToOne _ => relationshipAnnotations column

/-- A property of a persisted class. -/
structure PersistedProperty where
  annotations : List Annotation
  name : String
  type : ValueType
  deriving DecidableEq, Repr

/-- The property that an attribute contributes to a persisted class. -/
def MappedAttribute.persistedProperty (mapped : MappedAttribute) : PersistedProperty :=
  ⟨mapped.annotations, mapped.property, mapped.valueType⟩

namespace PersistedProperty

/-- The line that declares a property. -/
def declarationLine (property : PersistedProperty) : String :=
  "    open var " ++ property.name ++ ": " ++ property.type.kotlinName ++ "? = null"

/-- The lines of a property. -/
def lines (property : PersistedProperty) : List String :=
  property.annotations.map (fun mark => "    " ++ mark.render) ++
    [property.declarationLine]

end PersistedProperty

namespace Persisted

/-- The imports of a persisted class apart from those of its types. -/
def fixedImports : List String := ["jakarta.persistence.*"]

/-- The annotations of the class itself. -/
def classAnnotations (entity : Entity) : List Annotation :=
  [⟨"Entity", nameParameter "name" entity.entityName⟩,
    ⟨"Table", nameParameter "name" entity.tableName ++ nameParameter "schema" entity.tableSchema⟩]

/-- The properties of a persisted class. -/
def properties (attrs : List MappedAttribute) : List PersistedProperty :=
  attrs.map MappedAttribute.persistedProperty

/-- The body of a persisted class. -/
def body (entity : String) (annotations : List Annotation) (properties : List PersistedProperty) :
    List String :=
  annotations.map Annotation.render ++
    ["open class " ++ Naming.entityType entity ++ " \x7b", ""] ++
    properties.flatMap (fun property => property.lines ++ [""]) ++ ["\x7d"]

end Persisted

end PersistenceLayer
