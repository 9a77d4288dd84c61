import PersistenceLayer.Artifact.SourceFile
import PersistenceLayer.Options

/-!
# Data holders

The data holder of an entity is a class that implements its contract. Each
property starts out as null; with composable data it delegates to an observable
state cell instead of being stored.
-/

namespace PersistenceLayer.DataHolder

/-- The imports of a data holder apart from those of its types. -/
def fixedImports (options : Options) : List String :=
  if options.composableData then
    ["androidx.compose.runtime.getValue", "androidx.compose.runtime.mutableStateOf",
      "androidx.compose.runtime.setValue"]
  else []

/-- The properties of a data holder. -/
def properties (attrs : List MappedAttribute) : List FlatProperty :=
  attrs.map MappedAttribute.flat

/-- What follows the type of a property. -/
def initializer (options : Options) : String :=
  if options.composableData then " by mutableStateOf(null)" else " = null"

/-- The line that declares a property. -/
def declarationLine (options : Options) (property : FlatProperty) : String :=
  "    override var " ++ property.name ++ ": " ++ property.scalar.kotlinName ++ "?" ++
    initializer options

/-- The body of a data holder. -/
def body (options : Options) (entity : String) (properties : List FlatProperty) : List String :=
  ["open class " ++ Naming.dataType entity ++ " : " ++ Naming.contractType entity ++ " \x7b", ""] ++
    properties.flatMap (fun property => [declarationLine options property, ""]) ++ ["\x7d"]

end PersistenceLayer.DataHolder
