import PersistenceLayer.Text.Casing

/-!
# Generated names

Every name in a generated source is formed from declared names here, so that two
artifacts that mean the same thing write the same name.
-/

namespace PersistenceLayer.Naming

open Text (capitalized decapitalized)

/-- The persisted type of an entity. -/
def entityType (entity : String) : String := capitalized entity ++ "Entity"

/-- The static metamodel of an entity. -/
def metamodelType (entity : String) : String := entityType entity ++ "_"

/-- The contract of an entity. -/
def contractType (entity : String) : String := "I" ++ capitalized entity

/-- The data holder of an entity. -/
def dataType (entity : String) : String := capitalized entity ++ "Data"

/-- The orders of an entity. -/
def orderType (entity : String) : String := capitalized entity ++ "Order"

/-- The predicates of an entity. -/
def predicateType (entity : String) : String := capitalized entity ++ "Predicate"

/-- The orders and predicates of an entity as a file. -/
def vocabularyFile (entity : String) : String := capitalized entity ++ "OrdersPredicates"

/-- The queries and copies of an entity as a file. -/
def extensionFile (entity : String) : String := capitalized entity ++ "Extension"

/-- The property of an attribute, and its handle in a metamodel. -/
def property (attr : String) : String := decapitalized attr

/-- The case of an attribute among orders and predicates. -/
def caseName (attr : String) : String := capitalized attr

/-- The property that holds the key of a relationship's target. -/
def foreignKey (attr identifier : String) : String := decapitalized attr ++ capitalized identifier

/-- A name of a package, which goes without the package if that is blank. -/
def qualified (packageIsBlank : Bool) (packageName name : String) : String :=
  if packageIsBlank then name else packageName ++ "." ++ name

end PersistenceLayer.Naming
