/-!
# Defects of a model

Everything that can be wrong with a declared model as such, as opposed to the
text it was read from and the place its artifacts are written to.
-/

namespace PersistenceLayer

/-- A defect names the entity and, where it has one, the attribute it was found at. -/
inductive Defect where
  | undeclaredColumnType (entity attr : String)
  | unknownEntity (entity attr target : String)
  | missingIdentifier (entity attr target : String)
  | duplicateEntity (entity : String)
  | duplicateAttribute (entity attr : String)
  deriving DecidableEq, Repr

/-- The wording of a defect. -/
def Defect.message : Defect → String
  | undeclaredColumnType entity attr =>
    "'columnType' of attribute '" ++ attr ++ "' in entity '" ++ entity ++ "' is not declared"
  | unknownEntity entity attr target =>
    "'target' of attribute '" ++ attr ++ "' in entity '" ++ entity ++
      "' is a unknown entity ('" ++ target ++ "')"
  | missingIdentifier entity attr target =>
    "'target' of attribute '" ++ attr ++ "' in entity '" ++ entity ++
      "' does not declare an identifier ('" ++ target ++ "')"
  | duplicateEntity entity => "entity '" ++ entity ++ "' is declared more than once"
  | duplicateAttribute entity attr =>
    "attribute '" ++ attr ++ "' is declared more than once in entity '" ++ entity ++ "'"

end PersistenceLayer
