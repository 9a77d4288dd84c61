import PersistenceLayer.Artifact.SourceFile

/-!
# Static metamodels

The static metamodel of an entity has one handle per attribute, by which
criteria refer to the properties of the persisted class.
-/

namespace PersistenceLayer

/-- The handle of an attribute. -/
structure Handle where
  name : String
  type : ValueType
  deriving DecidableEq, Repr

/-- The handle that an attribute contributes to a metamodel. -/
def MappedAttribute.handle (mapped : MappedAttribute) : Handle :=
  ⟨mapped.property, mapped.valueType⟩

namespace Metamodel

/-- The imports of a metamodel apart from those of its types. -/
def fixedImports : List String := ["jakarta.persistence.metamodel.*"]

/-- The handles of a metamodel. -/
def handles (attrs : List MappedAttribute) : List Handle :=
  attrs.map MappedAttribute.handle

/-- The line that declares a handle. -/
def declarationLine (entity : String) (handle : Handle) : String :=
  "    public static volatile SingularAttribute<" ++ Naming.entityType entity ++ ", " ++
    handle.type.javaName ++ "> " ++ handle.name ++ ";"

/-- The body of a metamodel. -/
def body (entity : String) (handles : List Handle) : List String :=
  ["@StaticMetamodel(" ++ Naming.entityType entity ++ ".class)",
    "public class " ++ Naming.metamodelType entity ++ " \x7b", ""] ++
    handles.flatMap (fun handle => [declarationLine entity handle, ""]) ++ ["\x7d"]

end Metamodel

end PersistenceLayer
