import PersistenceLayer.Artifact.Kind
import PersistenceLayer.Artifact.Mapping
import PersistenceLayer.Text.Blank
import PersistenceLayer.Text.LineSet

/-!
# Source files

A source file is a package statement, a block of imports and the lines of its
body. The imports that attributes bring along depend on the scalars they hold
and on the packages of the entities they refer to.
-/

namespace PersistenceLayer

/-- A generated source file. -/
structure SourceFile where
  packageName : String
  language : Language
  imports : Text.LineSet
  body : List String

namespace SourceFile

/-- The file of an entity with the given imports, by qualified name, and the given body. -/
def ofEntity (entity : Entity) (language : Language) (imports body : List String) : SourceFile :=
  { packageName := entity.packageName
    language := language
    imports := .ofList (imports.map language.importLine)
    body := body }

/-- Lines as a text, each ended. -/
def unlines (lines : List String) : String :=
  String.join (lines.map fun line => line ++ "\n")

/-- The package statement and the imports, each with an empty line after them if there are any. -/
def preludeLines (packageName : String) (imports : Text.LineSet) (language : Language) :
    List String :=
  (if Text.isBlank packageName then []
    else ["package " ++ packageName ++ language.terminator, ""]) ++
  (if imports.lines.isEmpty then [] else imports.lines ++ [""])

/-- All lines of a file. -/
def lines (file : SourceFile) : List String :=
  preludeLines file.packageName file.imports file.language ++ file.body

/-- The text of a file. -/
def text (file : SourceFile) : String :=
  unlines file.lines

end SourceFile

/-- The qualified name of a type that is generated for a target, if it lies in another package. -/
def Target.foreignType? (target : Target) (owner typeName : String) : Option String :=
  if target.packageName = owner then none
  else some (Naming.qualified (Text.isBlank target.packageName) target.packageName typeName)

namespace MappedAttribute

/-- The qualified names that an attribute's types have to be imported by, for an owner in the given
package: the scalar it holds, and the persisted class of a target in another package. -/
def typeImports (owner : String) (mapped : MappedAttribute) : List String :=
  mapped.type.scalar.qualifiedName?.toList ++
    (mapped.target?.bind fun target =>
      target.foreignType? owner (Naming.entityType target.entityName)).toList

/-- The qualified names of the metamodels that an attribute's criteria paths lead into. -/
def metamodelImports (owner : String) (mapped : MappedAttribute) : List String :=
  (mapped.target?.bind fun target =>
    target.foreignType? owner (Naming.metamodelType target.entityName)).toList

end MappedAttribute

/-- The import lines of the types of some attributes. -/
def typeImportLines (language : Language) (owner : String) (attrs : List MappedAttribute) :
    List String :=
  (attrs.flatMap (MappedAttribute.typeImports owner)).map language.importLine

end PersistenceLayer
