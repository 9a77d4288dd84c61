import PersistenceLayer.Artifact.Naming
import PersistenceLayer.Path
import PersistenceLayer.Options

/-!
# Kinds of artifacts

Each entity becomes up to six files. The kinds are listed in the order in which
they are generated.
-/

namespace PersistenceLayer

/-- The languages that artifacts are written in. -/
inductive Language where
  | kotlin
  | java
  deriving DecidableEq, Repr

namespace Language

/-- The extension of source files. -/
def extension : Language → String
  | kotlin => "kt"
  | java => "java"

/-- What ends a statement. -/
def terminator : Language → String
  | kotlin => ""
  | java => ";"

/-- The statement that imports a qualified name. -/
def importLine (language : Language) (qualified : String) : String :=
  "import " ++ qualified ++ language.terminator

end Language

/-- The kinds of artifacts. -/
inductive Kind where
  /-- The interface that client-facing data satisfies. -/
  | contract
  /-- The class that holds client-facing data. -/
  | dataHolder
  /-- The static metamodel of the persisted class. -/
  | metamodel
  /-- The persisted class with its mapping annotations. -/
  | persisted
  /-- The orders and predicates of queries. -/
  | vocabulary
  /-- The functions that run queries and copy data. -/
  | extension
  deriving DecidableEq, Repr

namespace Kind

/-- All kinds, in the order of generation. -/
def all : List Kind :=
  [contract, dataHolder, metamodel, persisted, vocabulary, extension]

/-- The kinds of client-facing data. -/
def dataOnly : List Kind := [contract, dataHolder]

/-- The kinds that a run generates for every entity. -/
def ofOptions (options : Options) : List Kind :=
  if options.onlyData then dataOnly else all

/-- The language of a kind. -/
def language : Kind → Language
  | metamodel => .java
  | _ => .kotlin

/-- The name of an entity's file, without its extension. -/
def stem (kind : Kind) (entity : String) : String :=
  match kind with
  | contract => Naming.contractType entity
  | dataHolder => Naming.dataType entity
  | metamodel => Naming.metamodelType entity
  | persisted => Naming.entityType entity
  | vocabulary => Naming.vocabularyFile entity
  | extension => Naming.extensionFile entity

/-- The name of an entity's file. -/
def fileName (kind : Kind) (entity : String) : String :=
  kind.stem entity ++ "." ++ kind.language.extension

/-- The path of an entity's file below the output directory. -/
def relativePath (kind : Kind) (entity packageName : String) : Path :=
  (Path.ofPackage packageName).join ⟨kind.fileName entity⟩

end Kind

end PersistenceLayer
