import PersistenceLayer.Artifact.Emission

/-!
# Rendered artifacts

The file of an artifact depends on the entity's own names, its mapped attributes
and the options; it is described here at one go, as a function of them. A
rendered artifact is the text of its file as it is emitted, with the place it
belongs to.
-/

namespace PersistenceLayer

namespace Kind

/-- The qualified names that an artifact imports whatever its attributes are. -/
def fixedImports (kind : Kind) (options : Options) : List String :=
  match kind with
  | contract => Contract.fixedImports options
  | dataHolder => DataHolder.fixedImports options
  | metamodel => Metamodel.fixedImports
  | persisted => Persisted.fixedImports
  | vocabulary => []
  | extension => Extension.fixedImports

/-- The qualified names that an artifact imports for an attribute of an owner in the given
package. -/
def attributeImports (kind : Kind) (owner : String) (mapped : MappedAttribute) : List String :=
  match kind with
  | extension => mapped.typeImports owner ++ mapped.metamodelImports owner
  | _ => mapped.typeImports owner

/-- The qualified names that an artifact imports. -/
def importedNames (kind : Kind) (options : Options) (owner : String)
    (attrs : List MappedAttribute) : List String :=
  kind.fixedImports options ++ attrs.flatMap (kind.attributeImports owner)

/-- The body of an artifact. -/
def body (kind : Kind) (options : Options) (entity : Entity) (attrs : List MappedAttribute) :
    List String :=
  match kind with
  | contract => Contract.body entity.name (Contract.properties options attrs)
  | dataHolder => DataHolder.body options entity.name (DataHolder.properties attrs)
  | metamodel => Metamodel.body entity.name (Metamodel.handles attrs)
  | persisted =>
    Persisted.body entity.name (Persisted.classAnnotations entity) (Persisted.properties attrs)
  | vocabulary =>
    Vocabulary.body entity.name (Vocabulary.orderCases attrs) (Vocabulary.predicateCases attrs)
  | extension =>
    Extension.body entity.name (Extension.orderBranches entity.name attrs)
      (Extension.predicateBranches entity.name attrs)
      (Extension.entityAssignments .insertable attrs)
      (Extension.entityAssignments .updatable attrs) (Extension.dataAssignments attrs)

/-- The source file of an artifact. -/
def sourceFile (kind : Kind) (options : Options) (entity : Entity)
    (attrs : List MappedAttribute) : SourceFile :=
  .ofEntity entity kind.language (kind.importedNames options entity.packageName attrs)
    (kind.body options entity attrs)

end Kind

/-- A rendered artifact that is not written yet. -/
structure Artifact where
  entity : String
  kind : Kind
  path : Path
  contents : String
  deriving DecidableEq, Repr

/-- The artifact of an entity whose file is given. -/
def Entity.artifactOf (entity : Entity) (kind : Kind) (file : SourceFile) : Artifact :=
  { entity := entity.name
    kind := kind
    path := kind.relativePath entity.name entity.packageName
    contents := file.text }

/-- The artifact of an entity with mapped attributes. -/
def Entity.artifact (entity : Entity) (options : Options) (attrs : List MappedAttribute)
    (kind : Kind) : Artifact :=
  entity.artifactOf kind (kind.sourceFile options entity attrs)

namespace EntitySet

/-- Renders one artifact of an entity, which need not belong to the set. -/
def render (set : EntitySet) (options : Options) (entity : Entity) (kind : Kind) :
    Except Defect Artifact := do
  return entity.artifactOf kind (← set.emit options entity kind)

/-- Renders every artifact that a run generates for an entity. -/
def renderEntity (set : EntitySet) (options : Options) (entity : Entity) :
    Except Defect (List Artifact) :=
  (Kind.ofOptions options).mapM (set.render options entity)

end EntitySet

end PersistenceLayer
