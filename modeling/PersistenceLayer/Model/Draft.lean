import PersistenceLayer.Model.EntitySet

/-!
# Drafts of entity sets

A set can be declared step by step. The steps of a draft are scoped: those of an
attribute stand inside the step that declares it, and those of an entity inside
its draft. An attribute is put behind the others as soon as it is declared, and
its steps change it where it stands.
-/

namespace PersistenceLayer

/-- A step that configures one attribute. -/
inductive AttributeStep where
  | columnType (type : ColumnType)
  | columnName (name : String)
  | unique (flag : Bool)
  | nullable (flag : Bool)
  | insertable (flag : Bool)
  | updatable (flag : Bool)
  | constrain (constraint : Constraint)
  deriving DecidableEq, Repr

/-- An attribute after one more step. -/
def AttributeStep.apply (attr : Attribute) : AttributeStep → Attribute
  | columnType type => { attr with columnType := some type }
  | columnName name => { attr with columnName := some name }
  | unique flag => { attr with isUnique := some flag }
  | nullable flag => { attr with isNullable := some flag }
  | insertable flag => { attr with isInsertable := some flag }
  | updatable flag => { attr with isUpdatable := some flag }
  | constrain constraint =>
    { attr with constraints := attr.constraints ++ [constraint] }

/-- An entity after one more step of the attribute at a place. -/
def AttributeStep.applyAt (place : Nat) (entity : Entity) (step : AttributeStep) : Entity :=
  { entity with
    attributes := entity.attributes.modify place fun attr => AttributeStep.apply attr step }

/-- An entity with an attribute behind the others. -/
def Entity.push (entity : Entity) (attr : Attribute) : Entity :=
  { entity with attributes := entity.attributes ++ [attr] }

/-- A step that configures one entity. The last one declares an attribute with its own steps. -/
inductive EntityStep where
  | entityName (name : String)
  | tableName (name : String)
  | tableSchema (name : String)
  | declare (name : String) (type : Option ColumnType) (steps : List AttributeStep)
  deriving DecidableEq, Repr

/-- An entity after one more step. -/
def EntityStep.apply (entity : Entity) : EntityStep → Entity
  | entityName name => { entity with entityName := some name }
  | tableName name => { entity with tableName := some name }
  | tableSchema name => { entity with tableSchema := some name }
  | declare name type steps =>
    let extended := entity.push { name := name, columnType := type }
    steps.foldl (AttributeStep.applyAt (extended.attributes.length - 1)) extended

/-- The draft of an entity. -/
structure EntityDraft where
  name : String
  packageName : String
  steps : List EntityStep
  deriving DecidableEq, Repr

/-- The entity that a draft declares. -/
def EntityDraft.entity (draft : EntityDraft) : Entity :=
  draft.steps.foldl EntityStep.apply { name := draft.name, packageName := draft.packageName }

/-- The entities declared so far, with that of one more draft. -/
def EntityDraft.declareAfter (entities : List Entity) (draft : EntityDraft) : List Entity :=
  entities ++ [draft.entity]

/-- The set that drafts declare, or the first duplicate among them. -/
def EntitySet.ofDrafts (drafts : List EntityDraft) : Except Defect EntitySet :=
  EntitySet.ofEntities (drafts.foldl EntityDraft.declareAfter [])

end PersistenceLayer
