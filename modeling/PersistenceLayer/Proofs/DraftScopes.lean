import Mathlib.Data.List.Induction
import PersistenceLayer.Model.Draft

/-!
# Scopes of drafts

What a draft declares can be read off its steps without following them. A name,
flag or type is what the last step that sets it says, the constraints are all
those that were added, and an attribute or entity has the steps that stand inside
its own declaration and no others. Some drafts declare any given entities.
-/

namespace PersistenceLayer

/-! ## What steps set -/

/-- What the last of some steps that set something sets it to. -/
def lastSet {α β : Type} (sets : α → Option β) (steps : List α) : Option β :=
  (steps.filterMap sets).getLast?

section

variable {α β : Type} (sets : α → Option β)

/-- Of two groups of steps the later one has its way if it sets something. -/
theorem lastSet_append (earlier later : List α) :
    lastSet sets (earlier ++ later) = (lastSet sets later).or (lastSet sets earlier) := by
  rw [lastSet, lastSet, lastSet, List.filterMap_append, List.getLast?_append]

theorem lastSet_singleton (step : α) : lastSet sets [step] = sets step := by
  cases h : sets step <;> simp [lastSet, h]

/-- Steps that are there only if there is a value for them. -/
theorem filterMap_toList_map {γ : Type} (step : γ → α) (value : Option γ) :
    (value.map step).toList.filterMap sets =
      (value.bind fun content => sets (step content)).toList := by
  cases value with
  | none => rfl
  | some content => cases h : sets (step content) <;> simp [h]

theorem lastSet_toList_map {γ : Type} (step : γ → α) (value : Option γ) :
    lastSet sets (value.map step).toList = value.bind fun content => sets (step content) := by
  rw [lastSet, filterMap_toList_map]
  cases value.bind fun content => sets (step content) <;> rfl

theorem lastSet_map {γ : Type} (step : γ → α) (items : List γ) :
    lastSet sets (items.map step) = lastSet (fun item => sets (step item)) items := by
  rw [lastSet, List.filterMap_map]
  rfl

/-- Nothing is set by steps that set nothing. -/
theorem lastSet_none (steps : List α) : lastSet (fun _ => (none : Option β)) steps = none := by
  simp [lastSet]

end

namespace AttributeStep

/-- The column type that a step sets, if it does. -/
def columnType? : AttributeStep → Option ColumnType
  | columnType type => some type
  | _ => none

/-- The column name that a step sets, if it does. -/
def columnName? : AttributeStep → Option String
  | columnName name => some name
  | _ => none

/-- The flag for uniqueness that a step sets, if it does. -/
def unique? : AttributeStep → Option Bool
  | unique flag => some flag
  | _ => none

/-- The flag for null values that a step sets, if it does. -/
def nullable? : AttributeStep → Option Bool
  | nullable flag => some flag
  | _ => none

/-- The flag for new rows that a step sets, if it does. -/
def insertable? : AttributeStep → Option Bool
  | insertable flag => some flag
  | _ => none

/-- The flag for existing rows that a step sets, if it does. -/
def updatable? : AttributeStep → Option Bool
  | updatable flag => some flag
  | _ => none

/-- The constraint that a step adds, if it does. -/
def constraint? : AttributeStep → Option Constraint
  | constrain constraint => some constraint
  | _ => none

end AttributeStep

/-- The attribute that a declaration with some steps describes. The type that it is declared with
holds unless a step sets another one. -/
def Attribute.described (name : String) (type : Option ColumnType) (steps : List AttributeStep) :
    Attribute where
  name := name
  columnType := (lastSet AttributeStep.columnType? steps).or type
  columnName := lastSet AttributeStep.columnName? steps
  isUnique := lastSet AttributeStep.unique? steps
  isNullable := lastSet AttributeStep.nullable? steps
  isInsertable := lastSet AttributeStep.insertable? steps
  isUpdatable := lastSet AttributeStep.updatable? steps
  constraints := steps.filterMap AttributeStep.constraint?

namespace EntityStep

/-- The persisted name that a step sets, if it does. -/
def entityName? : EntityStep → Option String
  | entityName name => some name
  | _ => none

/-- The name of a table that a step sets, if it does. -/
def tableName? : EntityStep → Option String
  | tableName name => some name
  | _ => none

/-- The schema of a table that a step sets, if it does. -/
def tableSchema? : EntityStep → Option String
  | tableSchema name => some name
  | _ => none

/-- The attribute that a step declares, if it does. -/
def attribute? : EntityStep → Option Attribute
  | declare name type steps => some (.described name type steps)
  | _ => none

end EntityStep

/-- The entity that a draft describes. -/
def Entity.described (name packageName : String) (steps : List EntityStep) : Entity where
  name := name
  packageName := packageName
  entityName := lastSet EntityStep.entityName? steps
  tableName := lastSet EntityStep.tableName? steps
  tableSchema := lastSet EntityStep.tableSchema? steps
  attributes := steps.filterMap EntityStep.attribute?

/-! ## Following steps -/

/-- One more step of an attribute changes what that step sets. -/
theorem AttributeStep.apply_described (name : String) (type : Option ColumnType)
    (steps : List AttributeStep) (step : AttributeStep) :
    AttributeStep.apply (.described name type steps) step =
      .described name type (steps ++ [step]) := by
  simp only [Attribute.described, lastSet_append, lastSet_singleton, List.filterMap_append]
  cases step <;> simp [apply, columnType?, columnName?, unique?, nullable?, insertable?,
    updatable?, constraint?]

/-- The steps of an attribute lead to what they describe. -/
theorem AttributeStep.foldl_apply (name : String) (type : Option ColumnType)
    (steps : List AttributeStep) :
    steps.foldl AttributeStep.apply { name := name, columnType := type } =
      .described name type steps := by
  induction steps using List.reverseRecOn with
  | nil => rfl
  | append_singleton steps step ih =>
    rw [List.foldl_append, ih, List.foldl_cons, List.foldl_nil, apply_described]

/-- A step of the attribute behind all others leaves the others and the entity alone. -/
theorem AttributeStep.applyAt_push (entity : Entity) (attr : Attribute) (step : AttributeStep) :
    applyAt entity.attributes.length (entity.push attr) step =
      entity.push (AttributeStep.apply attr step) := by
  have hrest : (entity.attributes ++ [attr]).drop entity.attributes.length = [attr] :=
    List.drop_left
  rw [applyAt, Entity.push, Entity.push, List.modify_eq_take_drop, hrest, List.take_left]
  rfl

/-- So do all its steps. -/
theorem AttributeStep.foldl_applyAt_push (entity : Entity) (attr : Attribute)
    (steps : List AttributeStep) :
    steps.foldl (applyAt entity.attributes.length) (entity.push attr) =
      entity.push (steps.foldl AttributeStep.apply attr) := by
  induction steps generalizing attr with
  | nil => rfl
  | cons step steps ih => rw [List.foldl_cons, applyAt_push, ih, List.foldl_cons]

/-- A declaration puts the attribute that it describes behind the others. -/
theorem EntityStep.apply_declare (entity : Entity) (name : String) (type : Option ColumnType)
    (steps : List AttributeStep) :
    EntityStep.apply entity (.declare name type steps) =
      entity.push (.described name type steps) := by
  have hplace : (entity.push { name := name, columnType := type }).attributes.length - 1 =
      entity.attributes.length := by
    simp [Entity.push]
  rw [apply, hplace, AttributeStep.foldl_applyAt_push, AttributeStep.foldl_apply]

/-- One more step of an entity changes what that step sets, or adds what it declares. -/
theorem EntityStep.apply_described (name packageName : String) (steps : List EntityStep)
    (step : EntityStep) :
    EntityStep.apply (.described name packageName steps) step =
      .described name packageName (steps ++ [step]) := by
  cases step with
  | declare attr type inner =>
    rw [apply_declare]
    simp [Entity.described, Entity.push, lastSet_append, lastSet_singleton, entityName?,
      tableName?, tableSchema?, attribute?]
  | entityName | tableName | tableSchema =>
    simp [apply, Entity.described, lastSet_append, lastSet_singleton, entityName?, tableName?,
      tableSchema?, attribute?]

/-- A draft declares the entity that it describes. -/
theorem EntityDraft.entity_eq (draft : EntityDraft) :
    draft.entity = .described draft.name draft.packageName draft.steps := by
  suffices h : ∀ steps : List EntityStep,
      steps.foldl EntityStep.apply { name := draft.name, packageName := draft.packageName } =
        .described draft.name draft.packageName steps from h draft.steps
  intro steps
  induction steps using List.reverseRecOn with
  | nil => rfl
  | append_singleton steps step ih =>
    rw [List.foldl_append, ih, List.foldl_cons, List.foldl_nil, EntityStep.apply_described]

/-- Drafts declare their entities one behind the other. -/
theorem EntityDraft.foldl_declareAfter (entities : List Entity) (drafts : List EntityDraft) :
    drafts.foldl declareAfter entities = entities ++ drafts.map EntityDraft.entity := by
  induction drafts generalizing entities with
  | nil => simp
  | cons draft drafts ih =>
    rw [List.foldl_cons, ih, declareAfter, List.append_assoc, List.map_cons, List.singleton_append]

/-! ## Drafts of given entities -/

/-- Steps that configure an attribute like a given one. -/
def Attribute.steps (attr : Attribute) : List AttributeStep :=
  (attr.columnName.map .columnName).toList ++ (attr.isUnique.map .unique).toList ++
    (attr.isNullable.map .nullable).toList ++ (attr.isInsertable.map .insertable).toList ++
    (attr.isUpdatable.map .updatable).toList ++ attr.constraints.map .constrain

/-- A draft of a given entity. -/
def Entity.draft (entity : Entity) : EntityDraft where
  name := entity.name
  packageName := entity.packageName
  steps :=
    (entity.entityName.map .entityName).toList ++ (entity.tableName.map .tableName).toList ++
      (entity.tableSchema.map .tableSchema).toList ++
      entity.attributes.map fun attr => .declare attr.name attr.columnType attr.steps

/-- The steps of an attribute describe it. -/
theorem Attribute.described_steps (attr : Attribute) :
    Attribute.described attr.name attr.columnType attr.steps = attr := by
  simp [described, steps, lastSet_append, lastSet_toList_map, lastSet_map, filterMap_toList_map,
    lastSet_none, AttributeStep.columnType?, AttributeStep.columnName?, AttributeStep.unique?,
    AttributeStep.nullable?, AttributeStep.insertable?, AttributeStep.updatable?,
    AttributeStep.constraint?, Function.comp_def]

/-- The draft of an entity declares it. -/
theorem Entity.entity_draft (entity : Entity) : entity.draft.entity = entity := by
  rw [EntityDraft.entity_eq]
  simp [described, draft, lastSet_append, lastSet_toList_map, lastSet_map, lastSet_none,
    filterMap_toList_map, Function.comp_def, Attribute.described_steps,
    EntityStep.entityName?, EntityStep.tableName?, EntityStep.tableSchema?, EntityStep.attribute?]

/-! ## Sets -/

/-- Drafts can declare any list of entities. Whatever they declare, it is made of the entities in
the order of the drafts, each with what its own steps describe. -/
theorem EntitySet.ofDrafts_reaches_all_and_keeps_scopes :
    (∀ entities, ∃ drafts, ofDrafts drafts = ofEntities entities) ∧
    ∀ drafts, ofDrafts drafts = ofEntities
      (drafts.map fun draft => .described draft.name draft.packageName draft.steps) := by
  have hdrafts : ∀ drafts, ofDrafts drafts = ofEntities (drafts.map EntityDraft.entity) := by
    intro drafts
    rw [ofDrafts, EntityDraft.foldl_declareAfter, List.nil_append]
  refine ⟨fun entities => ⟨entities.map Entity.draft, ?_⟩, fun drafts => ?_⟩
  · rw [hdrafts, List.map_map]
    exact congrArg ofEntities (List.map_id'' Entity.entity_draft entities)
  · rw [hdrafts]
    exact congrArg ofEntities (List.map_congr_left fun draft _ => draft.entity_eq)

/-- Attributes of one name stand side by side until the set is built. -/
example :
    (EntityDraft.entity ⟨"team", "", [.declare "id" none [.unique true], .tableName "teams",
      .declare "id" none [.nullable false, .nullable true], .tableName "groups"]⟩) =
      { name := "team", tableName := some "groups",
        attributes := [{ name := "id", isUnique := some true },
          { name := "id", isNullable := some true }] } := by
  decide

end PersistenceLayer
