import PersistenceLayer.CommandLine
import PersistenceLayer.Model.Encode
import PersistenceLayer.Proofs.JsonRecords

/-!
# Models read back

The text of a list of entities is read as that list, whatever its texts, flags,
numbers and column types are. Loading it therefore comes to the same as building
a set of the list: the same set, or a refusal in the words of the same duplicate.
-/

namespace PersistenceLayer

open Json (AcceptsAll Content Entries Field Node Value)

/-! ## Names -/

/-- A kind of identifier is found by its name. -/
theorem IdKind.lookup_name (kind : IdKind) : IdKind.choices.lookup kind.name = some kind := by
  cases kind <;> rfl

/-- A kind of counter is found by its name. -/
theorem VersionKind.lookup_name (kind : VersionKind) :
    VersionKind.choices.lookup kind.name = some kind := by
  cases kind <;> rfl

/-- A constraint is found by its name. -/
theorem Constraint.lookup_name (constraint : Constraint) :
    Constraint.choices.lookup constraint.name = some constraint := by
  cases constraint <;> rfl

/-! ## Column types -/

namespace BasicType

/-- The name of a plain column type in models. -/
def typeName : BasicType → String
  | integer => "integer"
  | long => "long"
  | boolean => "boolean"
  | string _ => "string"
  | bigDecimal _ _ => "big_decimal"
  | byteArray => "byte_array"
  | uuid => "uuid"
  | localDateTime => "local_date_time"
  | zonedDateTime => "zoned_date_time"

/-- What is written for a plain column type besides its name. -/
def entries : BasicType → Entries
  | string length => [("length", length.map wordValue)]
  | bigDecimal precision scale =>
    [("precision", precision.map wordValue), ("scale", scale.map wordValue)]
  | _ => []

/-- A basic type is written as its tag and its entries. -/
theorem members_eq (type : BasicType) :
    type.members = ("type", .text type.typeName) :: type.entries.members := by
  cases type <;> simp [members, typeName, entries, optionalMember, Function.comp_def]

/-- A number that may be left out is recovered from what is written for it. -/
theorem wordField_recovers (name : String) (word : Option UInt32) :
    (wordField name).Recovers Eq word (word.map wordValue) := by
  cases word with
  | none => rfl
  | some word =>
    rintro _ rfl
    have hsize : word.toNat < UInt32.size := word.toNat_lt
    have hword : (wordValue word).readWord = .ok word := by
      simp [wordValue, Value.readWord, hsize]
    simp only [wordField, Value.readOptional, wordValue] at hword ⊢
    rw [hword]
    rfl

/-- Only scalars are written for a plain column type. -/
theorem isScalar_of_mem_entries (type : BasicType) :
    ∀ entry ∈ type.entries, ∀ value ∈ entry.2, value.IsScalar := by
  have hword : ∀ (word : Option UInt32), ∀ value ∈ word.map wordValue, value.IsScalar :=
    Json.forall_mem_map_encode fun word => .integer (Nat.lt_trans word.toNat_lt (by decide))
  cases type with
  | string length =>
    rw [entries, List.forall_mem_singleton]
    exact hword length
  | bigDecimal precision scale =>
    rw [entries, List.forall_mem_cons, List.forall_mem_singleton]
    exact ⟨hword precision, hword scale⟩
  | _ => nofun

/-- A plain column type is read from the members that write it. -/
theorem ofContent_members (type : BasicType) : ofContent (.members type.members) = .ok type := by
  have hsplit : ∀ {form : Form}, tagging.choices.lookup type.typeName = some form →
      tagging.splitContent (.members type.members) =
        .ok (form, .members type.entries.members) := by
    intro form hchoice
    rw [members_eq]
    exact tagging.splitContent_eq_ok hchoice (by cases type <;> simp [entries, tagging])
  cases type with
  | string length =>
    have hlength : lengthField.Recovers Eq length (length.map wordValue) :=
      wordField_recovers "length" length
    have haccepts : AcceptsAll Eq stringShape.rules (string length).entries :=
      .cons hlength.accepts .nil
    obtain ⟨found, hfields, hget⟩ := stringShape.contentFields_eq_ok (by simp [entries]) haccepts
    have hread := hget 0 hlength rfl
    simp only [ofContent, hsplit rfl, hfields, hread, bind, Except.bind]
    rfl
  | bigDecimal precision scale =>
    have hprecision : precisionField.Recovers Eq precision (precision.map wordValue) :=
      wordField_recovers "precision" precision
    have hscale : scaleField.Recovers Eq scale (scale.map wordValue) :=
      wordField_recovers "scale" scale
    have haccepts : AcceptsAll Eq bigDecimalShape.rules (bigDecimal precision scale).entries :=
      .cons hprecision.accepts (.cons hscale.accepts .nil)
    obtain ⟨found, hfields, hget⟩ :=
      bigDecimalShape.contentFields_eq_ok (by simp [entries]) haccepts
    have hfirst := hget 0 hprecision rfl
    have hsecond := hget 1 hscale rfl
    simp only [ofContent, hsplit rfl, hfields, hfirst, hsecond, bind, Except.bind]
    rfl
  | integer | long | boolean | byteArray | uuid | localDateTime | zonedDateTime =>
    rw [ofContent, hsplit rfl]
    rfl

end BasicType

namespace ColumnType

/-- The name of the form of a column type in models. -/
def categoryName : ColumnType → String
  | identifier _ _ => "id"
  | version _ => "version"
  | basic _ => "basic"
  | manyToOne _ => "many_to_one"

/-- What is written for a column type besides the name of its form. -/
def entries : ColumnType → Entries
  | identifier kind generated =>
    [("id_type", some (.text kind.name)), ("auto_generated", some (.boolean generated))]
  | version kind => [("version_type", some (.text kind.name))]
  | basic type => ("type", some (.text type.typeName)) :: type.entries
  | manyToOne target => [("target", some (.text target))]

/-- A column type is written as its tag and its entries. -/
theorem toValue_eq (type : ColumnType) :
    type.toValue = .object (("category", .text type.categoryName) :: type.entries.members) := by
  cases type <;> simp [toValue, categoryName, entries, BasicType.members_eq]

/-- Only scalars are written for a column type. -/
theorem isScalar_of_mem_entries (type : ColumnType) :
    ∀ entry ∈ type.entries, ∀ value ∈ entry.2, value.IsScalar := by
  have htext : ∀ text : String, ∀ value ∈ some (Value.text text), value.IsScalar := by
    rintro text _ ⟨⟩
    exact .text text
  cases type with
  | identifier kind generated =>
    rw [entries, List.forall_mem_cons, List.forall_mem_singleton]
    refine ⟨htext kind.name, ?_⟩
    rintro _ ⟨⟩
    exact .boolean generated
  | version kind =>
    rw [entries, List.forall_mem_singleton]
    exact htext kind.name
  | basic type =>
    rw [entries, List.forall_mem_cons]
    exact ⟨htext type.typeName, type.isScalar_of_mem_entries⟩
  | manyToOne target =>
    rw [entries, List.forall_mem_singleton]
    exact htext target

/-- A column type is written plainly. -/
theorem isPlain_toValue (type : ColumnType) : type.toValue.IsPlain := by
  have hmembers : Entries.members (("category", some (.text type.categoryName)) :: type.entries) =
      ("category", .text type.categoryName) :: type.entries.members := rfl
  rw [toValue_eq, ← hmembers]
  refine Entries.isPlain_object fun entry hentry value hvalue => ?_
  rcases List.mem_cons.mp hentry with rfl | hentry
  · cases hvalue
    exact .text _
  · exact (type.isScalar_of_mem_entries entry hentry value hvalue).isPlain

/-- The type of an identifier is recovered from its name. -/
theorem idTypeField_recovers (kind : IdKind) :
    idTypeField.Recovers Eq kind (some (.text kind.name)) := by
  rintro _ rfl
  simp only [idTypeField, Value.readChoice, Value.choose, kind.lookup_name]

/-- The type of a counter is recovered from its name. -/
theorem versionTypeField_recovers (kind : VersionKind) :
    versionTypeField.Recovers Eq kind (some (.text kind.name)) := by
  rintro _ rfl
  simp only [versionTypeField, Value.readChoice, Value.choose, kind.lookup_name]

/-- A column type is read from every node that holds it, within any container. -/
theorem read_eq_ok {type : ColumnType} {node : Node} (h : node.Holds type.toValue) (room : Nat) :
    read (room + 1) node = .ok type := by
  have hsplit : ∀ {form : Form}, tagging.choices.lookup type.categoryName = some form →
      tagging.split (room + 1) node = .ok (form, .members type.entries.members) := by
    intro form hchoice
    rw [toValue_eq] at h
    refine tagging.split_eq_ok h hchoice ?_ type.isScalar_of_mem_entries
    cases type with
    | basic type => cases type <;> simp [entries, BasicType.entries, tagging]
    | _ => simp [entries, tagging]
  cases type with
  | identifier kind generated =>
    have hkind := idTypeField_recovers kind
    have hgenerated : generatedField.Recovers Eq generated (some (.boolean generated)) := by
      rintro _ rfl
      rfl
    have haccepts : AcceptsAll Eq identifierShape.rules (identifier kind generated).entries :=
      .cons hkind.accepts (.cons hgenerated.accepts .nil)
    obtain ⟨found, hfields, hget⟩ :=
      identifierShape.contentFields_eq_ok (by simp [entries]) haccepts
    have hfirst := hget 0 hkind rfl
    have hsecond := hget 1 hgenerated rfl
    simp only [read, hsplit rfl, hfields, hfirst, hsecond, bind, Except.bind]
    rfl
  | version kind =>
    have hkind := versionTypeField_recovers kind
    have haccepts : AcceptsAll Eq versionShape.rules (version kind).entries :=
      .cons hkind.accepts .nil
    obtain ⟨found, hfields, hget⟩ := versionShape.contentFields_eq_ok (by simp [entries]) haccepts
    have hread := hget 0 hkind rfl
    simp only [read, hsplit rfl, hfields, hread, bind, Except.bind]
    rfl
  | basic type =>
    have hmembers : Entries.members (basic type).entries = type.members := by
      simp [entries, BasicType.members_eq]
    simp only [read, hsplit rfl, hmembers, type.ofContent_members, bind, Except.bind]
    rfl
  | manyToOne target =>
    have htarget : targetField.Recovers Eq target (some (.text target)) := by
      rintro _ rfl
      rfl
    have haccepts : AcceptsAll Eq manyToOneShape.rules (manyToOne target).entries :=
      .cons htarget.accepts .nil
    obtain ⟨found, hfields, hget⟩ := manyToOneShape.contentFields_eq_ok (by simp [entries]) haccepts
    have hread := hget 0 htarget rfl
    simp only [read, hsplit rfl, hfields, hread, bind, Except.bind]
    rfl

end ColumnType

/-! ## Attributes -/

namespace Attribute

/-- What is written for an attribute. -/
def entries (attr : Attribute) : Entries :=
  [("name", some (.text attr.name)),
    ("column_type", some ((attr.columnType.map ColumnType.toValue).getD .null)),
    ("column_name", attr.columnName.map .text),
    ("column_unique", attr.isUnique.map .boolean),
    ("column_nullable", attr.isNullable.map .boolean),
    ("column_insertable", attr.isInsertable.map .boolean),
    ("column_updatable", attr.isUpdatable.map .boolean),
    ("constraints", if attr.constraints.isEmpty then none
      else some (.list (attr.constraints.map fun constraint => .text constraint.name)))]

/-- An attribute is written as its entries. -/
theorem toValue_eq (attr : Attribute) : attr.toValue = .object attr.entries.members := by
  simp [toValue, entries, optionalMember, constraintMember, Function.comp_def]
  split <;> rfl

/-- An attribute is written plainly. -/
theorem isPlain_toValue (attr : Attribute) : attr.toValue.IsPlain := by
  have hflag : ∀ (flag : Option Bool), ∀ value ∈ flag.map Value.boolean, value.IsPlain :=
    Json.forall_mem_map_encode .boolean
  rw [toValue_eq]
  apply Entries.isPlain_object
  simp only [entries, List.forall_mem_cons]
  refine ⟨?_, ?_, Json.forall_mem_map_encode .text _, hflag _, hflag _, hflag _, hflag _, ?_, nofun⟩
  · rintro _ ⟨⟩
    exact .text _
  · rintro _ ⟨⟩
    cases attr.columnType with
    | none => exact .null
    | some type => exact type.isPlain_toValue
  · split
    · nofun
    · rintro _ ⟨⟩
      exact Value.isPlain_list_map (fun constraint => .text constraint.name) attr.constraints

/-- The column type is recovered from what is written for it, null included. -/
theorem columnTypeField_recovers (type : Option ColumnType) (room : Nat) :
    (columnTypeField (room + 1)).Recovers Node.Holds type
      (some ((type.map ColumnType.toValue).getD .null)) := by
  intro node h
  cases type with
  | none =>
    cases h
    rfl
  | some type => exact h.readOptional (by cases type <;> nofun) (ColumnType.read_eq_ok h room)

/-- A flag is recovered from what is written for it. -/
theorem flagField_recovers (name : String) (flag : Option Bool) :
    (flagField name).Recovers Node.Holds flag (flag.map .boolean) :=
  Field.recovers_optional (fun _ _ h => h.readBoolean) nofun name flag

/-- Constraints are recovered from what is written for them. -/
theorem constraintsField_recovers (constraints : List Constraint) :
    constraintsField.Recovers Node.Holds constraints
      (if constraints.isEmpty then none
        else some (.list (constraints.map fun constraint => .text constraint.name))) := by
  cases constraints with
  | nil => rfl
  | cons constraint constraints =>
    exact fun node h => h.readList fun constraint _ node h => h.readChoice constraint.lookup_name

/-- An attribute is read from every node that holds it, if its column type may be a container. -/
theorem read_eq_ok {attr : Attribute} {node : Node} (h : node.Holds attr.toValue) (room : Nat) :
    read (room + 2) node = .ok attr := by
  have hname : nameField.Recovers Node.Holds attr.name (some (.text attr.name)) :=
    fun _ h => h.readText
  have hcolumnType := columnTypeField_recovers attr.columnType room
  have hcolumnName : columnNameField.Recovers Node.Holds attr.columnName
      (attr.columnName.map .text) :=
    Field.recovers_optional (fun _ _ h => h.readText) nofun _ _
  have hunique : uniqueField.Recovers Node.Holds _ _ := flagField_recovers _ attr.isUnique
  have hnullable : nullableField.Recovers Node.Holds _ _ := flagField_recovers _ attr.isNullable
  have hinsertable : insertableField.Recovers Node.Holds _ _ :=
    flagField_recovers _ attr.isInsertable
  have hupdatable : updatableField.Recovers Node.Holds _ _ := flagField_recovers _ attr.isUpdatable
  have hconstraints := constraintsField_recovers attr.constraints
  have haccepts : AcceptsAll Node.Holds (shape (room + 1)).rules attr.entries :=
    .cons hname.accepts <| .cons hcolumnType.accepts <| .cons hcolumnName.accepts <|
      .cons hunique.accepts <| .cons hnullable.accepts <| .cons hinsertable.accepts <|
      .cons hupdatable.accepts <| .cons hconstraints.accepts .nil
  rw [toValue_eq] at h
  obtain ⟨found, hfields, hget⟩ := (shape (room + 1)).fields_eq_ok (by simp [entries]) haccepts h
  simp only [read, Nat.reduceSubDiff, hfields, hget 0 hname rfl, hget 1 hcolumnType rfl,
    hget 2 hcolumnName rfl, hget 3 hunique rfl, hget 4 hnullable rfl, hget 5 hinsertable rfl,
    hget 6 hupdatable rfl, hget 7 hconstraints rfl, bind, Except.bind]
  rfl

end Attribute

/-! ## Entities -/

namespace Entity

/-- What is written for an entity. -/
def entries (entity : Entity) : Entries :=
  [("name", some (.text entity.name)), ("package_name", some (.text entity.packageName)),
    ("entity_name", entity.entityName.map .text), ("table_name", entity.tableName.map .text),
    ("table_schema", entity.tableSchema.map .text),
    ("attributes", some (.list (entity.attributes.map Attribute.toValue)))]

/-- An entity is written as its entries. -/
theorem toValue_eq (entity : Entity) : entity.toValue = .object entity.entries.members := by
  simp [toValue, entries, optionalMember, Function.comp_def]

/-- An entity is written plainly. -/
theorem isPlain_toValue (entity : Entity) : entity.toValue.IsPlain := by
  have hname : ∀ (name : Option String), ∀ value ∈ name.map Value.text, value.IsPlain :=
    Json.forall_mem_map_encode .text
  have htext : ∀ text : String, ∀ value ∈ some (Value.text text), value.IsPlain := by
    rintro text _ ⟨⟩
    exact .text text
  rw [toValue_eq]
  apply Entries.isPlain_object
  simp only [entries, List.forall_mem_cons]
  refine ⟨htext _, htext _, hname _, hname _, hname _, ?_, nofun⟩
  rintro _ ⟨⟩
  exact Value.isPlain_list_map Attribute.isPlain_toValue entity.attributes

/-- A name that may be left out is recovered from what is written for it. -/
theorem optionalNameField_recovers (field : String) (name : Option String) :
    (optionalNameField field).Recovers Node.Holds name (name.map .text) :=
  Field.recovers_optional (fun _ _ h => h.readText) nofun field name

/-- An entity is read from every node that holds it, if its attributes may be containers. -/
theorem read_eq_ok {entity : Entity} {node : Node} (h : node.Holds entity.toValue) (room : Nat) :
    read (room + 4) node = .ok entity := by
  have hname : nameField.Recovers Node.Holds entity.name (some (.text entity.name)) :=
    fun _ h => h.readText
  have hpackageName : packageNameField.Recovers Node.Holds entity.packageName
      (some (.text entity.packageName)) := fun _ h => h.readText
  have hentityName : entityNameField.Recovers Node.Holds _ _ :=
    optionalNameField_recovers _ entity.entityName
  have htableName : tableNameField.Recovers Node.Holds _ _ :=
    optionalNameField_recovers _ entity.tableName
  have htableSchema : tableSchemaField.Recovers Node.Holds _ _ :=
    optionalNameField_recovers _ entity.tableSchema
  have hattributes : (attributesField (room + 3)).Recovers Node.Holds entity.attributes
      (some (.list (entity.attributes.map Attribute.toValue))) :=
    fun _ h => h.readList fun attr _ _ h => Attribute.read_eq_ok h room
  have haccepts : AcceptsAll Node.Holds (shape (room + 3)).rules entity.entries :=
    .cons hname.accepts <| .cons hpackageName.accepts <| .cons hentityName.accepts <|
      .cons htableName.accepts <| .cons htableSchema.accepts <| .cons hattributes.accepts .nil
  rw [toValue_eq] at h
  obtain ⟨found, hfields, hget⟩ := (shape (room + 3)).fields_eq_ok (by simp [entries]) haccepts h
  simp only [read, Nat.reduceSubDiff, hfields, hget 0 hname rfl, hget 1 hpackageName rfl,
    hget 2 hentityName rfl, hget 3 htableName rfl, hget 4 htableSchema rfl,
    hget 5 hattributes rfl, bind, Except.bind]
  rfl

end Entity

/-! ## Sets -/

/-- A list of entities is written plainly. -/
theorem isPlain_entitiesValue (entities : List Entity) : (entitiesValue entities).IsPlain :=
  Value.isPlain_list_map Entity.isPlain_toValue entities

/-- A list of entities is read from every node that holds it, duplicates included. -/
theorem readEntities_eq_ok {entities : List Entity} {node : Node}
    (h : node.Holds (entitiesValue entities)) : readEntities node = .ok entities :=
  h.readList fun _ _ _ hentity => Entity.read_eq_ok hentity 122

namespace EntitySet

/-- Loading the text of a list of entities comes to building a set of the list. -/
theorem ofJson_entitiesJson (entities : List Entity) :
    ofJson (entitiesJson entities) = (ofEntities entities).mapError fun defect =>
      .unplaced (.refused defect.message) := by
  obtain ⟨node, hdocument, hnode⟩ := Json.exists_ofText_render (isPlain_entitiesValue entities)
  simp only [ofJson, entitiesJson, hdocument, Json.Document.read, EntitySet.read,
    readEntities_eq_ok hnode, bind, Except.bind]
  cases ofEntities entities <;> rfl

/-- Loading undoes writing, and what cannot be a set is refused in the words of its duplicate. -/
theorem ofJson_agrees_with_ofEntities :
    (∀ entities : List Entity,
      match ofEntities entities with
      | .ok set => ofJson (entitiesJson entities) = .ok set
      | .error duplicate =>
        ∃ fault, ofJson (entitiesJson entities) = .error fault ∧ fault.category = .mismatched ∧
          CommandLine.malformedModel fault.describe =
            "malformed entity model: " ++ duplicate.message) ∧
      ∀ set : EntitySet, ofJson set.toJson = .ok set := by
  refine ⟨fun entities => ?_, fun set => ?_⟩
  · have hload := ofJson_entitiesJson entities
    cases hset : ofEntities entities with
    | ok set =>
      rw [hset] at hload
      exact hload
    | error duplicate =>
      rw [hset] at hload
      exact ⟨_, hload, rfl, rfl⟩
  · have hload := ofJson_entitiesJson set.entities
    rw [ofEntities_entities] at hload
    exact hload

end EntitySet

end PersistenceLayer
