import PersistenceLayer.Proofs.GeneratedFunctions

/-!
# Copy functions

An extension copies data between the contract and the persisted class of its
entity. What its functions assign and read is read off their lines and compared
to what the other sources declare: the contract, the persisted class, and the
persisted classes that relationships lead to, which belong to other entities.
-/

namespace PersistenceLayer

open Text (tokens isWord tokens_of_isWord tokens_append_of_opens tokens_append_of_ends)

/-! ## Reading copies -/

/-- An assignment to a property of client-facing data. -/
inductive DataCopy where
  /-- A property of the persisted object is assigned. -/
  | plain (assigned read : String)
  /-- A property of the object that a property of the persisted object refers to is assigned. -/
  | navigated (assigned read inner : String)
  deriving DecidableEq, Repr

/-- The assignment that the tokens of a line make, if they do. -/
def DataCopy.ofTokens? : List String → Option DataCopy
  | ["data", ".", assigned, "=", "this", ".", read] => some (.plain assigned read)
  | ["data", ".", assigned, "=", "this", ".", read, "?", ".", inner] =>
    some (.navigated assigned read inner)
  | _ => none

/-- The assignment that a line makes, if it does. -/
def DataCopy.ofLine? (line : String) : Option DataCopy :=
  ofTokens? (tokens line)

/-- An assignment to a property of a persisted object. -/
inductive EntityCopy where
  /-- A property of client-facing data is assigned. -/
  | plain (assigned read : String)
  /-- If the tested property of client-facing data is set, the object of the given type that has
  the given property as its key is looked up and assigned. -/
  | lookup (assigned tested targetType key : String)
  deriving DecidableEq, Repr

/-- The assignments that tokens make, provided that they make nothing else. -/
def EntityCopy.readAll? : List String → Option (List EntityCopy)
  | [] => some []
  | "entity" :: "." :: assigned :: "=" :: "this" :: "." :: read :: rest =>
    (readAll? rest).map (.plain assigned read :: ·)
  | "entity" :: "." :: assigned :: "=" :: "if" :: "(" :: "this" :: "." :: tested :: "=" :: "=" ::
      "null" :: ")" :: "\x7b" :: "null" :: "\x7d" :: "else" :: "\x7b" :: "entityManager" :: "." ::
      "find" :: "(" :: targetType :: ":" :: ":" :: "class" :: "." :: "java" :: "," :: "this" ::
      "." :: key :: ")" :: "\x7d" :: rest =>
    (readAll? rest).map (.lookup assigned tested targetType key :: ·)
  | _ => none

/-- A function that makes some assignments, with the type that it extends and the type of the
object that it assigns to. -/
structure CopyFunction (α : Type) where
  receiver : String
  assigned : String
  copies : List α
  deriving Repr

namespace SourceFile

/-- The function of a file that copies into client-facing data, if each of its lines is an
assignment. It is looked for behind the prelude. -/
def dataCopy? (file : SourceFile) : Option (CopyFunction DataCopy) :=
  match file.function? "copyPropertiesTo" with
  | some (⟨receiver, _, ["(", "data", ":", assigned, ")", "\x7b"]⟩, lines) =>
    (lines.mapM DataCopy.ofLine?).map fun copies => ⟨receiver, assigned, copies⟩
  | _ => none

/-- The function of a file with the given name that copies into a persisted object, if all its
lines make assignments. It is looked for behind the prelude. -/
def entityCopy? (file : SourceFile) (name : String) : Option (CopyFunction EntityCopy) :=
  match file.function? name with
  | some (⟨receiver, _, ["(", "entityManager", ":", "EntityManager", ",", "entity", ":", assigned,
      ")", "\x7b"]⟩, lines) =>
    (EntityCopy.readAll? (lines.flatMap tokens)).map fun copies => ⟨receiver, assigned, copies⟩
  | _ => none

end SourceFile

/-! ## Copies of mapped attributes -/

/-- An assignment as it is read. -/
def DataAssignment.copy : DataAssignment → DataCopy
  | plain property => .plain property property
  | navigated foreignKey property identifier => .navigated foreignKey property identifier

/-- An assignment as it is read. -/
def EntityAssignment.copy : EntityAssignment → EntityCopy
  | plain property => .plain property property
  | lookup property foreignKey targetType => .lookup property foreignKey targetType foreignKey

namespace DataAssignment

/-- A plain assignment to client-facing data, by its tokens. -/
theorem tokens_plain {property : String} (h : isWord property = true) :
    tokens (plain property).line = ["data", ".", property, "=", "this", ".", property] := by
  unfold line
  simp (disch := simp +decide) only [tokens_append_of_opens, tokens_append_of_ends,
    tokens_of_isWord h]
  rfl

/-- An assignment to client-facing data that follows a relationship, by its tokens. -/
theorem tokens_navigated {foreignKey property identifier : String}
    (hforeignKey : isWord foreignKey = true) (hproperty : isWord property = true)
    (hidentifier : isWord identifier = true) :
    tokens (navigated foreignKey property identifier).line =
      ["data", ".", foreignKey, "=", "this", ".", property, "?", ".", identifier] := by
  unfold line
  simp (disch := simp +decide) only [tokens_append_of_opens, tokens_append_of_ends,
    tokens_of_isWord hforeignKey, tokens_of_isWord hproperty, tokens_of_isWord hidentifier]
  rfl

end DataAssignment

namespace EntityAssignment

/-- A plain assignment to a persisted object, by its tokens. -/
theorem tokens_plain {property : String} (h : isWord property = true) :
    (plain property).lines.flatMap tokens =
      ["entity", ".", property, "=", "this", ".", property] := by
  unfold lines
  rw [List.flatMap_singleton]
  simp (disch := simp +decide) only [tokens_append_of_opens, tokens_append_of_ends,
    tokens_of_isWord h]
  rfl

/-- An assignment to a persisted object that looks a target up, by its tokens. -/
theorem tokens_lookup {property foreignKey targetType : String} (hproperty : isWord property = true)
    (hforeignKey : isWord foreignKey = true) (htargetType : isWord targetType = true) :
    (lookup property foreignKey targetType).lines.flatMap tokens =
      ["entity", ".", property, "=", "if", "(", "this", ".", foreignKey, "=", "=", "null", ")",
        "\x7b", "null", "\x7d", "else", "\x7b", "entityManager", ".", "find", "(", targetType, ":",
        ":", "class", ".", "java", ",", "this", ".", foreignKey, ")", "\x7d"] := by
  unfold lines
  simp (disch := simp +decide) only [List.flatMap_cons, List.flatMap_nil,
    tokens_append_of_opens, tokens_append_of_ends, tokens_of_isWord hproperty,
    tokens_of_isWord hforeignKey, tokens_of_isWord htargetType]
  rfl

end EntityAssignment

namespace MappedAttribute

variable {mapped : MappedAttribute} (h : mapped.HasIdentifierNames)

include h

/-- The line that copies an attribute into client-facing data is read as its assignment. -/
theorem ofLine?_dataAssignment :
    DataCopy.ofLine? mapped.dataAssignment.line = some mapped.dataAssignment.copy := by
  rw [DataCopy.ofLine?, dataAssignment]
  cases htype : mapped.type with
  | manyToOne target =>
    dsimp only
    rw [DataAssignment.tokens_navigated
      (Naming.isWord_foreignKey h.name (h.identifierName target htype)) h.isWord_property
      (Naming.isWord_property (h.identifierName target htype))]
    rfl
  | identifier | version | basic =>
    dsimp only
    rw [DataAssignment.tokens_plain h.isWord_property]
    rfl

/-- The lines that copy an attribute into a persisted object are read as its assignment. -/
theorem readAll?_entityAssignment (rest : List String) :
    EntityCopy.readAll? (mapped.entityAssignment.lines.flatMap tokens ++ rest) =
      (EntityCopy.readAll? rest).map (mapped.entityAssignment.copy :: ·) := by
  rw [entityAssignment]
  cases htype : mapped.type with
  | manyToOne target =>
    dsimp only
    rw [EntityAssignment.tokens_lookup h.isWord_property
      (Naming.isWord_foreignKey h.name (h.identifierName target htype))
      (Naming.isWord_entityType (h.entityName target htype))]
    rfl
  | identifier | version | basic =>
    dsimp only
    rw [EntityAssignment.tokens_plain h.isWord_property]
    rfl

end MappedAttribute

/-- Lines that copy some attributes into a persisted object are read together, since an assignment
may take up several of them. -/
theorem MappedAttribute.readAll?_entityAssignments (mode : CopyMode) {attrs : List MappedAttribute}
    (hnames : ∀ mapped ∈ attrs, mapped.HasIdentifierNames) :
    EntityCopy.readAll? (((Extension.entityAssignments mode attrs).flatMap
      EntityAssignment.lines).flatMap tokens) =
        some ((attrs.filter (isCopied mode)).map fun mapped => mapped.entityAssignment.copy) := by
  have hcopied : ∀ mapped ∈ attrs.filter (isCopied mode), mapped.HasIdentifierNames :=
    fun mapped hmapped => hnames mapped (List.mem_of_mem_filter hmapped)
  rw [Extension.entityAssignments]
  generalize attrs.filter (isCopied mode) = copied at hcopied
  induction copied with
  | nil => rfl
  | cons mapped copied ih =>
    obtain ⟨hmapped, hcopied⟩ := List.forall_mem_cons.mp hcopied
    rw [List.map_cons, List.flatMap_cons, List.flatMap_append,
      readAll?_entityAssignment hmapped, ih hcopied]
    rfl

namespace SourceFile

variable (options : Options) {entity : Entity} {attrs : List MappedAttribute}
  (hentity : Text.isIdentifier entity.name = true)
  (hnames : ∀ mapped ∈ attrs, mapped.HasIdentifierNames)

include hentity hnames

/-- The function that copies into client-facing data assigns once for each attribute. -/
theorem dataCopy?_extension :
    (Kind.extension.sourceFile options entity attrs).dataCopy? =
      some ⟨Naming.entityType entity.name, Naming.contractType entity.name,
        attrs.map fun mapped => mapped.dataAssignment.copy⟩ := by
  have hcopies : ((Extension.dataAssignments attrs).map DataAssignment.line).mapM
      DataCopy.ofLine? = some (attrs.map fun mapped => mapped.dataAssignment.copy) := by
    rw [Extension.dataAssignments, List.map_map]
    exact mapM_map_eq_some fun mapped hmapped =>
      MappedAttribute.ofLine?_dataAssignment (hnames mapped hmapped)
  rw [dataCopy?, function?_dataCopy options hentity hnames]
  exact congrArg (Option.map (CopyFunction.mk _ _)) hcopies

/-- The functions that copy into a persisted object assign once for each attribute they copy. -/
theorem entityCopy?_extension (mode : CopyMode) :
    (Kind.extension.sourceFile options entity attrs).entityCopy? mode.functionName =
      some ⟨Naming.contractType entity.name, Naming.entityType entity.name,
        (attrs.filter (MappedAttribute.isCopied mode)).map fun mapped =>
          mapped.entityAssignment.copy⟩ := by
  rw [entityCopy?, function?_entityCopy options hentity hnames]
  exact congrArg (Option.map (CopyFunction.mk _ _))
    (MappedAttribute.readAll?_entityAssignments mode hnames)

end SourceFile

/-! ## Agreement with declarations -/

/-- Whether an assignment to client-facing data is well typed by what the contract and the persisted
class declare for the attribute at the given place. -/
inductive DataCopy.Agrees (set : EntitySet) (options : Options) (artifacts : List Artifact)
    (contract persisted : SourceFile) (place : Nat) (attr : Attribute) : DataCopy → Prop where
  /-- Both properties have the same type. -/
  | plain {assigned read type : String}
      (hcolumn : ∀ target, attr.columnType ≠ some (.manyToOne target))
      (hassigned : contract.properties[place]? = some ⟨assigned, type⟩)
      (hread : persisted.properties[place]? = some ⟨read, type⟩) :
      Agrees set options artifacts contract persisted place attr (.plain assigned read)
  /-- The property of the persisted class refers to the target, and the target's property has the
  same type as the property of the contract. -/
  | navigated {assigned read inner type : String} {target : Entity} {file : SourceFile}
      (htarget : RelatesTo set options artifacts attr target .persisted file)
      (hassigned : contract.properties[place]? = some ⟨assigned, type⟩)
      (hread : persisted.properties[place]? = some ⟨read, Naming.entityType target.name⟩)
      (hinner : ⟨inner, type⟩ ∈ file.properties) :
      Agrees set options artifacts contract persisted place attr (.navigated assigned read inner)

/-- Whether an assignment to a persisted object is well typed by what the contract and the persisted
class declare for the attribute at the given place. -/
inductive EntityCopy.Agrees (set : EntitySet) (options : Options) (artifacts : List Artifact)
    (contract persisted : SourceFile) (place : Nat) (attr : Attribute) : EntityCopy → Prop where
  /-- Both properties have the same type. -/
  | plain {assigned read type : String}
      (hcolumn : ∀ target, attr.columnType ≠ some (.manyToOne target))
      (hassigned : persisted.properties[place]? = some ⟨assigned, type⟩)
      (hread : contract.properties[place]? = some ⟨read, type⟩) :
      Agrees set options artifacts contract persisted place attr (.plain assigned read)
  /-- The property of the persisted class refers to the target that is looked up, by a key that has
  the type of the target's first identifier. -/
  | lookup {assigned key identifier type : String} {target : Entity} {file : SourceFile}
      (htarget : RelatesTo set options artifacts attr target .persisted file)
      (hassigned : persisted.properties[place]? = some ⟨assigned, Naming.entityType target.name⟩)
      (hkey : contract.properties[place]? = some ⟨key, type⟩)
      (hidentifier : file.identifierProperty? = some ⟨identifier, type⟩) :
      Agrees set options artifacts contract persisted place attr
        (.lookup assigned key (Naming.entityType target.name) key)

/-- What is looked up by a key is an object of some entity, with an identifier of the key's type. -/
theorem EntityCopy.Agrees.exists_of_lookup {set : EntitySet} {options : Options}
    {artifacts : List Artifact} {contract persisted : SourceFile} {place : Nat} {attr : Attribute}
    {assigned tested targetType key : String}
    (h : EntityCopy.Agrees set options artifacts contract persisted place attr
      (.lookup assigned tested targetType key)) :
    ∃ target ∈ set.entities, targetType = Naming.entityType target.name ∧
      ∃ file, Generates set options artifacts target .persisted file ∧
        ∃ identifier type, file.identifierProperty? = some ⟨identifier, type⟩ ∧
          ⟨tested, type⟩ ∈ contract.properties := by
  cases h with
  | lookup htarget _ hkey hidentifier =>
    exact ⟨_, htarget.mem, rfl, _, htarget.generates, _, _, hidentifier,
      List.mem_of_getElem? hkey⟩

namespace EntitySet

variable {set : EntitySet} {options : Options} {artifacts : List Artifact} {entity : Entity}
  {attrs : List MappedAttribute} {isLetter : Char → Bool}

/-- The persisted class of a relationship's target declares the target's first identifier, and marks
no property before it as one, if the names that it quotes are plain. -/
theorem exists_relatesTo (hnames : set.HasIdentifierNames) (hfull : options.onlyData = false)
    (hrender : set.renderAll options = .ok artifacts) {attr : Attribute} {target : Target}
    (hplain : ∀ other ∈ set.entities, attr.columnType = some (.manyToOne other.name) →
      other.HasPlainNames isLetter)
    (h : set.MapsTo entity.name attr (.manyToOne target)) :
    ∃ other file, RelatesTo set options artifacts attr other .persisted file ∧
      target.entityName = other.name ∧
      file.identifierProperty? =
        some ⟨Naming.property target.identifierName, target.idKind.scalar.kotlinName⟩ ∧
      ⟨Naming.property target.identifierName, target.idKind.scalar.kotlinName⟩ ∈
        file.properties := by
  obtain ⟨other, hother, hcolumn, hresolved⟩ := h.exists_entity
  obtain ⟨attrs, hattrs, hgenerates⟩ := exists_generates hfull hrender hother
  obtain ⟨place, identifier, generated, -, hname, hplace, hearlier⟩ :=
    exists_first_mapped_identifier hattrs hresolved
  have hmappedNames := hnames.mapped hother hattrs
  have hquotes := (hplain other hother hcolumn).quotesOnOneLine hattrs
  refine ⟨other, Kind.persisted.sourceFile options other attrs, ⟨hcolumn, hother, hgenerates _⟩,
    Entity.entityName_of_target? hresolved, ?_, ?_⟩
  · rw [SourceFile.identifierProperty?_persisted (hnames other hother).1 hmappedNames hquotes hplace
      rfl hearlier, hname]
    rfl
  · rw [SourceFile.properties_persisted (hnames other hother).1 hmappedNames hquotes, hname]
    exact List.mem_map.mpr ⟨_, List.mem_of_getElem? hplace, rfl⟩

/-- What the contract and the persisted class declare for the attribute at some place. -/
theorem getElem?_properties (options : Options) (hentity : Text.isIdentifier entity.name = true)
    (hnames : ∀ mapped ∈ attrs, mapped.HasIdentifierNames)
    (hquotes : entity.QuotesOnOneLine attrs) {place : Nat} {mapped : MappedAttribute}
    (hplace : attrs[place]? = some mapped) :
    (Kind.contract.sourceFile options entity attrs).properties[place]? =
        some ⟨mapped.flat.name, mapped.flat.scalar.kotlinName⟩ ∧
      (Kind.persisted.sourceFile options entity attrs).properties[place]? =
        some ⟨mapped.property, mapped.valueType.kotlinName⟩ := by
  rw [SourceFile.properties_contract hentity hnames,
    SourceFile.properties_persisted hentity hnames hquotes, List.getElem?_map,
    List.getElem?_map, hplace]
  exact ⟨rfl, rfl⟩

/-- Whether the copy functions of an entity are well typed against the other sources of a run. The
function that copies into client-facing data makes one assignment for each attribute, in the order
of the attributes; those that copy into a persisted object make assignments for some of them. Each
assignment agrees with what the contract and the persisted classes declare. -/
def CopiesAgree (set : EntitySet) (options : Options) (artifacts : List Artifact)
    (entity : Entity) : Prop :=
  ∃ contract persisted extension,
    Generates set options artifacts entity .contract contract ∧
    Generates set options artifacts entity .persisted persisted ∧
    Generates set options artifacts entity .extension extension ∧
    (∃ copies, extension.dataCopy? =
        some ⟨Naming.entityType entity.name, Naming.contractType entity.name, copies⟩ ∧
      copies.length = entity.attributes.length ∧
      ∀ place attr copy, entity.attributes[place]? = some attr → copies[place]? = some copy →
        DataCopy.Agrees set options artifacts contract persisted place attr copy) ∧
    ∀ mode : CopyMode, ∃ copies, extension.entityCopy? mode.functionName =
        some ⟨Naming.contractType entity.name, Naming.entityType entity.name, copies⟩ ∧
      ∀ copy ∈ copies, ∃ place attr, entity.attributes[place]? = some attr ∧
        EntityCopy.Agrees set options artifacts contract persisted place attr copy

section Copies

variable (hnames : set.HasIdentifierNames) (hfull : options.onlyData = false)
  (hrender : set.renderAll options = .ok artifacts) (hentity : entity ∈ set.entities)
  (hplain : entity.HasPlainNames isLetter)
  (htargets : ∀ target, set.HasRelationship entity target → target.HasPlainNames isLetter)

include hnames hfull hrender hentity hplain htargets

/-- The assignment that copies an attribute into client-facing data is well typed. -/
theorem dataCopy_agrees (hattrs : set.mapEntity entity = .ok attrs) {place : Nat}
    {mapped : MappedAttribute} (hplace : attrs[place]? = some mapped) :
    DataCopy.Agrees set options artifacts (Kind.contract.sourceFile options entity attrs)
      (Kind.persisted.sourceFile options entity attrs) place mapped.source
      mapped.dataAssignment.copy := by
  obtain ⟨hsource, hmapsTo⟩ := getElem?_of_mapEntity hattrs hplace
  have hattribute := List.mem_of_getElem? hsource
  obtain ⟨hcontract, hpersisted⟩ := getElem?_properties options (hnames entity hentity).1
    (hnames.mapped hentity hattrs) (hplain.quotesOnOneLine hattrs) hplace
  obtain ⟨attr, type⟩ := mapped
  cases hmapsTo with
  | identifier hcolumn | version hcolumn | basic hcolumn =>
    exact .plain (fun _ h => nomatch hcolumn.symm.trans h) hcontract hpersisted
  | @manyToOne name target hcolumn htarget =>
    obtain ⟨other, file, hrelates, hname, -, hinner⟩ :=
      exists_relatesTo hnames hfull hrender
        (fun other hother hcolumn => htargets other ⟨hother, attr, hattribute, hcolumn⟩)
        (.manyToOne hcolumn htarget)
    refine .navigated hrelates hcontract ?_ hinner
    rw [← hname]
    exact hpersisted

/-- The assignment that copies an attribute into a persisted object is well typed. -/
theorem entityCopy_agrees (hattrs : set.mapEntity entity = .ok attrs) {place : Nat}
    {mapped : MappedAttribute} (hplace : attrs[place]? = some mapped) :
    EntityCopy.Agrees set options artifacts (Kind.contract.sourceFile options entity attrs)
      (Kind.persisted.sourceFile options entity attrs) place mapped.source
      mapped.entityAssignment.copy := by
  obtain ⟨hsource, hmapsTo⟩ := getElem?_of_mapEntity hattrs hplace
  have hattribute := List.mem_of_getElem? hsource
  obtain ⟨hcontract, hpersisted⟩ := getElem?_properties options (hnames entity hentity).1
    (hnames.mapped hentity hattrs) (hplain.quotesOnOneLine hattrs) hplace
  obtain ⟨attr, type⟩ := mapped
  cases hmapsTo with
  | identifier hcolumn | version hcolumn | basic hcolumn =>
    exact .plain (fun _ h => nomatch hcolumn.symm.trans h) hpersisted hcontract
  | @manyToOne name target hcolumn htarget =>
    obtain ⟨other, file, hrelates, hname, hidentifier, -⟩ :=
      exists_relatesTo hnames hfull hrender
        (fun other hother hcolumn => htargets other ⟨hother, attr, hattribute, hcolumn⟩)
        (.manyToOne hcolumn htarget)
    have hlookup : (⟨attr, .manyToOne target⟩ : MappedAttribute).entityAssignment.copy =
        .lookup (Naming.property attr.name) (Naming.foreignKey attr.name target.identifierName)
          (Naming.entityType other.name) (Naming.foreignKey attr.name target.identifierName) := by
      rw [← hname]
      rfl
    rw [hlookup]
    refine .lookup hrelates ?_ hcontract hidentifier
    rw [← hname]
    exact hpersisted

end Copies

end EntitySet

end PersistenceLayer
