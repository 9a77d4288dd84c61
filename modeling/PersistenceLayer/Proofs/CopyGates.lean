import PersistenceLayer.Proofs.AttributeOrder
import PersistenceLayer.Proofs.CopyFunctions

/-!
# Gates of copies

Whether a copy into a persisted object sets an attribute is decided for each
attribute alone: an identifier or a version is never set, and any other attribute
is set unless the flag that the copy goes by is explicitly off. So a flag has a
say in one block of lines, in the function of the copy that goes by it.
-/

namespace PersistenceLayer

open Text (tokens)

/-! ## Flags -/

namespace CopyMode

/-- The flag that a copy goes by. -/
def flag : CopyMode → Attribute → Option Bool
  | insertable, attr => attr.isInsertable
  | updatable, attr => attr.isUpdatable

/-- An attribute with another flag for a copy. -/
def withFlag (mode : CopyMode) (flag : Option Bool) (attr : Attribute) : Attribute :=
  match mode with
  | insertable => { attr with isInsertable := flag }
  | updatable => { attr with isUpdatable := flag }

/-- Whether a copy sets an attribute: it does unless the attribute is an identifier or a version, or
its flag is explicitly off. -/
def sets (mode : CopyMode) (attr : Attribute) : Bool :=
  match attr.columnType with
  | some (.identifier _ _) | some (.version _) => false
  | _ => mode.flag attr != some false

/-- The properties that a copy assigns to, one for each of the attributes that it sets. -/
def assignedNames (mode : CopyMode) (attrs : List Attribute) : List String :=
  (attrs.filter mode.sets).map fun attr => Text.decapitalized attr.name

variable (mode : CopyMode) (flag : Option Bool) (attr : Attribute)

theorem name_withFlag : (mode.withFlag flag attr).name = attr.name := by
  cases mode <;> rfl

theorem columnType_withFlag : (mode.withFlag flag attr).columnType = attr.columnType := by
  cases mode <;> rfl

/-- A flag that is left out allows a copy. -/
theorem allows_eq : mode.allows attr = (mode.flag attr != some false) := by
  cases mode with
  | insertable =>
    rw [allows, Attribute.allowsInsert, CopyMode.flag]
    rcases attr.isInsertable with _ | _ | _ <;> rfl
  | updatable =>
    rw [allows, Attribute.allowsUpdate, CopyMode.flag]
    rcases attr.isUpdatable with _ | _ | _ <;> rfl

end CopyMode

/-! ## Blocks of lines -/

/-- The property that is assigned. -/
def EntityCopy.assigned : EntityCopy → String
  | plain assigned _ | lookup assigned _ _ _ => assigned

/-- Whether lines make the assignments of a copy for the given attributes and nothing else. There
are no lines without an assignment. -/
def CopyMode.Assigns (mode : CopyMode) (attrs : List Attribute) (lines : List String) : Prop :=
  ∃ copies, EntityCopy.readAll? (lines.flatMap tokens) = some copies ∧
    copies.map EntityCopy.assigned = mode.assignedNames attrs ∧ (copies = [] → lines = [])

/-- The surroundings of a block of lines in a function: what stands in front of the function, its
first line, the lines before and behind the block, and what stands behind the function. -/
structure BlockPlace where
  opening : List String
  header : String
  earlier : List String
  later : List String
  closing : List String

/-- All lines of a file with a block at a place. -/
def BlockPlace.lines (place : BlockPlace) (block : List String) : List String :=
  place.opening ++ place.header :: (place.earlier ++ block ++ place.later) ++ "\x7d" :: place.closing

/-- Whether a file has, in the function of a copy, the block of an attribute at the given place,
between the lines of the attributes that are declared before and behind it. -/
structure SourceFile.CopiesAt (file : SourceFile) (mode : CopyMode) (place : BlockPlace)
    (earlier : List Attribute) (attr : Attribute) (later : List Attribute)
    (block : List String) : Prop where
  text_eq : file.text = unlines (place.lines block)
  function : ∃ head, FunctionHead.ofTokens? (tokens place.header) = some head ∧
    file.function? mode.functionName = some (head, place.earlier ++ block ++ place.later)
  earlier : mode.Assigns earlier place.earlier
  block : mode.Assigns [attr] block
  later : mode.Assigns later place.later

/-! ## Assignments of mapped attributes -/

section Assigns

variable {set : EntitySet} {owner : String} {mode : CopyMode}

/-- A mapped attribute is copied if the copy sets it. -/
theorem EntitySet.MapsTo.isCopied_eq {attr : Attribute} {type : MappedType}
    (h : set.MapsTo owner attr type) :
    MappedAttribute.isCopied mode ⟨attr, type⟩ = mode.sets attr := by
  rw [MappedAttribute.isCopied, CopyMode.sets, CopyMode.allows_eq]
  cases h with
  | identifier hcolumn | version hcolumn | basic hcolumn | manyToOne hcolumn =>
    simp [hcolumn, MappedAttribute.isManaged]

variable {attrs : List MappedAttribute}
  (hmaps : ∀ mapped ∈ attrs, set.MapsTo owner mapped.source mapped.type)

include hmaps

/-- A copy assigns to the properties of the attributes that it sets. -/
theorem CopyMode.map_assigned_eq :
    ((attrs.filter (MappedAttribute.isCopied mode)).map fun mapped =>
      mapped.entityAssignment.copy).map EntityCopy.assigned =
        mode.assignedNames (attrs.map MappedAttribute.source) := by
  have hfilter : attrs.filter (MappedAttribute.isCopied mode) =
      attrs.filter (mode.sets ∘ MappedAttribute.source) :=
    List.filter_congr fun mapped hmapped => (hmaps mapped hmapped).isCopied_eq
  rw [hfilter, assignedNames, List.filter_map, List.map_map, List.map_map]
  refine List.map_congr_left fun mapped _ => ?_
  simp only [Function.comp_apply, MappedAttribute.entityAssignment]
  split <;> rfl

/-- The lines that copy some attributes make their assignments. -/
theorem CopyMode.assigns_lines (hnames : ∀ mapped ∈ attrs, mapped.HasIdentifierNames) :
    mode.Assigns (attrs.map MappedAttribute.source)
      ((Extension.entityAssignments mode attrs).flatMap EntityAssignment.lines) := by
  refine ⟨_, MappedAttribute.readAll?_entityAssignments mode hnames, map_assigned_eq hmaps, ?_⟩
  intro hcopies
  rw [Extension.entityAssignments, List.map_eq_nil_iff.mp hcopies]
  rfl

end Assigns

/-! ## Lines that do not go by a flag -/

/-- A mapped attribute with another flag for a copy. -/
def MappedAttribute.withFlag (mode : CopyMode) (flag : Option Bool) (mapped : MappedAttribute) :
    MappedAttribute :=
  { mapped with source := mode.withFlag flag mapped.source }

/-- An attribute with another flag has the same names. -/
theorem MappedAttribute.HasIdentifierNames.withFlag {mapped : MappedAttribute}
    (h : mapped.HasIdentifierNames) (mode : CopyMode) (flag : Option Bool) :
    (mapped.withFlag mode flag).HasIdentifierNames where
  name := by
    rw [MappedAttribute.name, MappedAttribute.withFlag, CopyMode.name_withFlag]
    exact h.name
  entityName := h.entityName
  identifierName := h.identifierName

namespace Extension

/-- The first line of the function of a copy. -/
def copyHeader (entity : String) (mode : CopyMode) : String :=
  "fun " ++ Naming.contractType entity ++ "." ++ mode.functionName ++
    "(entityManager: EntityManager, entity: " ++ Naming.entityType entity ++ ") \x7b"

/-- The functions in front of that of a copy. -/
def functionsBefore (mode : CopyMode) (entity : String) (attrs : List MappedAttribute) :
    List String :=
  criterionFunction entity (Naming.orderType entity) "toOrder" "Order"
      ((orderBranches entity attrs).map (OrderBranch.line entity)) ++
    criterionFunction entity (Naming.predicateType entity) "toPredicate" "Predicate"
      ((predicateBranches entity attrs).map (PredicateBranch.line entity)) ++
    countFunction entity ++ listFunction entity ++
    match mode with
    | .insertable => []
    | .updatable => entityCopyFunction entity .insertable (entityAssignments .insertable attrs)

/-- The functions behind that of a copy. -/
def functionsBehind (mode : CopyMode) (entity : String) (attrs : List MappedAttribute) :
    List String :=
  (match mode with
    | .insertable => entityCopyFunction entity .updatable (entityAssignments .updatable attrs)
    | .updatable => []) ++
    dataCopyFunction entity (dataAssignments attrs)

/-- The function of a copy stands among the others. -/
theorem body_eq (mode : CopyMode) (options : Options) (entity : Entity)
    (attrs : List MappedAttribute) :
    Kind.extension.body options entity attrs =
      functionsBefore mode entity.name attrs ++ ["@Suppress(\"UNUSED_PARAMETER\")"] ++
        copyHeader entity.name mode ::
          (entityAssignments mode attrs).flatMap EntityAssignment.lines ++
        "\x7d" :: "" :: functionsBehind mode entity.name attrs := by
  cases mode <;>
    simp [Kind.body, body, functionsBefore, functionsBehind, entityCopyFunction, copyHeader]

section

variable {mode : CopyMode} (flag : Option Bool) (attrs : List MappedAttribute)

/-- What is written for each attribute stays the same if it does not go by a flag. -/
theorem flatMap_withFlag {α : Type} {write : MappedAttribute → List α}
    (h : ∀ mapped, write (mapped.withFlag mode flag) = write mapped) :
    (attrs.map (MappedAttribute.withFlag mode flag)).flatMap write = attrs.flatMap write := by
  rw [List.flatMap_map, funext h]

theorem entityAssignments_withFlag {other : CopyMode} (hother : other ≠ mode) :
    entityAssignments other (attrs.map (MappedAttribute.withFlag mode flag)) =
      entityAssignments other attrs := by
  rw [entityAssignments, entityAssignments, List.filter_map, List.map_map]
  cases mode <;> cases other <;> first | exact absurd rfl hother | rfl

/-- The functions in front of that of a copy do not go by its flag. -/
theorem functionsBefore_withFlag (entity : String) :
    functionsBefore mode entity (attrs.map (MappedAttribute.withFlag mode flag)) =
      functionsBefore mode entity attrs := by
  have horders : orderBranches entity (attrs.map (MappedAttribute.withFlag mode flag)) =
      orderBranches entity attrs :=
    flatMap_withFlag flag attrs fun _ => by cases mode <;> rfl
  have hpredicates : predicateBranches entity (attrs.map (MappedAttribute.withFlag mode flag)) =
      predicateBranches entity attrs :=
    flatMap_withFlag flag attrs fun _ => by cases mode <;> rfl
  unfold functionsBefore
  rw [horders, hpredicates]
  cases mode with
  | insertable => rfl
  | updatable => rw [entityAssignments_withFlag flag attrs (by decide)]

/-- The functions behind that of a copy do not go by its flag. -/
theorem functionsBehind_withFlag (entity : String) :
    functionsBehind mode entity (attrs.map (MappedAttribute.withFlag mode flag)) =
      functionsBehind mode entity attrs := by
  have hdata : dataAssignments (attrs.map (MappedAttribute.withFlag mode flag)) =
      dataAssignments attrs := by
    rw [dataAssignments, dataAssignments, List.map_map]
    cases mode <;> rfl
  unfold functionsBehind
  rw [hdata]
  cases mode with
  | insertable => rw [entityAssignments_withFlag flag attrs (by decide)]
  | updatable => rfl

/-- The imports of an extension do not go by any flag. -/
theorem imports_withFlag (options : Options) (entity : Entity) :
    (Kind.extension.sourceFile options entity
        (attrs.map (MappedAttribute.withFlag mode flag))).imports =
      (Kind.extension.sourceFile options entity attrs).imports := by
  have hnames : Kind.extension.importedNames options entity.packageName
      (attrs.map (MappedAttribute.withFlag mode flag)) =
        Kind.extension.importedNames options entity.packageName attrs := by
    rw [Kind.importedNames, Kind.importedNames,
      flatMap_withFlag flag attrs fun _ => by cases mode <;> rfl]
  rw [Kind.sourceFile, Kind.sourceFile, SourceFile.ofEntity, SourceFile.ofEntity, hnames]

end

/-- The place of an attribute's lines in the function of a copy, in the extension of an entity with
the given attributes. -/
def place (mode : CopyMode) (options : Options) (entity : Entity)
    (attrs earlier later : List MappedAttribute) : BlockPlace where
  opening :=
    SourceFile.preludeLines entity.packageName
        (Kind.extension.sourceFile options entity attrs).imports .kotlin ++
      (functionsBefore mode entity.name attrs ++ ["@Suppress(\"UNUSED_PARAMETER\")"])
  header := copyHeader entity.name mode
  earlier := (entityAssignments mode earlier).flatMap EntityAssignment.lines
  later := (entityAssignments mode later).flatMap EntityAssignment.lines
  closing := "" :: functionsBehind mode entity.name attrs

/-- Attributes that differ in the flag for a copy alone make up the same place. -/
theorem place_congr {mode : CopyMode} {attrs others : List MappedAttribute} (options : Options)
    {entity edited : Entity} (earlier later : List MappedAttribute)
    (hname : edited.name = entity.name) (hpackage : edited.packageName = entity.packageName)
    (h : others.map (MappedAttribute.withFlag mode none) =
      attrs.map (MappedAttribute.withFlag mode none)) :
    place mode options edited others earlier later =
      place mode options entity attrs earlier later := by
  have himports : (Kind.extension.sourceFile options edited others).imports =
      (Kind.extension.sourceFile options entity attrs).imports := by
    rw [← imports_withFlag none others, h, imports_withFlag none attrs]
    simp only [Kind.sourceFile, SourceFile.ofEntity, hpackage]
  rw [place, place, himports, hname, hpackage, ← functionsBefore_withFlag none others,
    ← functionsBehind_withFlag none others, h, functionsBefore_withFlag,
    functionsBehind_withFlag]

/-- The lines that copy an attribute stand at its place. -/
theorem copiesAt_place {set : EntitySet} {owner : String} (mode : CopyMode) (options : Options)
    {entity : Entity} (hentity : Text.isIdentifier entity.name = true)
    {earlier later : List MappedAttribute} {mapped : MappedAttribute}
    (hnames : ∀ other ∈ earlier ++ mapped :: later, other.HasIdentifierNames)
    (hmaps : ∀ other ∈ earlier ++ mapped :: later, set.MapsTo owner other.source other.type) :
    (Kind.extension.sourceFile options entity (earlier ++ mapped :: later)).CopiesAt mode
      (place mode options entity (earlier ++ mapped :: later) earlier later)
      (earlier.map MappedAttribute.source) mapped.source (later.map MappedAttribute.source)
      ((entityAssignments mode [mapped]).flatMap EntityAssignment.lines) := by
  have hsplit : (entityAssignments mode (earlier ++ mapped :: later)).flatMap
      EntityAssignment.lines = (entityAssignments mode earlier).flatMap EntityAssignment.lines ++
        (entityAssignments mode [mapped]).flatMap EntityAssignment.lines ++
          (entityAssignments mode later).flatMap EntityAssignment.lines := by
    rw [← List.singleton_append]
    simp only [entityAssignments, List.filter_append, List.map_append, List.flatMap_append,
      List.append_assoc]
  have hfunction := SourceFile.function?_entityCopy options hentity hnames mode
  rw [List.forall_mem_append, List.forall_mem_cons] at hnames hmaps
  have hname : Text.isWord mode.functionName = true := by cases mode <;> decide
  constructor
  case text_eq =>
    rw [SourceFile.text]
    refine congrArg SourceFile.unlines ?_
    change SourceFile.preludeLines _ _ _ ++ Kind.extension.body options entity _ = _
    rw [body_eq mode, hsplit, BlockPlace.lines, place]
    simp only [List.append_assoc, List.cons_append]
    rfl
  case function =>
    refine ⟨_, ofTokens?_entityCopyHeader (Naming.isWord_contractType hentity) hname
      (Naming.isWord_entityType hentity), ?_⟩
    rw [hfunction, hsplit]
    rfl
  case earlier => exact CopyMode.assigns_lines hmaps.1 hnames.1
  case block =>
    have hownMaps : ∀ other ∈ [mapped], set.MapsTo owner other.source other.type :=
      List.forall_mem_singleton.mpr hmaps.2.1
    exact CopyMode.assigns_lines hownMaps (List.forall_mem_singleton.mpr hnames.2.1)
  case later => exact CopyMode.assigns_lines hmaps.2.2 hnames.2.2

end Extension

/-! ## Sets in which a flag is changed -/

/-- A flag does not change what relationships lead to. -/
theorem Entity.target?_withFlag {entity : Entity} {earlier later : List Attribute}
    {attr : Attribute} (h : entity.attributes = earlier ++ attr :: later) (mode : CopyMode)
    (flag : Option Bool) :
    (entity.withAttributes (earlier ++ mode.withFlag flag attr :: later)).target? =
      entity.target? := by
  have htarget (other : Entity) : other.target? = other.attributes.findSome? fun attr =>
      attr.idKind?.map fun kind => ⟨other.name, other.packageName, attr.name, kind⟩ := by
    rw [target?, identifier?, List.map_findSome?]
    refine congrArg (other.attributes.findSome? ·) (funext fun attr => ?_)
    simp only [Function.comp_apply, Option.map_map]
    rfl
  rw [htarget, htarget entity, h]
  simp only [withAttributes, List.findSome?_append, List.findSome?_cons, Attribute.idKind?,
    CopyMode.columnType_withFlag, CopyMode.name_withFlag]

namespace EntitySet

variable {set changed : EntitySet} {options : Options} {entity : Entity} {kind : Kind}
  {artifact : Artifact} {owner : String} {attr : Attribute} {type : MappedType}
  {attrs : List MappedAttribute}

/-- An attribute maps to the same types with another flag. -/
theorem MapsTo.withFlag (h : set.MapsTo owner attr type) (mode : CopyMode) (flag : Option Bool) :
    set.MapsTo owner (mode.withFlag flag attr) type := by
  have hcolumn := mode.columnType_withFlag flag attr
  cases h with
  | identifier hdeclared => exact .identifier (hcolumn.trans hdeclared)
  | version hdeclared => exact .version (hcolumn.trans hdeclared)
  | basic hdeclared => exact .basic (hcolumn.trans hdeclared)
  | manyToOne hdeclared htarget =>
    rw [← mode.name_withFlag flag attr] at htarget
    exact .manyToOne (hcolumn.trans hdeclared) htarget

section

variable {before after : List Entity} {earlier later : List MappedAttribute}
  {mapped : MappedAttribute} (mode : CopyMode) (flag : Option Bool)

/-- A set in which a flag of a mapped attribute is changed maps the same attributes, but for that
flag. -/
theorem exists_mapEntity_withFlag (hset : set.entities = before ++ entity :: after)
    (h : set.mapEntity entity = .ok (earlier ++ mapped :: later)) :
    ∃ changed edited,
      edited = entity.withAttributes (earlier.map MappedAttribute.source ++
        mode.withFlag flag mapped.source :: later.map MappedAttribute.source) ∧
      ofEntities (before ++ edited :: after) = .ok changed ∧
      changed.mapEntity edited = .ok (earlier ++ mapped.withFlag mode flag :: later) := by
  obtain ⟨hsources, hmaps⟩ := mapEntity_eq_ok_iff_mapsTo.mp h
  rw [List.map_append, List.map_cons] at hsources
  have hnodup : ((earlier.map MappedAttribute.source ++
      mode.withFlag flag mapped.source :: later.map MappedAttribute.source).map
        Attribute.name).Nodup := by
    have hnames := set.attributes_nodup entity (by simp [hset])
    rw [Entity.attributeNames, ← hsources] at hnames
    simpa only [List.map_append, List.map_cons, CopyMode.name_withFlag] using hnames
  obtain ⟨changed, hchanged⟩ := exists_withAttributes hset hnodup
  have hagree : ∀ name, set.AgreeAt changed name :=
    agreeAt_of_showsAlike hset hchanged rfl
      (.of_target?_eq rfl (Entity.target?_withFlag hsources.symm mode flag).symm)
  refine ⟨changed, _, rfl, hchanged ▸ ofEntities_entities changed,
    mapEntity_eq_ok_iff_mapsTo.mpr ⟨by rw [List.map_append]; rfl, ?_⟩⟩
  rw [List.forall_mem_append, List.forall_mem_cons] at hmaps ⊢
  exact ⟨fun other hother => (hmaps.1 other hother).of_agreeAt hagree,
    (hmaps.2.1.withFlag mode flag).of_agreeAt hagree,
    fun other hother => (hmaps.2.2 other hother).of_agreeAt hagree⟩

/-- The extensions of an entity before and after a flag of a mapped attribute is changed have the
blocks of that attribute at the same place. -/
theorem exists_copiesAt_withFlag {edited : Entity}
    (hentity : Text.isIdentifier entity.name = true)
    (hnames : ∀ other ∈ earlier ++ mapped :: later, other.HasIdentifierNames)
    (h : set.mapEntity entity = .ok (earlier ++ mapped :: later))
    (hother : changed.mapEntity edited = .ok (earlier ++ mapped.withFlag mode flag :: later))
    (hname : edited.name = entity.name) (hpackage : edited.packageName = entity.packageName) :
    ∃ place block otherBlock,
      (Kind.extension.sourceFile options entity (earlier ++ mapped :: later)).CopiesAt mode place
        (earlier.map MappedAttribute.source) mapped.source (later.map MappedAttribute.source)
        block ∧
      (Kind.extension.sourceFile options edited
        (earlier ++ mapped.withFlag mode flag :: later)).CopiesAt mode place
        (earlier.map MappedAttribute.source) (mode.withFlag flag mapped.source)
        (later.map MappedAttribute.source) otherBlock := by
  have hplace : Extension.place mode options edited
      (earlier ++ mapped.withFlag mode flag :: later) earlier later =
        Extension.place mode options entity (earlier ++ mapped :: later) earlier later := by
    refine Extension.place_congr options earlier later hname hpackage ?_
    rw [List.map_append, List.map_append]
    cases mode <;> rfl
  have hotherNames : ∀ other ∈ earlier ++ mapped.withFlag mode flag :: later,
      other.HasIdentifierNames := by
    rw [List.forall_mem_append, List.forall_mem_cons] at hnames ⊢
    exact ⟨hnames.1, hnames.2.1.withFlag mode flag, hnames.2.2⟩
  have hblock := Extension.copiesAt_place mode options hentity hnames
    (mapEntity_eq_ok_iff_mapsTo.mp h).2
  have hotherBlock := Extension.copiesAt_place mode options (hname ▸ hentity) hotherNames
    (mapEntity_eq_ok_iff_mapsTo.mp hother).2
  rw [hplace] at hotherBlock
  exact ⟨_, _, _, hblock, hotherBlock⟩

end

/-- A copy into a persisted object assigns to one property for each attribute that it sets, in the
order of declaration. If the flag that it goes by is changed for one attribute, then the extension
stays as it is but for the block of that attribute in the function of this copy. -/
theorem copies_go_by_flags (hnames : set.HasIdentifierNames) (hentity : entity ∈ set.entities)
    (hrender : set.render options entity kind = .ok artifact) :
    ∃ file, set.emit options entity .extension = .ok file ∧
      (∀ mode : CopyMode, ∃ receiver target copies,
        file.entityCopy? mode.functionName = some ⟨receiver, target, copies⟩ ∧
        copies.map EntityCopy.assigned = mode.assignedNames entity.attributes) ∧
      ∀ (mode : CopyMode) (flag : Option Bool) (before after : List Entity)
        (earlier : List Attribute) (attr : Attribute) (later : List Attribute),
        set.entities = before ++ entity :: after → entity.attributes = earlier ++ attr :: later →
        ∃ changed edited other,
          edited = entity.withAttributes (earlier ++ mode.withFlag flag attr :: later) ∧
          ofEntities (before ++ edited :: after) = .ok changed ∧
          changed.emit options edited .extension = .ok other ∧
          ∃ place block otherBlock,
            file.CopiesAt mode place earlier attr later block ∧
            other.CopiesAt mode place earlier (mode.withFlag flag attr) later otherBlock := by
  obtain ⟨attrs, hattrs, -⟩ := render_eq_ok_iff.mp hrender
  have hentityName := (hnames entity hentity).1
  have hmapped := hnames.mapped hentity hattrs
  obtain ⟨hsources, hmaps⟩ := mapEntity_eq_ok_iff_mapsTo.mp hattrs
  refine ⟨_, emit_of_mapEntity hattrs options .extension,
    fun mode => ⟨_, _, _, SourceFile.entityCopy?_extension options hentityName hmapped mode,
      (CopyMode.map_assigned_eq hmaps).trans (congrArg _ hsources)⟩, ?_⟩
  intro mode flag before after earlier attr later hset hattributes
  obtain ⟨front, rest, rfl, rfl, hrest⟩ :=
    List.map_eq_append_iff.mp (hsources.trans hattributes)
  obtain ⟨mapped, back, rfl, rfl, rfl⟩ := List.map_eq_cons_iff.mp hrest
  obtain ⟨changed, edited, rfl, hchanged, hother⟩ :=
    exists_mapEntity_withFlag mode flag hset hattrs
  exact ⟨changed, _, _, rfl, hchanged, emit_of_mapEntity hother options .extension,
    exists_copiesAt_withFlag mode flag hentityName hmapped hattrs hother rfl rfl⟩

/-- The member copies name, team and mentor, but the mentor only into existing rows. That changes
with its flag for new rows, and nothing else does. -/
theorem copies_go_by_flags_teamAndMember :
    ∃ team member others mentor file, teamAndMember.entities = [team, member] ∧
      member.attributes = others ++ [mentor] ∧
      teamAndMember.emit {} member .extension = .ok file ∧
      (∃ receiver target copies,
        file.entityCopy? "copyInsertablePropertiesTo" = some ⟨receiver, target, copies⟩ ∧
        copies.map EntityCopy.assigned = ["name", "team"]) ∧
      (∃ receiver target copies,
        file.entityCopy? "copyUpdatablePropertiesTo" = some ⟨receiver, target, copies⟩ ∧
        copies.map EntityCopy.assigned = ["name", "team", "mentor"]) ∧
      ∃ changed edited other,
        edited = member.withAttributes
          (others ++ [CopyMode.insertable.withFlag (some true) mentor]) ∧
        ofEntities [team, edited] = .ok changed ∧
        changed.emit {} edited .extension = .ok other ∧
        ∃ place block otherBlock,
          file.CopiesAt .insertable place others mentor [] block ∧
          other.CopiesAt .insertable place others
            (CopyMode.insertable.withFlag (some true) mentor) [] otherBlock := by
  obtain ⟨team, member, others, mentor, hentities, hattributes, hinsertable, hupdatable⟩ :
      ∃ team member others mentor, teamAndMember.entities = [team, member] ∧
        member.attributes = others ++ [mentor] ∧
        CopyMode.insertable.assignedNames member.attributes = ["name", "team"] ∧
        CopyMode.updatable.assignedNames member.attributes = ["name", "team", "mentor"] :=
    ⟨_, _, [_, _, _, _], _, rfl, rfl, by decide, by decide⟩
  have hmember : member ∈ teamAndMember.entities := by simp [hentities]
  obtain ⟨artifacts, hrender⟩ := teamAndMember.exists_renderAll
  obtain ⟨attrs, hattrs, -⟩ := exists_generates rfl hrender hmember
  obtain ⟨file, hfile, hassigned, hflags⟩ := copies_go_by_flags teamAndMember.hasIdentifierNames
    hmember (render_eq_ok_iff.mpr ⟨attrs, hattrs, rfl⟩ :
      teamAndMember.render {} member .extension = _)
  exact ⟨team, member, others, mentor, file, hentities, hattributes, hfile,
    hinsertable ▸ hassigned .insertable, hupdatable ▸ hassigned .updatable,
    hflags .insertable (some true) [team] [] others mentor [] hentities hattributes⟩

end EntitySet

end PersistenceLayer
