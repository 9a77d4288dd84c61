import PersistenceLayer.Proofs.ClientTypes
import PersistenceLayer.Proofs.ReadableAnnotations

/-!
# What mapping annotations say

The annotations of a property, with its name and its type, say everything about
how its attribute is mapped: parameters that are left out stand for names and
flags that are not set, and no two of them share a name. So attributes whose
properties have one text are mapped alike, even if they belong to different sets.
-/

namespace PersistenceLayer

/-! ## Optional parameters -/

/-- The parameters that have an argument, of some names that each may have one. -/
def assignedParameters (assignments : List (String × Option Argument)) : List Parameter :=
  assignments.flatMap fun assignment => optionalParameter assignment.1 id assignment.2

section AssignedParameters

variable {assignments others : List (String × Option Argument)}

/-- The name of a parameter is one of those that may have an argument. -/
theorem name_mem_of_mem_assignedParameters {parameter : Parameter}
    (h : parameter ∈ assignedParameters assignments) :
    parameter.name ∈ assignments.map Prod.fst := by
  obtain ⟨⟨name, value⟩, hmem, hparameter⟩ := List.mem_flatMap.mp h
  obtain ⟨argument, -, rfl⟩ := Option.map_eq_some_iff.mp (Option.mem_toList.mp hparameter)
  exact List.mem_map_of_mem hmem

/-- Where names are different, the parameters tell which of them have an argument, and which. -/
theorem assignedParameters_inj (hnames : assignments.map Prod.fst = others.map Prod.fst)
    (hnodup : (assignments.map Prod.fst).Nodup)
    (h : assignedParameters assignments = assignedParameters others) : assignments = others := by
  have habsent : ∀ (name : String) (argument : Argument)
      (rest : List (String × Option Argument)) (tail : List Parameter),
      name ∉ rest.map Prod.fst → assignedParameters rest ≠ ⟨name, argument⟩ :: tail :=
    fun name argument rest tail hname heq =>
      hname (name_mem_of_mem_assignedParameters (heq.symm ▸ List.mem_cons_self))
  induction assignments generalizing others with
  | nil => exact (List.map_eq_nil_iff.mp hnames.symm).symm
  | cons assignment assignments ih =>
    obtain ⟨name, value⟩ := assignment
    obtain ⟨⟨other, otherValue⟩, others, rfl, hname, htail⟩ := List.map_eq_cons_iff.mp hnames.symm
    obtain rfl : other = name := hname
    obtain ⟨hnew, hdistinct⟩ := List.nodup_cons.mp hnodup
    cases value with
    | none =>
      cases otherValue with
      | none => rw [ih htail.symm hdistinct h]
      | some argument => exact absurd h (habsent other argument assignments _ hnew)
    | some argument =>
      cases otherValue with
      | none => exact absurd h.symm (habsent other argument others _ (htail ▸ hnew))
      | some otherArgument =>
        obtain ⟨hparameter, hrest⟩ := List.cons.inj h
        obtain rfl : argument = otherArgument := congrArg Parameter.argument hparameter
        rw [ih htail.symm hdistinct hrest]

end AssignedParameters

/-! ## Columns -/

/-- Whether two attributes set the same names and flags for their columns, where a blank name counts
as none. -/
structure Attribute.SharesColumn (attr other : Attribute) : Prop where
  columnName : Text.nonBlank? attr.columnName = Text.nonBlank? other.columnName
  isUnique : attr.isUnique = other.isUnique
  isNullable : attr.isNullable = other.isNullable
  isInsertable : attr.isInsertable = other.isInsertable
  isUpdatable : attr.isUpdatable = other.isUpdatable

/-- What an attribute sets for a column of any kind. -/
def Attribute.columnAssignments (attr : Attribute) : List (String × Option Argument) :=
  [("name", (Text.nonBlank? attr.columnName).map .text), ("unique", attr.isUnique.map .flag),
    ("nullable", attr.isNullable.map .flag), ("insertable", attr.isInsertable.map .flag),
    ("updatable", attr.isUpdatable.map .flag)]

/-- What limits the values of a plain column. -/
def BasicType.assignments : BasicType → List (String × Option Argument)
  | string length => [("length", length.map .number), ("precision", none), ("scale", none)]
  | bigDecimal precision scale =>
    [("length", none), ("precision", precision.map .number), ("scale", scale.map .number)]
  | _ => [("length", none), ("precision", none), ("scale", none)]

/-- A parameter without a value is not written. -/
theorem optionalParameter_none {α : Type} (name : String) (argument : α → Argument) :
    optionalParameter name argument none = [] := rfl

/-- A parameter may be given by its argument, too. -/
theorem optionalParameter_map {α : Type} (name : String) (argument : α → Argument)
    (value : Option α) :
    optionalParameter name id (value.map argument) = optionalParameter name argument value := by
  cases value <;> rfl

/-- The parameters of a column are those that are assigned a value. -/
theorem Attribute.assignedParameters_columnAssignments (attr : Attribute) :
    assignedParameters attr.columnAssignments = attr.columnParameters := by
  simp [columnAssignments, assignedParameters, optionalParameter_map, columnParameters,
    nameParameter]

/-- The parameters of a plain column are those that are assigned a value. -/
theorem BasicType.assignedParameters_assignments (type : BasicType) :
    assignedParameters type.assignments = type.parameters := by
  cases type <;>
    simp [assignments, assignedParameters, optionalParameter_none, optionalParameter_map,
      parameters]

/-- The names of the parameters that limit the values of a plain column. -/
theorem BasicType.names_assignments (type : BasicType) :
    type.assignments.map Prod.fst = ["length", "precision", "scale"] := by
  cases type <;> rfl

/-- The parameters of a column tell everything that is set for it, and what they are followed by if
that is called differently. -/
theorem Attribute.columnParameters_append_inj {attr other : Attribute}
    {limits otherLimits : List (String × Option Argument)}
    (hnames : limits.map Prod.fst = otherLimits.map Prod.fst)
    (hnodup : (["name", "unique", "nullable", "insertable", "updatable"] ++
      limits.map Prod.fst).Nodup)
    (h : attr.columnParameters ++ assignedParameters limits =
      other.columnParameters ++ assignedParameters otherLimits) :
    attr.SharesColumn other ∧ limits = otherLimits := by
  have htext : Function.Injective Argument.text := fun _ _ => Argument.text.inj
  have hflag : Function.Injective Argument.flag := fun _ _ => Argument.flag.inj
  have happend : ∀ (attr : Attribute) (limits : List (String × Option Argument)),
      assignedParameters (attr.columnAssignments ++ limits) =
        attr.columnParameters ++ assignedParameters limits := by
    intro attr limits
    rw [assignedParameters, List.flatMap_append, ← assignedParameters_columnAssignments]
    rfl
  rw [← happend, ← happend] at h
  have hassignments := assignedParameters_inj
    (by rw [List.map_append, List.map_append, hnames]; rfl) (by rwa [List.map_append]) h
  obtain ⟨hcolumn, hlimits⟩ := List.append_inj hassignments rfl
  simp only [columnAssignments, List.cons.injEq, Prod.mk.injEq, true_and, and_true,
    (Option.map_injective htext).eq_iff, (Option.map_injective hflag).eq_iff] at hcolumn
  obtain ⟨hname, hunique, hnullable, hinsertable, hupdatable⟩ := hcolumn
  exact ⟨⟨hname, hunique, hnullable, hinsertable, hupdatable⟩, hlimits⟩

/-- The parameters of a column tell everything that is set for it. -/
theorem Attribute.columnParameters_inj {attr other : Attribute} :
    attr.columnParameters = other.columnParameters ↔ attr.SharesColumn other := by
  constructor
  · intro h
    have happended : attr.columnParameters ++ assignedParameters [] =
        other.columnParameters ++ assignedParameters [] := by rw [h]
    exact (columnParameters_append_inj rfl (by decide) happended).1
  · rintro ⟨hname, hunique, hnullable, hinsertable, hupdatable⟩
    simp only [columnParameters, nameParameter, hname, hunique, hnullable, hinsertable, hupdatable]

/-! ## Column types -/

/-- Different scalars have different names. -/
theorem Scalar.kotlinName_injective : Function.Injective kotlinName := by
  intro scalar other h
  cases scalar <;> cases other <;> first | rfl | exact absurd h (by decide)

/-- Different kinds of identifiers have different scalars. -/
theorem IdKind.scalar_injective : Function.Injective scalar := by
  intro kind other h
  cases kind <;> cases other <;> first | rfl | cases h

/-- Different kinds of counters have different scalars. -/
theorem VersionKind.scalar_injective : Function.Injective scalar := by
  intro kind other h
  cases kind <;> cases other <;> first | rfl | cases h

/-- A plain type is told by its scalar and its limits. -/
theorem BasicType.eq_of_assignments {type other : BasicType} (hscalar : type.scalar = other.scalar)
    (h : type.assignments = other.assignments) : type = other := by
  have hnumber : Function.Injective Argument.number := fun _ _ => Argument.number.inj
  cases type <;> cases other <;>
    simp_all [scalar, assignments, (Option.map_injective hnumber).eq_iff]

/-- The annotations of an identifier tell whether it is generated. -/
theorem identifierAnnotations_inj {kind other : IdKind} {generated otherGenerated : Bool}
    {column otherColumn : List Parameter}
    (h : identifierAnnotations kind generated column =
      identifierAnnotations other otherGenerated otherColumn) :
    generated = otherGenerated ∧ column = otherColumn := by
  cases generated <;> cases otherGenerated <;> simp_all [identifierAnnotations]

/-- The column type with the generated type of a relationship's target in place of its name. -/
def ColumnType.asGenerated : ColumnType → ColumnType
  | manyToOne target => .manyToOne (Naming.entityType target)
  | type => type

/-- The column type that a mapped type comes from. -/
def MappedType.columnType : MappedType → ColumnType
  | identifier kind generated => .identifier kind generated
  | version kind => .version kind
  | basic type => .basic type
  | manyToOne target => .manyToOne target.entityName

/-- The column type of an attribute is told by what the attribute is mapped to. -/
theorem EntitySet.MapsTo.columnType_eq {set : EntitySet} {owner : String} {attr : Attribute}
    {type : MappedType} (h : set.MapsTo owner attr type) :
    attr.columnType = some type.columnType := by
  cases type with
  | manyToOne target =>
    obtain ⟨entity, -, hcolumn, htarget⟩ := h.exists_entity
    rw [hcolumn, MappedType.columnType, Entity.entityName_of_target? htarget]
  | identifier | version | basic =>
    cases h
    assumption

/-- The name of the annotation that comes first for a column type. -/
def MappedType.firstMark : MappedType → String
  | identifier _ _ => "get:Id"
  | version _ => "get:Version"
  | basic _ => "get:Column"
  | manyToOne _ => "get:ManyToOne"

namespace MappedAttribute

variable {first second : MappedAttribute}

/-- The annotations of a property tell which kind of column type it has. -/
theorem firstMark_eq (h : first.annotations = second.annotations) :
    first.type.firstMark = second.type.firstMark := by
  have hhead : ∀ mapped : MappedAttribute,
      mapped.annotations.head?.map Annotation.name = some mapped.type.firstMark := by
    rintro ⟨attr, _ | _ | _ | _⟩ <;> rfl
  exact Option.some.inj (by rw [← hhead, ← hhead, h])

/-- What an attribute sets for its column, and its column type up to the name of a target, can be
told from the annotations of its property and from the name of the type. -/
theorem sharesColumn_of_annotations (hannotations : first.annotations = second.annotations)
    (htype : first.valueType.kotlinName = second.valueType.kotlinName) :
    first.type.columnType.asGenerated = second.type.columnType.asGenerated ∧
      first.source.SharesColumn second.source := by
  obtain ⟨attr, type⟩ := first
  obtain ⟨other, otherType⟩ := second
  have hscalar {scalar otherScalar : Scalar} :
      scalar.kotlinName = otherScalar.kotlinName → scalar = otherScalar :=
    fun h => Scalar.kotlinName_injective h
  have hmark := firstMark_eq hannotations
  cases type with
  | identifier kind generated =>
    cases otherType with
    | identifier otherKind otherGenerated =>
      obtain ⟨rfl, hcolumn⟩ := identifierAnnotations_inj hannotations
      obtain rfl := IdKind.scalar_injective (hscalar htype)
      exact ⟨rfl, Attribute.columnParameters_inj.mp hcolumn⟩
    | version | basic | manyToOne => simp [MappedType.firstMark] at hmark
  | version kind =>
    cases otherType with
    | version otherKind =>
      obtain rfl := VersionKind.scalar_injective (hscalar htype)
      simp only [annotations, versionAnnotations, List.cons.injEq, Annotation.mk.injEq]
        at hannotations
      exact ⟨rfl, Attribute.columnParameters_inj.mp hannotations.2.1.2⟩
    | identifier | basic | manyToOne => simp [MappedType.firstMark] at hmark
  | basic type =>
    cases otherType with
    | basic otherType =>
      simp only [annotations, basicAnnotations, List.cons.injEq, Annotation.mk.injEq]
        at hannotations
      rw [← type.assignedParameters_assignments, ← otherType.assignedParameters_assignments]
        at hannotations
      obtain ⟨hcolumn, hlimits⟩ := Attribute.columnParameters_append_inj
        (type.names_assignments.trans otherType.names_assignments.symm)
        (by rw [type.names_assignments]; decide) hannotations.1.2
      obtain rfl := BasicType.eq_of_assignments (hscalar htype) hlimits
      exact ⟨rfl, hcolumn⟩
    | identifier | version | manyToOne => simp [MappedType.firstMark] at hmark
  | manyToOne target =>
    cases otherType with
    | manyToOne otherTarget =>
      simp only [annotations, relationshipAnnotations, List.cons.injEq, Annotation.mk.injEq]
        at hannotations
      exact ⟨congrArg ColumnType.manyToOne htype,
        Attribute.columnParameters_inj.mp hannotations.2.1.2⟩
    | identifier | version | basic => simp [MappedType.firstMark] at hmark

/-- Nothing else has a part in the annotations and in the name of the type. -/
theorem annotations_of_sharesColumn
    (htype : first.type.columnType.asGenerated = second.type.columnType.asGenerated)
    (hcolumn : first.source.SharesColumn second.source) :
    first.annotations = second.annotations ∧
      first.valueType.kotlinName = second.valueType.kotlinName := by
  have hparameters := Attribute.columnParameters_inj.mpr hcolumn
  obtain ⟨attr, type⟩ := first
  obtain ⟨other, otherType⟩ := second
  cases type <;> cases otherType <;>
    simp_all [MappedType.columnType, ColumnType.asGenerated, annotations, valueType,
      MappedType.scalar, ValueType.kotlinName]

end MappedAttribute

/-! ## Texts of properties -/

/-- Whether the name that is set for the column of an attribute, if there is one, has no double
quote in it. -/
def Attribute.HasUnquotedColumnName (attr : Attribute) : Prop :=
  ∀ name, attr.columnName = some name → '"' ∉ name.toList

/-- The property of an attribute can be told from others. -/
theorem MappedAttribute.isReadable {mapped : MappedAttribute} (hnames : mapped.HasIdentifierNames)
    (hcolumn : mapped.source.HasUnquotedColumnName) : mapped.persistedProperty.IsReadable :=
  ⟨isMadeOf_of_mem_annotations fun name hname => hcolumn name (Option.filter_eq_some_iff.mp hname).1,
    hnames.isWord_property, hnames.isWord_kotlinName⟩

/-- Whether two attributes are mapped to their columns in the same way, up to the case of the first
letter of their own names and of the names of their targets. -/
structure Attribute.MapsLike (attr other : Attribute) : Prop extends attr.SharesColumn other where
  property : Naming.property attr.name = Naming.property other.name
  columnType : attr.columnType.map ColumnType.asGenerated =
    other.columnType.map ColumnType.asGenerated

namespace EntitySet

/-- The text of the property of an attribute, as it is written to the persisted class of its
entity. -/
def propertyText (set : EntitySet) (entity : Entity) (attr : Attribute) : Except Defect String :=
  (Emission.persistedProperty set entity attr).map PersistedProperty.text

variable {set other : EntitySet} {options otherOptions : Options} {entity otherEntity : Entity}
  {kind otherKind : Kind} {artifact otherArtifact : Artifact} {attr otherAttr : Attribute}

/-- The text of a property is that of a mapped attribute, and can be told from others. -/
theorem exists_propertyText_eq (hnames : set.HasIdentifierNames) (hentity : entity ∈ set.entities)
    (hrender : set.render options entity kind = .ok artifact) (hattr : attr ∈ entity.attributes)
    (hcolumn : attr.HasUnquotedColumnName) :
    ∃ type : MappedType, attr.columnType = some type.columnType ∧
      set.propertyText entity attr = .ok (MappedAttribute.persistedProperty ⟨attr, type⟩).text ∧
      (MappedAttribute.persistedProperty ⟨attr, type⟩).IsReadable := by
  obtain ⟨attrs, hattrs, -⟩ := render_eq_ok_iff.mp hrender
  obtain ⟨type, hmem, htype⟩ := exists_mapped_of_mem hattrs hattr
  refine ⟨type, htype.columnType_eq, ?_,
    MappedAttribute.isReadable (hnames.mapped hentity hattrs _ hmem) hcolumn⟩
  rw [propertyText, Emission.persistedProperty_eq_ok htype]
  rfl

/-- Two attributes of entities that render have the same text for their properties exactly if they
are mapped to their columns in the same way. -/
theorem propertyText_eq_iff (hnames : set.HasIdentifierNames) (hentity : entity ∈ set.entities)
    (hrender : set.render options entity kind = .ok artifact) (hattr : attr ∈ entity.attributes)
    (hcolumn : attr.HasUnquotedColumnName) (hotherNames : other.HasIdentifierNames)
    (hotherEntity : otherEntity ∈ other.entities)
    (hotherRender : other.render otherOptions otherEntity otherKind = .ok otherArtifact)
    (hotherAttr : otherAttr ∈ otherEntity.attributes)
    (hotherColumn : otherAttr.HasUnquotedColumnName) :
    ∃ text otherText, set.propertyText entity attr = .ok text ∧
      other.propertyText otherEntity otherAttr = .ok otherText ∧
      (text = otherText ↔ attr.MapsLike otherAttr) := by
  obtain ⟨type, htype, htext, hreadable⟩ :=
    exists_propertyText_eq hnames hentity hrender hattr hcolumn
  obtain ⟨otherType, hotherType, hotherText, hotherReadable⟩ :=
    exists_propertyText_eq hotherNames hotherEntity hotherRender hotherAttr hotherColumn
  refine ⟨_, _, htext, hotherText, ?_⟩
  rw [PersistedProperty.text_eq_iff hreadable hotherReadable]
  constructor
  · rintro ⟨hannotations, hname, hkotlin⟩
    obtain ⟨hgenerated, hshares⟩ :=
      MappedAttribute.sharesColumn_of_annotations hannotations hkotlin
    exact ⟨hshares, hname, by rw [htype, hotherType]; exact congrArg some hgenerated⟩
  · rintro ⟨hshares, hname, hcolumnType⟩
    rw [htype, hotherType] at hcolumnType
    obtain ⟨hannotations, hkotlin⟩ := @MappedAttribute.annotations_of_sharesColumn ⟨attr, type⟩
      ⟨otherAttr, otherType⟩ (Option.some.inj hcolumnType) hshares
    exact ⟨hannotations, hname, hkotlin⟩

/-- The identifiers of members and of notes have one text, though they belong to different sets; the
name of a member and the text of a note do not. -/
theorem propertyText_eq_iff_memberAndNote :
    ∃ member ∈ teamAndMember.entities, ∃ note ∈ noteAndAuthor.entities,
      ∃ id ∈ member.attributes, ∃ name ∈ member.attributes, ∃ content ∈ note.attributes,
        id ∈ note.attributes ∧
        (∃ text, teamAndMember.propertyText member id = .ok text ∧
          noteAndAuthor.propertyText note id = .ok text) ∧
        ∃ text otherText, teamAndMember.propertyText member name = .ok text ∧
          noteAndAuthor.propertyText note content = .ok otherText ∧ text ≠ otherText := by
  obtain ⟨member, hmember, note, hnote, id, hid, name, hname, content, hcontent, hnoteId, hcolumns,
      hproperty⟩ :
      ∃ member ∈ teamAndMember.entities, ∃ note ∈ noteAndAuthor.entities,
        ∃ id ∈ member.attributes, ∃ name ∈ member.attributes, ∃ content ∈ note.attributes,
          id ∈ note.attributes ∧ (∀ attr ∈ [id, name, content], attr.columnName = none) ∧
          Naming.property name.name ≠ Naming.property content.name :=
    ⟨_, .tail _ (.head _), _, .head _, _, .head _, _, .tail _ (.tail _ (.head _)), _,
      .tail _ (.head _), .head _, by decide, by decide⟩
  have hunquoted : ∀ attr ∈ [id, name, content], attr.HasUnquotedColumnName := by
    intro attr hattr name hcolumn
    rw [hcolumns attr hattr] at hcolumn
    cases hcolumn
  obtain ⟨artifacts, hrender⟩ := teamAndMember.exists_renderAll
  obtain ⟨attrs, hattrs, -⟩ := exists_generates rfl hrender hmember
  obtain ⟨others, hothers⟩ := noteAndAuthor.exists_mapEntity note hnote
  have hartifact : teamAndMember.render {} member .persisted = _ :=
    render_eq_ok_iff.mpr ⟨attrs, hattrs, rfl⟩
  have hother : noteAndAuthor.render {} note .persisted = _ :=
    render_eq_ok_iff.mpr ⟨others, hothers, rfl⟩
  obtain ⟨text, otherText, htext, hotherText, hsame⟩ :=
    propertyText_eq_iff teamAndMember.hasIdentifierNames hmember hartifact hid
      (hunquoted id (by simp)) noteAndAuthor.hasIdentifierNames hnote hother hnoteId
      (hunquoted id (by simp))
  obtain ⟨first, second, hfirst, hsecond, hdifferent⟩ :=
    propertyText_eq_iff teamAndMember.hasIdentifierNames hmember hartifact hname
      (hunquoted name (by simp)) noteAndAuthor.hasIdentifierNames hnote hother hcontent
      (hunquoted content (by simp))
  refine ⟨member, hmember, note, hnote, id, hid, name, hname, content, hcontent, hnoteId,
    ⟨text, htext, ?_⟩, first, second, hfirst, hsecond, fun heq =>
      hproperty (hdifferent.mp heq).property⟩
  rw [hotherText, hsame.mpr ⟨⟨rfl, rfl, rfl, rfl, rfl⟩, rfl, rfl⟩]

end EntitySet

end PersistenceLayer
