import PersistenceLayer.Proofs.VocabularyLeaves

/-!
# Distinct members

An entity set keeps the names of attributes apart as they are declared, while
the members of generated sources are called by these names in other cases. So
members are distinct as long as no two names are told apart by the case of their
first letter alone. In client-facing data, where a relationship is replaced by
the key of its target, this has to hold of the names with that key added. In a
persisted class, members can also come out of names that are not plain.
-/

namespace PersistenceLayer

open Text (tokens isWord blocks tokens_of_isWord tokens_append_of_opens tokens_append_of_ends)

/-! ## Names in client-facing data -/

/-- The name by which an attribute is told apart in client-facing data: its own, and for a
relationship that of the target's first identifier behind it. -/
inductive EntitySet.FlatName (set : EntitySet) (attr : Attribute) : String → Prop where
  | own (hcolumn : ∀ target, attr.columnType ≠ some (.manyToOne target)) :
      FlatName set attr attr.name
  | key {target : Entity} {place : Nat} {identifier : Attribute}
      (hmem : target ∈ set.entities) (hcolumn : attr.columnType = some (.manyToOne target.name))
      (hfirst : IsFirstIdentifier target.attributes place identifier) :
      FlatName set attr (attr.name ++ Text.capitalized identifier.name)

/-- The name that the property of an attribute in client-facing data is the lower-case form of. -/
def MappedAttribute.flatName (mapped : MappedAttribute) : String :=
  match mapped.type with
  | .manyToOne target => mapped.name ++ Text.capitalized target.identifierName
  | _ => mapped.name

namespace MappedAttribute.HasIdentifierNames

variable {mapped : MappedAttribute} (h : mapped.HasIdentifierNames)

include h

theorem isIdentifier_flatName : Text.isIdentifier mapped.flatName = true := by
  rw [flatName]
  cases htype : mapped.type with
  | manyToOne target =>
    exact Text.isIdentifier_append h.name (Text.isWord_capitalized (h.identifierName target htype))
  | identifier | version | basic => exact h.name

theorem flat_name : mapped.flat.name = Text.decapitalized mapped.flatName := by
  rw [flat, flatName]
  cases mapped.type with
  | manyToOne target => exact (Text.decapitalized_append h.name _).symm
  | identifier | version | basic => rfl

end MappedAttribute.HasIdentifierNames

/-- There is one such name for each attribute that is mapped. -/
theorem EntitySet.MapsTo.flatName_iff {set : EntitySet} {owner : String} {attr : Attribute}
    {type : MappedType} (h : set.MapsTo owner attr type) {name : String} :
    set.FlatName attr name ↔ name = (MappedAttribute.mk attr type).flatName := by
  constructor
  · intro hname
    cases h with
    | identifier hcolumn | version hcolumn | basic hcolumn =>
      cases hname with
      | own _ => rfl
      | key _ hother _ =>
        rw [hcolumn] at hother
        cases hother
    | manyToOne hcolumn hresolved =>
      cases hname with
      | own hother => exact absurd hcolumn (hother _)
      | key hmem hother hfirst =>
        obtain ⟨found, hfound, hname, htarget⟩ := exists_entity_of_resolveTarget hresolved
        rw [hcolumn, Option.some.injEq, ColumnType.manyToOne.injEq] at hother
        obtain rfl := eq_of_name_eq hfound hmem (hname.trans hother)
        obtain ⟨_, _, _, hfirst', -, hidentifier⟩ := Entity.exists_isFirstIdentifier htarget
        rw [hfirst.eq hfirst', ← hidentifier]
        rfl
  · rintro rfl
    cases h with
    | identifier hcolumn | version hcolumn | basic hcolumn =>
      exact .own fun _ hother => nomatch hcolumn.symm.trans hother
    | @manyToOne _ target hcolumn hresolved =>
      obtain ⟨found, hfound, rfl, htarget⟩ := exists_entity_of_resolveTarget hresolved
      obtain ⟨_, _, _, hfirst, -, hidentifier⟩ := Entity.exists_isFirstIdentifier htarget
      change set.FlatName attr (attr.name ++ Text.capitalized target.identifierName)
      rw [hidentifier]
      exact .key hfound hcolumn hfirst

/-! ## Reading names -/

/-- The name of the property that a line overrides, if it does. -/
def overriddenName? (line : String) : Option String :=
  match tokens line with
  | "override" :: "var" :: name :: ":" :: _ => some name
  | _ => none

namespace SourceFile

/-- The names of the properties that a file overrides on the lines of its text behind the
prelude. -/
def overriddenNames (file : SourceFile) : List String :=
  file.bodyLines.filterMap overriddenName?

/-- The names of the cases that a file declares inside a sealed class, behind the prelude. -/
def caseNames? (file : SourceFile) (base : String) : Option (List String) :=
  ((blocks sealedHead? 0 file.bodyLines).lookup base).map fun lines =>
    (blocks caseHead? 4 lines).map fun block => block.1.1

variable (options : Options) {entity : Entity} {attrs : List MappedAttribute}
  (hentity : Text.isIdentifier entity.name = true)
  (hnames : ∀ mapped ∈ attrs, mapped.HasIdentifierNames)

include hentity hnames in
/-- A data holder overrides one property per attribute. -/
theorem overriddenNames_dataHolder :
    (Kind.dataHolder.sourceFile options entity attrs).overriddenNames =
      attrs.map fun mapped => mapped.flat.name := by
  have hopening : overriddenName? ("open class " ++ Naming.dataType entity.name ++ " : " ++
      Naming.contractType entity.name ++ " \x7b") = none := by
    simp only [String.append_assoc]
    rw [overriddenName?, tokens_append_of_ends (by decide)]
    rfl
  have hproperties : ((DataHolder.properties attrs).flatMap fun property =>
      [DataHolder.declarationLine options property, ""]).filterMap overriddenName? =
        (DataHolder.properties attrs).map FlatProperty.name := by
    refine filterMap_flatMap_eq_map fun property hproperty => ?_
    obtain ⟨mapped, hmapped, rfl⟩ := List.mem_map.mp hproperty
    have hline : overriddenName? (DataHolder.declarationLine options mapped.flat) =
        some mapped.flat.name := by
      have htokens : tokens (DataHolder.declarationLine options mapped.flat) = _ :=
        DataHolder.tokens_line options (hnames mapped hmapped).isWord_flat
          mapped.flat.scalar.isWord_kotlinName
      rw [overriddenName?, htokens]
      rfl
    rw [List.filterMap_cons_some hline]
    rfl
  rw [overriddenNames, bodyLines_of_ne_persisted options hentity hnames (by decide)]
  change (DataHolder.body options entity.name (DataHolder.properties attrs)).filterMap _ = _
  rw [DataHolder.body, List.filterMap_append, List.filterMap_append, hproperties,
    List.filterMap_cons_none hopening, DataHolder.properties, List.map_map]
  exact List.append_nil _

/-- The cases of a sealed class, of which each holds deeper lines. -/
theorem blocks_cases {α : Type} (items : List α) (caseName : α → String)
    (inner : α → List String) {base : String} (hbase : isWord base = true)
    (hnames : ∀ item ∈ items, isWord (caseName item) = true)
    (hinner : ∀ item ∈ items, ∀ line ∈ inner item, Text.isDeeper 4 line = true) :
    (blocks caseHead? 4 (items.flatMap fun item =>
      Vocabulary.caseLine (caseName item) base :: inner item ++ ["    \x7d"])).map
        (fun block => block.1.1) = items.map caseName := by
  have hopening : ∀ item ∈ items,
      Text.isDeeper 4 (Vocabulary.caseLine (caseName item) base) = false ∧
        caseHead? (tokens (Vocabulary.caseLine (caseName item) base)) =
          some (caseName item, base) := by
    intro item hitem
    rw [Vocabulary.tokens_caseLine (hnames item hitem) hbase]
    exact ⟨(Vocabulary.isDeeper_caseLine _ _).2, rfl⟩
  rw [Text.blocks_flatMap hopening hinner (by decide) (by decide), List.map_map]
  rfl

include hentity hnames

/-- The orders of a vocabulary have one case per attribute. -/
theorem caseNames?_orderType :
    (Kind.vocabulary.sourceFile options entity attrs).caseNames? (Naming.orderType entity.name) =
      some (attrs.map MappedAttribute.caseName) := by
  have hcases := blocks_cases attrs MappedAttribute.caseName
    (fun mapped => Direction.all.map (Vocabulary.directionLine mapped.caseName))
    (Naming.isWord_orderType hentity)
    (fun mapped hmapped => (hnames mapped hmapped).isWord_caseName)
    fun mapped _ => List.forall_mem_map.mpr fun direction _ =>
      Vocabulary.isDeeper_directionLine mapped.caseName direction
  rw [caseNames?, sealedClasses_vocabulary options hentity hnames, List.lookup_cons_self,
    Option.map_some, Vocabulary.orderCases, List.flatMap_map]
  exact congrArg some hcases

/-- The predicates of a vocabulary have one case per attribute. -/
theorem caseNames?_predicateType :
    (Kind.vocabulary.sourceFile options entity attrs).caseNames?
        (Naming.predicateType entity.name) = some (attrs.map MappedAttribute.caseName) := by
  have hcases := blocks_cases attrs MappedAttribute.caseName
    (fun mapped => mapped.operators.map mapped.predicateCase.leafLine)
    (Naming.isWord_predicateType hentity)
    (fun mapped hmapped => (hnames mapped hmapped).isWord_caseName)
    fun mapped _ => List.forall_mem_map.mpr fun operator _ =>
      mapped.predicateCase.isDeeper_leafLine operator
  have hlookup : (Naming.predicateType entity.name == Naming.orderType entity.name) = false :=
    beq_eq_false_iff_ne.mpr (Naming.predicateType_ne_orderType entity.name)
  rw [caseNames?, sealedClasses_vocabulary options hentity hnames, List.lookup_cons, hlookup,
    List.lookup_cons_self, Option.map_some, Vocabulary.predicateCases, List.flatMap_map]
  exact congrArg some hcases

end SourceFile

/-! ## Distinct names -/

/-- Whether no two attributes have names that differ in the case of the first letter only. -/
def Entity.HasSeparateNames (entity : Entity) : Prop :=
  entity.attributes.Pairwise fun attr other => ¬ Text.SameUpToInitial attr.name other.name

/-- Whether no two attributes have names in client-facing data that differ in the case of the first
letter only. -/
def EntitySet.HasSeparateFlatNames (set : EntitySet) (entity : Entity) : Prop :=
  entity.attributes.Pairwise fun attr other => ∀ first second,
    set.FlatName attr first → set.FlatName other second → ¬ Text.SameUpToInitial first second

/-- Whether the members of an entity's artifacts are distinct exactly if their names are kept apart;
in the persisted class, if the names that it puts between quotes are plain. -/
structure MembersSeparate (isLetter : Char → Bool) (set : EntitySet) (entity : Entity)
    (file : Kind → SourceFile) : Prop where
  persisted : entity.HasPlainNames isLetter →
    (((file .persisted).properties.map DeclaredProperty.name).Nodup ↔ entity.HasSeparateNames)
  metamodel : ((file .metamodel).handles.map DeclaredHandle.name).Nodup ↔ entity.HasSeparateNames
  orders : ∃ names, (file .vocabulary).caseNames? (Naming.orderType entity.name) = some names ∧
    (names.Nodup ↔ entity.HasSeparateNames)
  predicates : ∃ names,
    (file .vocabulary).caseNames? (Naming.predicateType entity.name) = some names ∧
      (names.Nodup ↔ entity.HasSeparateNames)
  contract : ((file .contract).properties.map DeclaredProperty.name).Nodup ↔
    set.HasSeparateFlatNames entity
  dataHolder : (file .dataHolder).overriddenNames.Nodup ↔ set.HasSeparateFlatNames entity

section Distinct

variable {set : EntitySet} {entity : Entity} {attrs : List MappedAttribute}

/-- Names are distinct if any two of them are. -/
theorem nodup_map_iff {name : MappedAttribute → String}
    {separate : MappedAttribute → MappedAttribute → Prop}
    (h : ∀ mapped ∈ attrs, ∀ other ∈ attrs, name mapped = name other ↔ ¬ separate mapped other) :
    (attrs.map name).Nodup ↔ attrs.Pairwise separate := by
  rw [List.Nodup, List.pairwise_map]
  refine List.Pairwise.iff_of_mem fun hmapped hother => ?_
  rw [ne_eq, h _ hmapped _ hother, not_not]

variable (hattrs : set.mapEntity entity = .ok attrs)

include hattrs

/-- What is said of any two attributes can be said of the mapped ones. -/
theorem EntitySet.hasSeparateNames_iff :
    entity.HasSeparateNames ↔
      attrs.Pairwise fun mapped other => ¬ Text.SameUpToInitial mapped.name other.name := by
  rw [Entity.HasSeparateNames, ← map_source_of_mapEntity hattrs, List.pairwise_map]
  rfl

/-- What is said of any two attributes can be said of the mapped ones. -/
theorem EntitySet.hasSeparateFlatNames_iff :
    set.HasSeparateFlatNames entity ↔
      attrs.Pairwise fun mapped other =>
        ¬ Text.SameUpToInitial mapped.flatName other.flatName := by
  have hflat : ∀ mapped ∈ attrs, ∀ name,
      set.FlatName mapped.source name ↔ name = mapped.flatName :=
    fun mapped hmapped name => (mapsTo_of_mem hattrs hmapped).2.flatName_iff
  rw [HasSeparateFlatNames, ← map_source_of_mapEntity hattrs, List.pairwise_map]
  refine List.Pairwise.iff_of_mem fun hmapped hother => ?_
  simp only [hflat _ hmapped, hflat _ hother]
  simp

end Distinct

namespace EntitySet

variable {set : EntitySet} {entity : Entity} {attrs : List MappedAttribute}

/-- The members that are generated from mapped attributes. -/
theorem membersSeparate_of_mapEntity (isLetter : Char → Bool) (hnames : set.HasIdentifierNames)
    (hentity : entity ∈ set.entities) (hattrs : set.mapEntity entity = .ok attrs)
    (options : Options) :
    MembersSeparate isLetter set entity fun kind => kind.sourceFile options entity attrs := by
  have hname := (hnames entity hentity).1
  have hmapped := hnames.mapped hentity hattrs
  have hproperties : (attrs.map MappedAttribute.property).Nodup ↔ entity.HasSeparateNames := by
    rw [hasSeparateNames_iff hattrs]
    refine nodup_map_iff fun mapped hmem other hother => ?_
    rw [not_not]
    exact Text.decapitalized_eq_iff (hmapped mapped hmem).name (hmapped other hother).name
  have hcases : (attrs.map MappedAttribute.caseName).Nodup ↔ entity.HasSeparateNames := by
    rw [hasSeparateNames_iff hattrs]
    refine nodup_map_iff fun mapped hmem other hother => ?_
    rw [not_not]
    exact Text.capitalized_eq_iff (hmapped mapped hmem).name (hmapped other hother).name
  have hflat : (attrs.map fun mapped => mapped.flat.name).Nodup ↔
      set.HasSeparateFlatNames entity := by
    rw [hasSeparateFlatNames_iff hattrs]
    refine nodup_map_iff fun mapped hmem other hother => ?_
    rw [not_not, (hmapped mapped hmem).flat_name, (hmapped other hother).flat_name]
    exact Text.decapitalized_eq_iff (hmapped mapped hmem).isIdentifier_flatName
      (hmapped other hother).isIdentifier_flatName
  constructor
  case persisted =>
    intro hplain
    rw [SourceFile.properties_persisted hname hmapped (hplain.quotesOnOneLine hattrs),
      List.map_map]
    exact hproperties
  case metamodel =>
    rw [SourceFile.handles_metamodel hname hmapped, List.map_map]
    exact hproperties
  case orders => exact ⟨_, SourceFile.caseNames?_orderType options hname hmapped, hcases⟩
  case predicates => exact ⟨_, SourceFile.caseNames?_predicateType options hname hmapped, hcases⟩
  case contract =>
    rw [SourceFile.properties_contract hname hmapped, List.map_map]
    exact hflat
  case dataHolder =>
    rw [SourceFile.overriddenNames_dataHolder options hname hmapped]
    exact hflat

end EntitySet

/-- A user with two names, which differ in the case of the first letter only. -/
def userOfTwoNames : EntitySet where
  entities :=
    [{ name := "user",
       attributes :=
        [{ name := "id", columnType := some (.identifier .long true) },
          { name := "name", columnType := some (.basic (.string none)) },
          { name := "Name", columnType := some (.basic (.string none)) }] }]
  names_nodup := by decide
  attributes_nodup := by decide

namespace EntitySet

/-- Each artifact of the user declares two members of the same name. -/
theorem not_nodup_userOfTwoNames {entity : Entity} (hentity : entity ∈ userOfTwoNames.entities) :
    ∃ file : Kind → SourceFile,
      (∀ kind, userOfTwoNames.emit {} entity kind = .ok (file kind)) ∧
        ¬ ((file .persisted).properties.map DeclaredProperty.name).Nodup ∧
        ¬ ((file .metamodel).handles.map DeclaredHandle.name).Nodup ∧
        (∀ base ∈ [Naming.orderType entity.name, Naming.predicateType entity.name],
          ∃ names, (file .vocabulary).caseNames? base = some names ∧ ¬ names.Nodup) ∧
        ¬ ((file .contract).properties.map DeclaredProperty.name).Nodup ∧
        ¬ (file .dataHolder).overriddenNames.Nodup := by
  have hvalid : userOfTwoNames.isValid = true := by decide
  obtain ⟨attrs, hattrs⟩ := exists_mapEntity_of_isValid hvalid hentity
  have hmembers := membersSeparate_of_mapEntity Char.isAlpha (hasIdentifierNames_of_isValid hvalid)
    hentity hattrs {}
  have hplain : entity.HasPlainNames Char.isAlpha := by
    obtain rfl := List.mem_singleton.mp hentity
    exact Entity.hasPlainNames_of_isOrdinary (by decide)
  have hsame : Text.SameUpToInitial "name" "Name" :=
    ⟨'n', 'N', ['a', 'm', 'e'], by decide, by decide, by decide⟩
  have hnames : ¬ entity.HasSeparateNames := by
    obtain rfl := List.mem_singleton.mp hentity
    intro h
    exact (List.pairwise_cons.mp (List.pairwise_cons.mp h).2).1 _ (List.mem_singleton.mpr rfl) hsame
  have hflatNames : ¬ userOfTwoNames.HasSeparateFlatNames entity := by
    obtain rfl := List.mem_singleton.mp hentity
    intro h
    exact (List.pairwise_cons.mp (List.pairwise_cons.mp h).2).1 _ (List.mem_singleton.mpr rfl) _ _
      (.own (by simp)) (.own (by simp)) hsame
  obtain ⟨orders, horders, hordersIff⟩ := hmembers.orders
  obtain ⟨predicates, hpredicates, hpredicatesIff⟩ := hmembers.predicates
  refine ⟨fun kind => kind.sourceFile {} entity attrs, fun kind => ?_,
    mt (hmembers.persisted hplain).mp hnames, mt hmembers.metamodel.mp hnames, ?_,
    mt hmembers.contract.mp hflatNames, mt hmembers.dataHolder.mp hflatNames⟩
  · rw [emit_eq, hattrs]
    rfl
  · intro base hbase
    obtain rfl | rfl : base = _ ∨ base = _ := by simpa using hbase
    · exact ⟨orders, horders, mt hordersIff.mp hnames⟩
    · exact ⟨predicates, hpredicates, mt hpredicatesIff.mp hnames⟩

end EntitySet

/-- A user whose column of names goes by a name that ends its literal and its line, and goes on with
a property of its own. -/
def userOfSecondId : EntitySet where
  entities :=
    [{ name := "user",
       attributes :=
        [{ name := "id", columnType := some (.identifier .long true) },
          { name := "name", columnType := some (.basic (.string none)),
            columnName := some ("name\")\n    open var id: Long? = null\n\n" ++
              "    @get:Column(name = \"name") }] }]
  names_nodup := by decide
  attributes_nodup := by decide

end PersistenceLayer
