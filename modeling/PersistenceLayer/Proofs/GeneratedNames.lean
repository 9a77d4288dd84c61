import PersistenceLayer.Proofs.DeclaredTypes
import PersistenceLayer.Proofs.DistinctMembers
import PersistenceLayer.Proofs.GeneratedFunctions
import PersistenceLayer.Proofs.ImportedTypes
import PersistenceLayer.Proofs.PathComponents

/-!
# Names that stay identifiers

Validation asks for identifiers, and every name that sources form from them is an
identifier again: cased identifiers are identifiers, and what is added in front or
behind fits in. As a path such a name is one component. The names are read off the
emitted files here, so that none is left out.
-/

namespace PersistenceLayer

/-! ## Capitalized names with affixes -/

namespace Text

section

variable {name : String} (h : isIdentifier name = true)

include h

/-- The capitalized form of an identifier can go on with any word. -/
theorem isIdentifier_capitalized_append {back : String} (hback : isWord back = true) :
    isIdentifier (capitalized name ++ back) = true :=
  isIdentifier_append (isIdentifier_cased h).2 hback

/-- The capitalized form of an identifier can stand behind another identifier. -/
theorem isIdentifier_append_capitalized {front : String} (hfront : isIdentifier front = true) :
    isIdentifier (front ++ capitalized name) = true :=
  isIdentifier_append hfront (isWord_capitalized h)

end

end Text

/-! ## Plain names -/

/-- Whether a name is an identifier, and as a path one component without a separator or a dot. -/
structure IsPlainName (name : String) : Prop where
  isIdentifier : Text.isIdentifier name = true
  isFree : ∀ sign ∈ ['/', '\\', '.'], sign ∉ name.toList
  components : (Path.mk name).components = [.normal name]

theorem IsPlainName.of_isIdentifier {name : String} (h : Text.isIdentifier name = true) :
    IsPlainName name := by
  obtain ⟨hne, hparts⟩ := Text.isWord_iff.mp (Text.isWord_of_isIdentifier h)
  have hfree : ∀ sign ∈ ['/', '\\', '.'], sign ∉ name.toList := by
    intro sign hsign hmem
    simp only [List.mem_cons, List.not_mem_nil, or_false] at hsign
    rcases hsign with rfl | rfl | rfl <;> exact absurd (hparts _ hmem) (by decide)
  exact ⟨h, hfree, Path.components_of_segment (hfree '.' (by decide)) (hfree '/' (by decide))
    (by simpa using hne)⟩

/-! ## Formed names -/

/-- The names that sources form from an entity and its attributes. -/
inductive EntitySet.FormsName (set : EntitySet) (entity : Entity) : String → Prop where
  /-- The stem of a file. -/
  | stem (kind : Kind) : FormsName set entity (kind.stem entity.name)
  /-- A type. -/
  | type {name : String} (hname : name ∈ Naming.generatedTypes entity.name) :
      FormsName set entity name
  /-- The function of a query. -/
  | query {verb : String} (hverb : verb ∈ ["count", "list"]) :
      FormsName set entity (verb ++ Text.capitalized entity.name)
  /-- The case of an order or a predicate. -/
  | caseName {attr : Attribute} (hattr : attr ∈ entity.attributes) :
      FormsName set entity (Naming.caseName attr.name)
  /-- A property or a handle. -/
  | property {attr : Attribute} (hattr : attr ∈ entity.attributes) :
      FormsName set entity (Naming.property attr.name)
  /-- The property that holds the key of a relationship's target. -/
  | foreignKey {attr identifier : Attribute} {target : Entity} {place : Nat}
      (hattr : attr ∈ entity.attributes) (htarget : target ∈ set.entities)
      (hcolumn : attr.columnType = some (.manyToOne target.name))
      (hfirst : IsFirstIdentifier target.attributes place identifier) :
      FormsName set entity (Naming.foreignKey attr.name identifier.name)

namespace Naming

variable {name : String} (h : Text.isIdentifier name = true)

include h

theorem isIdentifier_of_mem_generatedTypes {type : String} (htype : type ∈ generatedTypes name) :
    Text.isIdentifier type = true := by
  simp only [generatedTypes, List.mem_cons, List.not_mem_nil, or_false] at htype
  rcases htype with rfl | rfl | rfl | rfl | rfl | rfl
  · exact Text.isIdentifier_append_capitalized h (by decide)
  · exact Text.isIdentifier_capitalized_append h (by decide)
  · exact Text.isIdentifier_append (Text.isIdentifier_capitalized_append h (by decide)) (by decide)
  · exact Text.isIdentifier_capitalized_append h (by decide)
  · exact Text.isIdentifier_capitalized_append h (by decide)
  · exact Text.isIdentifier_capitalized_append h (by decide)

theorem isIdentifier_stem (kind : Kind) : Text.isIdentifier (kind.stem name) = true := by
  have htypes {type : String} (htype : type ∈ generatedTypes name) :=
    isIdentifier_of_mem_generatedTypes h htype
  cases kind with
  | contract | dataHolder | metamodel | persisted =>
    exact htypes (by simp [generatedTypes, Kind.stem])
  | vocabulary | extension => exact Text.isIdentifier_capitalized_append h (by decide)

end Naming

namespace EntitySet

variable {set : EntitySet} {entity : Entity} {attrs : List MappedAttribute}

/-- Names that are formed from identifiers are identifiers. -/
theorem FormsName.isIdentifier (hnames : set.HasIdentifierNames) (hentity : entity ∈ set.entities)
    {name : String} (h : set.FormsName entity name) : Text.isIdentifier name = true := by
  obtain ⟨hname, hattrs⟩ := hnames entity hentity
  cases h with
  | stem kind => exact Naming.isIdentifier_stem hname kind
  | type htype => exact Naming.isIdentifier_of_mem_generatedTypes hname htype
  | @query verb hverb =>
    have hverbs : ∀ verb ∈ ["count", "list"], Text.isIdentifier verb = true := by decide
    exact Text.isIdentifier_append_capitalized hname (hverbs verb hverb)
  | caseName hattr => exact (Text.isIdentifier_cased (hattrs _ hattr)).2
  | property hattr => exact (Text.isIdentifier_cased (hattrs _ hattr)).1
  | foreignKey hattr htarget _ hfirst =>
    have hidentifier := (hnames _ htarget).2 _ (List.mem_of_getElem? hfirst.place_eq)
    exact Text.isIdentifier_append_capitalized hidentifier
      (Text.isIdentifier_cased (hattrs _ hattr)).1

end EntitySet

/-! ## Names in sources -/

/-- The names of the functions by which a file extends a type. -/
def SourceFile.functionNames (file : SourceFile) (receiver : String) : List String :=
  (file.functions.filter fun function => function.1.receiver == receiver).map
    fun function => function.1.name

/-- The names that a file of the given kind declares on the lines of its text behind the prelude: of
types, and of the properties, handles, cases or queries that come with them. -/
def Kind.declaredNames (kind : Kind) (entity : Entity) (file : SourceFile) : List String :=
  file.declaredTypes ++
    match kind with
    | contract | persisted => file.properties.map DeclaredProperty.name
    | dataHolder => file.overriddenNames
    | metamodel => file.handles.map DeclaredHandle.name
    | vocabulary =>
      (file.caseNames? (Naming.orderType entity.name)).getD [] ++
        (file.caseNames? (Naming.predicateType entity.name)).getD []
    | extension => file.functionNames "EntityManager"

/-- The names of the properties, handles, cases or queries that a file of the given kind comes
with. -/
def Kind.memberNames (kind : Kind) (entity : Entity) (attrs : List MappedAttribute) :
    List String :=
  match kind with
  | contract | dataHolder => attrs.map fun mapped => mapped.flat.name
  | metamodel | persisted => attrs.map MappedAttribute.property
  | vocabulary => attrs.map MappedAttribute.caseName ++ attrs.map MappedAttribute.caseName
  | extension => ["count" ++ Text.capitalized entity.name, "list" ++ Text.capitalized entity.name]

section

variable (options : Options) {entity : Entity} {attrs : List MappedAttribute}
  (hentity : Text.isIdentifier entity.name = true)
  (hnames : ∀ mapped ∈ attrs, mapped.HasIdentifierNames)

include hentity hnames

/-- The functions that extend an entity manager are the queries. -/
theorem SourceFile.functionNames_extension :
    (Kind.extension.sourceFile options entity attrs).functionNames "EntityManager" =
      ["count" ++ Text.capitalized entity.name, "list" ++ Text.capitalized entity.name] := by
  have horder : Naming.orderType entity.name ≠ "EntityManager" :=
    Text.append_ne_of_not_suffix (by decide)
  have hpredicate : Naming.predicateType entity.name ≠ "EntityManager" :=
    Text.append_ne_of_not_suffix (by decide)
  have hpersisted : Naming.entityType entity.name ≠ "EntityManager" :=
    Text.append_ne_of_not_suffix (by decide)
  have hcontract : Naming.contractType entity.name ≠ "EntityManager" := by
    intro heq
    have hhead := congrArg (fun name => name.toList.head?) heq
    simp [Naming.contractType] at hhead
  obtain ⟨_, _, _, _, _, _, hfunctions⟩ := functions_extension options hentity hnames
  simp [functionNames, hfunctions, horder, hpredicate, hpersisted, hcontract]

/-- A file declares the types of its kind and what comes with them. -/
theorem Kind.declaredNames_sourceFile (kind : Kind)
    (hquotes : kind = .persisted → entity.QuotesOnOneLine attrs) :
    kind.declaredNames entity (kind.sourceFile options entity attrs) =
      kind.declaredTypes entity.name ++ kind.memberNames entity attrs := by
  unfold declaredNames
  rw [SourceFile.declaredTypes_sourceFile options hentity hnames hquotes]
  refine congrArg _ ?_
  cases kind with
  | contract =>
    dsimp only
    rw [SourceFile.properties_contract hentity hnames, List.map_map]
    rfl
  | dataHolder => exact SourceFile.overriddenNames_dataHolder options hentity hnames
  | metamodel =>
    dsimp only
    rw [SourceFile.handles_metamodel hentity hnames, List.map_map]
    rfl
  | persisted =>
    dsimp only
    rw [SourceFile.properties_persisted hentity hnames (hquotes rfl), List.map_map]
    rfl
  | vocabulary =>
    dsimp only
    rw [SourceFile.caseNames?_orderType options hentity hnames,
      SourceFile.caseNames?_predicateType options hentity hnames]
    rfl
  | extension => exact SourceFile.functionNames_extension options hentity hnames

end

namespace EntitySet

variable {set : EntitySet} {entity : Entity} {attrs : List MappedAttribute}

section

variable (hnames : set.HasIdentifierNames) (hentity : entity ∈ set.entities)
  (hattrs : set.mapEntity entity = .ok attrs)

include hnames hentity hattrs

/-- A property of client-facing data is a property or the key of a relationship's target. -/
theorem formsName_flat {mapped : MappedAttribute} (hmapped : mapped ∈ attrs) :
    set.FormsName entity mapped.flat.name := by
  obtain ⟨hattr, hmapsTo⟩ := mapsTo_of_mem hattrs hmapped
  have h := hnames.mapped hentity hattrs mapped hmapped
  have hflat : set.FlatName mapped.source mapped.flatName := hmapsTo.flatName_iff.mpr rfl
  rw [h.flat_name]
  generalize mapped.flatName = flatName at hflat
  cases hflat with
  | own => exact .property hattr
  | key htarget hcolumn hfirst =>
    have hkey := Text.decapitalized_append h.name
    dsimp only [MappedAttribute.name] at hkey
    rw [hkey]
    exact .foreignKey hattr htarget hcolumn hfirst

/-- What comes with the types of a file is called by names that are formed from those of the entity
and its attributes. -/
theorem formsName_memberNames {kind : Kind} {name : String}
    (h : name ∈ kind.memberNames entity attrs) : set.FormsName entity name := by
  have hcaseName : ∀ name ∈ attrs.map MappedAttribute.caseName, set.FormsName entity name :=
    List.forall_mem_map.mpr fun mapped hmapped => .caseName (mapsTo_of_mem hattrs hmapped).1
  cases kind with
  | contract | dataHolder =>
    obtain ⟨mapped, hmapped, rfl⟩ := List.mem_map.mp h
    exact formsName_flat hnames hentity hattrs hmapped
  | metamodel | persisted =>
    obtain ⟨mapped, hmapped, rfl⟩ := List.mem_map.mp h
    exact .property (mapsTo_of_mem hattrs hmapped).1
  | vocabulary => exact (List.mem_append.mp h).elim (hcaseName name) (hcaseName name)
  | extension =>
    obtain ⟨verb, hverb, rfl⟩ : ∃ verb ∈ ["count", "list"],
        verb ++ Text.capitalized entity.name = name := by
      simpa [Kind.memberNames, eq_comm] using h
    exact .query hverb

/-- The key of a relationship's target is a property of client-facing data. -/
theorem exists_flat_of_foreignKey {attr identifier : Attribute} {target : Entity} {place : Nat}
    (hattr : attr ∈ entity.attributes) (htarget : target ∈ set.entities)
    (hcolumn : attr.columnType = some (.manyToOne target.name))
    (hfirst : IsFirstIdentifier target.attributes place identifier) :
    ∃ mapped ∈ attrs, mapped.flat.name = Naming.foreignKey attr.name identifier.name := by
  obtain ⟨type, hmapped, hmapsTo⟩ := exists_mapped_of_mem hattrs hattr
  have h := hnames.mapped hentity hattrs _ hmapped
  refine ⟨_, hmapped, ?_⟩
  rw [h.flat_name, ← hmapsTo.flatName_iff.mp (.key htarget hcolumn hfirst)]
  exact Text.decapitalized_append h.name _

/-- The names that sources form are the stems of the files and the names that these declare, in a
persisted class if it quotes plain names. -/
theorem formsName_iff (isLetter : Char → Bool) (options : Options) {name : String} :
    set.FormsName entity name ↔ (∃ kind : Kind, kind.stem entity.name = name) ∨
      ∃ kind : Kind, (kind = .persisted → entity.HasPlainNames isLetter) ∧
        name ∈ kind.declaredNames entity (kind.sourceFile options entity attrs) := by
  have hdeclared (kind : Kind) (hplain : kind = .persisted → entity.HasPlainNames isLetter) :
      kind.declaredNames entity (kind.sourceFile options entity attrs) =
        kind.declaredTypes entity.name ++ kind.memberNames entity attrs :=
    kind.declaredNames_sourceFile options (hnames entity hentity).1
      (hnames.mapped hentity hattrs) fun hkind => (hplain hkind).quotesOnOneLine hattrs
  constructor
  · have hmember (kind : Kind) (hkind : kind ≠ .persisted)
        (hmem : name ∈ kind.memberNames entity attrs) : ∃ kind : Kind,
          (kind = .persisted → entity.HasPlainNames isLetter) ∧
            name ∈ kind.declaredNames entity (kind.sourceFile options entity attrs) :=
      ⟨kind, fun heq => absurd heq hkind,
        hdeclared kind (fun heq => absurd heq hkind) ▸ List.mem_append_right _ hmem⟩
    intro h
    cases h with
    | stem kind => exact .inl ⟨kind, rfl⟩
    | type htype =>
      obtain ⟨kind, -, htype⟩ := Naming.mem_generatedTypes_iff.mp htype
      by_cases hkind : kind = .persisted
      · subst hkind
        exact .inl ⟨.persisted, (List.mem_singleton.mp htype).symm⟩
      · exact .inr ⟨kind, fun heq => absurd heq hkind,
          hdeclared kind (fun heq => absurd heq hkind) ▸ List.mem_append_left _ htype⟩
    | @query verb hverb =>
      refine .inr (hmember .extension (by decide) ?_)
      have hmem : verb ++ Text.capitalized entity.name ∈
          ["count", "list"].map (· ++ Text.capitalized entity.name) := List.mem_map_of_mem hverb
      exact hmem
    | foreignKey hattr htarget hcolumn hfirst =>
      obtain ⟨mapped, hmapped, hflat⟩ :=
        exists_flat_of_foreignKey hnames hentity hattrs hattr htarget hcolumn hfirst
      exact .inr (hmember .contract (by decide) (List.mem_map.mpr ⟨mapped, hmapped, hflat⟩))
    | property hattr =>
      obtain ⟨type, hmapped, -⟩ := exists_mapped_of_mem hattrs hattr
      exact .inr (hmember .metamodel (by decide) (List.mem_map.mpr ⟨_, hmapped, rfl⟩))
    | caseName hattr =>
      obtain ⟨type, hmapped, -⟩ := exists_mapped_of_mem hattrs hattr
      exact .inr (hmember .vocabulary (by decide)
        (List.mem_append_left _ (List.mem_map.mpr ⟨_, hmapped, rfl⟩)))
  · rintro (⟨kind, rfl⟩ | ⟨kind, hplain, hmem⟩)
    · exact .stem kind
    · rw [hdeclared kind hplain, List.mem_append] at hmem
      rcases hmem with htype | hmem
      · exact .type (Naming.mem_generatedTypes_iff.mpr ⟨kind, by cases kind <;> decide, htype⟩)
      · exact formsName_memberNames hnames hentity hattrs hmem

end

/-- Every name that sources form from the names of a valid set is an identifier, and as a path one
component. These are all the names that the emitted files declare, with the stems of the files; a
persisted class may declare others if it puts names between quotes that are not plain. -/
theorem formed_names_stay_plain (isLetter : Char → Bool) (hvalid : set.isValid = true)
    (hentity : entity ∈ set.entities) (options : Options) :
    (∀ name, set.FormsName entity name → IsPlainName name) ∧
      ∃ file : Kind → SourceFile, (∀ kind, set.emit options entity kind = .ok (file kind)) ∧
        ∀ name, set.FormsName entity name ↔ (∃ kind : Kind, kind.stem entity.name = name) ∨
          ∃ kind : Kind, (kind = .persisted → entity.HasPlainNames isLetter) ∧
            name ∈ kind.declaredNames entity (file kind) := by
  have hnames := hasIdentifierNames_of_isValid hvalid
  obtain ⟨attrs, hattrs⟩ := exists_mapEntity_of_isValid hvalid hentity
  exact ⟨fun name hname => .of_isIdentifier (hname.isIdentifier hnames hentity), _,
    fun kind => emit_of_mapEntity hattrs options kind,
    fun name => formsName_iff hnames hentity hattrs isLetter options⟩

/-- Teams and their members are called by identifiers, and all of their files declare such names. -/
theorem formed_names_stay_plain_teamAndMember :
    teamAndMember.isValid = true ∧ ∀ entity ∈ teamAndMember.entities,
      (∀ name, teamAndMember.FormsName entity name → IsPlainName name) ∧
        ∃ file : Kind → SourceFile,
          (∀ kind, teamAndMember.emit {} entity kind = .ok (file kind)) ∧
          ∀ name, teamAndMember.FormsName entity name ↔
            (∃ kind : Kind, kind.stem entity.name = name) ∨
              ∃ kind : Kind, name ∈ kind.declaredNames entity (file kind) := by
  have hvalid : teamAndMember.isValid = true := by decide
  refine ⟨hvalid, fun entity hentity => ?_⟩
  have hplain := teamAndMember.hasPlainNames Char.isAlpha entity hentity
  obtain ⟨hforms, file, hemit, hiff⟩ := formed_names_stay_plain Char.isAlpha hvalid hentity {}
  refine ⟨hforms, file, hemit, fun name => ?_⟩
  rw [hiff]
  simp only [hplain, implies_true, true_and]

end EntitySet

end PersistenceLayer
