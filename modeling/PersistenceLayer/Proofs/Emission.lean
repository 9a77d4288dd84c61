import PersistenceLayer.Artifact.Rendering
import Mathlib.Data.List.Forall2
import Mathlib.Data.List.Sort

/-!
# Emission and mapped attributes

The walks that write an artifact look everything up on their own. Whatever one of
them looks up at an attribute that can be mapped is found, and says the same as
the mapped attribute. The walk for the imports of types looks up no less than the
mapping does and comes first, so an artifact is emitted exactly if all attributes
can be mapped, and then it is the file that they describe.
-/

namespace PersistenceLayer

/-! ## Walks that may fail -/

section Walks

variable {ε α β γ : Type} {read : α → Except ε β} {items : List α}

/-- A result that is checked to be a success is one. -/
theorem exists_eq_ok_of_isOk {result : Except ε α} (h : result.isOk = true) :
    ∃ value, result = .ok value := by
  cases result with
  | ok value => exact ⟨value, rfl⟩
  | error cause => cases h

/-- A walk succeeds with what it finds at each item. -/
theorem mapM_eq_ok_iff {results : List β} :
    items.mapM read = .ok results ↔
      List.Forall₂ (fun item result => read item = .ok result) items results := by
  induction items generalizing results with
  | nil => cases results <;> simp [pure, Except.pure]
  | cons item items ih =>
    rw [List.mapM_cons]
    cases hitem : read item with
    | error cause => cases results <;> simp [hitem, bind, Except.bind]
    | ok result =>
      cases hitems : items.mapM read with
      | error cause => cases results <;> simp [hitem, ← ih, hitems, bind, Except.bind]
      | ok rest =>
        cases results <;> simp [hitem, ← ih, hitems, bind, Except.bind, pure, Except.pure]

/-- Walks that find the same at each item are the same. -/
theorem mapM_congr {other : α → Except ε β} (h : ∀ item ∈ items, read item = other item) :
    items.mapM read = items.mapM other := by
  induction items with
  | nil => rfl
  | cons item items ih =>
    rw [List.mapM_cons, List.mapM_cons, h item List.mem_cons_self,
      ih fun next hnext => h next (List.mem_cons_of_mem _ hnext)]

/-- A walk fails as its first item does. -/
theorem mapM_cons_of_error {item : α} {cause : ε} (h : read item = .error cause) :
    (item :: items).mapM read = .error cause := by
  rw [List.mapM_cons, h]
  rfl

/-- A walk that gets past its first item fails as the walk along the others does. -/
theorem mapM_cons_eq_error_iff {item : α} {result : β} {cause : ε} (h : read item = .ok result) :
    (item :: items).mapM read = .error cause ↔ items.mapM read = .error cause := by
  rw [List.mapM_cons, h]
  cases items.mapM read <;> simp [bind, Except.bind, pure, Except.pure]

/-- A walk fails at the first item where nothing is found. -/
theorem mapM_eq_error_iff {cause : ε} :
    items.mapM read = .error cause ↔
      ∃ before item after, items = before ++ item :: after ∧
        (∀ earlier ∈ before, ∃ result, read earlier = .ok result) ∧ read item = .error cause := by
  induction items with
  | nil => simp [pure, Except.pure]
  | cons item items ih =>
    cases hitem : read item with
    | error found =>
      rw [mapM_cons_of_error hitem, Except.error.injEq]
      constructor
      · rintro rfl
        exact ⟨[], item, items, rfl, by simp, hitem⟩
      · rintro ⟨_ | ⟨first, before⟩, other, after, hsplit, hbefore, hother⟩
        · obtain ⟨rfl, rfl⟩ := List.cons.inj hsplit
          exact Except.error.inj (hitem.symm.trans hother)
        · obtain ⟨rfl, -⟩ := List.cons.inj hsplit
          obtain ⟨result, hresult⟩ := hbefore item List.mem_cons_self
          cases hitem.symm.trans hresult
    | ok result =>
      rw [mapM_cons_eq_error_iff hitem, ih]
      constructor
      · rintro ⟨before, other, after, rfl, hbefore, hother⟩
        refine ⟨item :: before, other, after, rfl, ?_, hother⟩
        exact List.forall_mem_cons.mpr ⟨⟨result, hitem⟩, hbefore⟩
      · rintro ⟨_ | ⟨first, before⟩, other, after, hsplit, hbefore, hother⟩
        · obtain ⟨rfl, -⟩ := List.cons.inj hsplit
          cases hitem.symm.trans hother
        · obtain ⟨rfl, rfl⟩ := List.cons.inj hsplit
          exact ⟨before, other, after, rfl, (List.forall_mem_cons.mp hbefore).2, hother⟩

/-- A walk succeeds if something is found at each item. -/
theorem exists_mapM_eq_ok_iff :
    (∃ results, items.mapM read = .ok results) ↔
      ∀ item ∈ items, ∃ result, read item = .ok result := by
  constructor
  · rintro ⟨results, h⟩ item hitem
    obtain ⟨i, hi, rfl⟩ := List.getElem_of_mem hitem
    have hread := mapM_eq_ok_iff.mp h
    exact ⟨_, hread.get hi (hread.length_eq ▸ hi)⟩
  · intro h
    cases hread : items.mapM read with
    | ok results => exact ⟨results, rfl⟩
    | error cause =>
      obtain ⟨before, item, after, rfl, -, hitem⟩ := mapM_eq_error_iff.mp hread
      obtain ⟨result, hresult⟩ := h item (by simp)
      cases hresult.symm.trans hitem

/-- A walk over related items finds related results if it does so at each item. -/
theorem exists_mapM_of_forall₂ {Q : α → α → Prop} {R : β → β → Prop} {other : α → Except ε β}
    {others : List α} {results : List β}
    (hother : ∀ item twin result, Q item twin → read item = .ok result →
      ∃ found, other twin = .ok found ∧ R result found)
    (hitems : List.Forall₂ Q items others) (h : items.mapM read = .ok results) :
    ∃ found, others.mapM other = .ok found ∧ List.Forall₂ R results found := by
  have hresults := mapM_eq_ok_iff.mp h
  simp only [mapM_eq_ok_iff]
  induction hitems generalizing results with
  | nil =>
    cases hresults
    exact ⟨[], .nil, .nil⟩
  | @cons item twin items others hQ _ ih =>
    obtain - | @⟨_, result, _, results, hresult, hresults⟩ := hresults
    obtain ⟨first, hfirst, hrelated⟩ := hother item twin result hQ hresult
    obtain ⟨rest, hrest, hrests⟩ := ih (mapM_eq_ok_iff.mpr hresults) hresults
    exact ⟨first :: rest, .cons hfirst hrest, .cons hrelated hrests⟩

/-- A walk that fails where another one fails, and nowhere else, fails as that does. -/
theorem mapM_map_eq_error {f : β → γ} {cause : ε} (h : items.mapM read = .error cause) :
    items.mapM (fun item => (read item).map f) = .error cause := by
  obtain ⟨before, item, after, hsplit, hbefore, hitem⟩ := mapM_eq_error_iff.mp h
  refine mapM_eq_error_iff.mpr ⟨before, item, after, hsplit, fun earlier hmem => ?_, ?_⟩
  · obtain ⟨result, hresult⟩ := hbefore earlier hmem
    exact ⟨f result, by rw [hresult]; rfl⟩
  · rw [hitem]
    rfl

end Walks

/-! ## Mapping as a walk -/

namespace EntitySet

variable {set : EntitySet} {owner : String} {attr : Attribute} {mapped : MappedAttribute}

/-- The attributes of an entity are mapped one after the other. -/
theorem mapEntity_eq_mapM (set : EntitySet) (entity : Entity) :
    set.mapEntity entity = entity.attributes.mapM (set.mapAttribute entity.name) := by
  rw [mapEntity]
  generalize entity.attributes = attributes
  induction attributes with
  | nil => rfl
  | cons attr attributes ih =>
    rw [mapAttributes, List.mapM_cons, ← ih]
    cases set.mapAttribute entity.name attr with
    | error cause => rfl
    | ok mapped =>
      rcases set.mapAttributes entity.name attributes with ⟨others, _ | cause⟩ <;> rfl

/-- An entity is mapped if each of its attributes is. -/
theorem mapEntity_eq_ok_iff {entity : Entity} {attrs : List MappedAttribute} :
    set.mapEntity entity = .ok attrs ↔
      List.Forall₂ (fun attr mapped => set.mapAttribute entity.name attr = .ok mapped)
        entity.attributes attrs := by
  rw [mapEntity_eq_mapM, mapM_eq_ok_iff]

/-- The types that an attribute of the given owner can be mapped to. -/
inductive MapsTo (set : EntitySet) (owner : String) (attr : Attribute) : MappedType → Prop where
  | identifier {kind : IdKind} {generated : Bool}
      (hcolumn : attr.columnType = some (.identifier kind generated)) :
      MapsTo set owner attr (.identifier kind generated)
  | version {kind : VersionKind} (hcolumn : attr.columnType = some (.version kind)) :
      MapsTo set owner attr (.version kind)
  | basic {type : BasicType} (hcolumn : attr.columnType = some (.basic type)) :
      MapsTo set owner attr (.basic type)
  | manyToOne {name : String} {target : Target}
      (hcolumn : attr.columnType = some (.manyToOne name))
      (htarget : set.resolveTarget owner attr.name name = .ok target) :
      MapsTo set owner attr (.manyToOne target)

/-- A mapped attribute is the attribute with a type that it maps to. -/
theorem mapAttribute_eq_ok_iff :
    set.mapAttribute owner attr = .ok mapped ↔
      ∃ type, mapped = ⟨attr, type⟩ ∧ set.MapsTo owner attr type := by
  constructor
  · intro h
    unfold mapAttribute at h
    cases hcolumn : attr.columnType with
    | none => simp [hcolumn] at h
    | some type =>
      rw [hcolumn] at h
      cases type with
      | identifier => exact ⟨_, (Except.ok.inj h).symm, .identifier hcolumn⟩
      | version => exact ⟨_, (Except.ok.inj h).symm, .version hcolumn⟩
      | basic => exact ⟨_, (Except.ok.inj h).symm, .basic hcolumn⟩
      | manyToOne name =>
        dsimp only at h
        cases htarget : set.resolveTarget owner attr.name name with
        | error cause =>
          rw [htarget] at h
          cases h
        | ok target =>
          rw [htarget] at h
          exact ⟨_, (Except.ok.inj h).symm, .manyToOne hcolumn htarget⟩
  · rintro ⟨type, rfl, htype⟩
    cases htype with
    | identifier hcolumn | version hcolumn | basic hcolumn => simp [mapAttribute, hcolumn]
    | manyToOne hcolumn htarget =>
      simp [mapAttribute, hcolumn, htarget, bind, Except.bind, pure, Except.pure]

/-- The attributes that are mapped are those of the entity. -/
theorem map_source_of_mapEntity {entity : Entity} {attrs : List MappedAttribute}
    (h : set.mapEntity entity = .ok attrs) :
    attrs.map MappedAttribute.source = entity.attributes := by
  refine (List.forall₂_eq_eq_eq ▸ List.forall₂_map_right_iff.mpr
    ((mapEntity_eq_ok_iff.mp h).imp ?_) :
    entity.attributes = attrs.map MappedAttribute.source).symm
  intro attr mapped hmapped
  obtain ⟨type, rfl, -⟩ := mapAttribute_eq_ok_iff.mp hmapped
  rfl

/-- The target of a relationship is made by the entity that it names. -/
theorem findTarget_of_resolveTarget {attrName name : String} {target : Target}
    (h : set.resolveTarget owner attrName name = .ok target) :
    ∃ found, set.findTarget owner attrName name = .ok found ∧ found.target? = some target := by
  unfold resolveTarget at h
  cases hfound : set.findTarget owner attrName name with
  | error cause =>
    rw [hfound] at h
    cases h
  | ok found =>
    simp only [hfound, bind, Except.bind] at h
    cases htarget : found.target? with
    | none =>
      rw [htarget] at h
      cases h
    | some resolved =>
      rw [htarget] at h
      obtain rfl : resolved = target := Except.ok.inj h
      exact ⟨found, rfl, htarget⟩

end EntitySet

/-- The target that an entity makes carries its name. -/
theorem Entity.entityName_of_target? {entity : Entity} {target : Target}
    (h : entity.target? = some target) : target.entityName = entity.name := by
  obtain ⟨⟨identifier, kind⟩, -, rfl⟩ := Option.map_eq_some_iff.mp h
  rfl

/-! ## Look-ups at a mapped attribute -/

namespace Emission

variable {set : EntitySet} {entity : Entity} {attr : Attribute} {type : MappedType}
  {attrs : List MappedAttribute}

/-- The imports of types are looked up where an attribute is mapped, and fail where that fails. -/
theorem typeImports_eq_map (set : EntitySet) (entity : Entity) (attr : Attribute) :
    typeImports set entity attr =
      (set.mapAttribute entity.name attr).map
        (MappedAttribute.typeImports entity.packageName) := by
  unfold typeImports Attribute.declaredType EntitySet.mapAttribute
  cases attr.columnType with
  | none => rfl
  | some type =>
    cases type with
    | identifier | version | basic =>
      simp [MappedAttribute.typeImports, MappedAttribute.target?, MappedType.scalar,
        ColumnType.scalar?, Except.map, bind, Except.bind, pure, Except.pure]
    | manyToOne name =>
      simp only [bind, Except.bind]
      cases set.resolveTarget entity.name attr.name name with
      | error cause => rfl
      | ok target => rfl

/-- A column type that an attribute has is declared. -/
theorem declaredType_eq_ok {columnType : ColumnType} (owner : String)
    (hcolumn : attr.columnType = some columnType) : attr.declaredType owner = .ok columnType := by
  rw [Attribute.declaredType, hcolumn]

/-- The walk for imports of metamodels finds those of the mapped attribute. -/
theorem metamodelImports_eq_ok (h : set.MapsTo entity.name attr type) :
    metamodelImports set entity attr =
      .ok (MappedAttribute.metamodelImports entity.packageName ⟨attr, type⟩) := by
  cases h with
  | identifier hcolumn | version hcolumn | basic hcolumn =>
    rw [metamodelImports, declaredType_eq_ok _ hcolumn]
    rfl
  | manyToOne hcolumn htarget =>
    simp only [metamodelImports, declaredType_eq_ok _ hcolumn, bind, Except.bind, htarget]
    rfl

/-- The walk for client-facing properties finds that of the mapped attribute. -/
theorem flatProperty_eq_ok (h : set.MapsTo entity.name attr type) :
    flatProperty set entity attr = .ok (MappedAttribute.flat ⟨attr, type⟩) := by
  cases h with
  | identifier hcolumn | version hcolumn | basic hcolumn =>
    rw [flatProperty, declaredType_eq_ok _ hcolumn]
    rfl
  | manyToOne hcolumn htarget =>
    simp only [flatProperty, declaredType_eq_ok _ hcolumn, bind, Except.bind, htarget]
    rfl

/-- The walk for properties of a contract finds that of the mapped attribute. -/
theorem contractProperty_eq_ok (options : Options) (h : set.MapsTo entity.name attr type) :
    contractProperty set entity options attr =
      .ok (MappedAttribute.contractProperty options ⟨attr, type⟩) := by
  rw [contractProperty, flatProperty_eq_ok h]
  rfl

/-- The walk for handles finds that of the mapped attribute. -/
theorem handle_eq_ok (h : set.MapsTo entity.name attr type) :
    handle set entity attr = .ok (MappedAttribute.handle ⟨attr, type⟩) := by
  cases h with
  | identifier hcolumn | version hcolumn | basic hcolumn =>
    rw [handle, declaredType_eq_ok _ hcolumn]
    rfl
  | manyToOne hcolumn htarget =>
    obtain ⟨found, hfound, hresolved⟩ := EntitySet.findTarget_of_resolveTarget htarget
    simp only [handle, declaredType_eq_ok _ hcolumn, bind, Except.bind, hfound,
      ← Entity.entityName_of_target? hresolved]
    rfl

/-- The walk for properties of a persisted class finds that of the mapped attribute. -/
theorem persistedProperty_eq_ok (h : set.MapsTo entity.name attr type) :
    persistedProperty set entity attr = .ok (MappedAttribute.persistedProperty ⟨attr, type⟩) := by
  cases h with
  | identifier hcolumn | version hcolumn | basic hcolumn =>
    rw [persistedProperty, declaredType_eq_ok _ hcolumn]
    rfl
  | manyToOne hcolumn htarget =>
    obtain ⟨found, hfound, hresolved⟩ := EntitySet.findTarget_of_resolveTarget htarget
    simp only [persistedProperty, declaredType_eq_ok _ hcolumn, bind, Except.bind, hfound,
      ← Entity.entityName_of_target? hresolved]
    rfl

/-- The column type of an attribute that is mapped is declared, and holds text if the mapped type
does. -/
theorem exists_declaredType (h : set.MapsTo entity.name attr type) :
    ∃ columnType, attr.declaredType entity.name = .ok columnType ∧
      columnType.isText = type.isText := by
  cases h with
  | identifier hcolumn | version hcolumn | manyToOne hcolumn =>
    exact ⟨_, declaredType_eq_ok _ hcolumn, rfl⟩
  | @basic basicType hcolumn =>
    exact ⟨_, declaredType_eq_ok _ hcolumn, by cases basicType <;> rfl⟩

/-- The walk for cases of predicates finds that of the mapped attribute. -/
theorem predicateCase_eq_ok (h : set.MapsTo entity.name attr type) :
    predicateCase set entity attr = .ok (MappedAttribute.predicateCase ⟨attr, type⟩) := by
  obtain ⟨columnType, hcolumn, htext⟩ := exists_declaredType h
  have hoperand : (MappedAttribute.flat ⟨attr, type⟩).scalar = type.scalar := by
    cases type <;> rfl
  simp only [predicateCase, hcolumn, flatProperty_eq_ok h, bind, Except.bind, htext, hoperand]
  rfl

/-- The walk for criteria paths finds that of the mapped attribute. -/
theorem criteriaPath_eq_ok (h : set.MapsTo entity.name attr type) :
    criteriaPath set entity attr =
      .ok (MappedAttribute.criteriaPath entity.name ⟨attr, type⟩) := by
  cases h with
  | identifier hcolumn | version hcolumn | basic hcolumn =>
    rw [criteriaPath, declaredType_eq_ok _ hcolumn]
    rfl
  | manyToOne hcolumn htarget =>
    simp only [criteriaPath, declaredType_eq_ok _ hcolumn, bind, Except.bind, htarget]
    rfl

/-- The walk for branches of orders finds those of the mapped attribute. -/
theorem orderBranches_eq_ok (h : set.MapsTo entity.name attr type) :
    orderBranches set entity attr =
      .ok (MappedAttribute.orderBranches entity.name ⟨attr, type⟩) := by
  rw [orderBranches, criteriaPath_eq_ok h]
  rfl

/-- The walk for branches of predicates finds those of the mapped attribute. -/
theorem predicateBranches_eq_ok (h : set.MapsTo entity.name attr type) :
    predicateBranches set entity attr =
      .ok (MappedAttribute.predicateBranches entity.name ⟨attr, type⟩) := by
  obtain ⟨columnType, hcolumn, htext⟩ := exists_declaredType h
  simp only [predicateBranches, criteriaPath_eq_ok h, hcolumn, bind, Except.bind, htext]
  rfl

/-- The walk for assignments to client-facing data finds that of the mapped attribute. -/
theorem dataAssignment_eq_ok (h : set.MapsTo entity.name attr type) :
    dataAssignment set entity attr = .ok (MappedAttribute.dataAssignment ⟨attr, type⟩) := by
  cases h with
  | identifier hcolumn | version hcolumn | basic hcolumn =>
    rw [dataAssignment, declaredType_eq_ok _ hcolumn]
    rfl
  | manyToOne hcolumn htarget =>
    simp only [dataAssignment, declaredType_eq_ok _ hcolumn, bind, Except.bind, htarget]
    rfl

/-- The walk for assignments to a persisted object finds that of the mapped attribute, and none if
the attribute is managed. -/
theorem entityAssignment?_eq_ok (h : set.MapsTo entity.name attr type) :
    entityAssignment? set entity attr =
      .ok (if MappedAttribute.isManaged ⟨attr, type⟩ then none
        else some (MappedAttribute.entityAssignment ⟨attr, type⟩)) := by
  cases h with
  | identifier hcolumn | version hcolumn | basic hcolumn =>
    rw [entityAssignment?, declaredType_eq_ok _ hcolumn]
    rfl
  | manyToOne hcolumn htarget =>
    simp only [entityAssignment?, declaredType_eq_ok _ hcolumn, bind, Except.bind, htarget]
    rfl

/-! ## Walks over mapped attributes -/

/-- A walk that says at each attribute what the mapped attribute says, says of all of them what the
mapped attributes say. -/
theorem mapM_eq_ok_map {α : Type} {read : Attribute → Except Defect α} {f : MappedAttribute → α}
    (hread : ∀ attr type, set.MapsTo entity.name attr type → read attr = .ok (f ⟨attr, type⟩))
    (h : set.mapEntity entity = .ok attrs) : entity.attributes.mapM read = .ok (attrs.map f) := by
  rw [mapM_eq_ok_iff, List.forall₂_map_right_iff]
  refine (EntitySet.mapEntity_eq_ok_iff.mp h).imp fun attr mapped hmapped => ?_
  obtain ⟨type, rfl, htype⟩ := EntitySet.mapAttribute_eq_ok_iff.mp hmapped
  exact hread attr type htype

/-- The imports of types that an entity has are those of its mapped attributes, or it cannot be
mapped. -/
theorem mapM_typeImports (h : set.mapEntity entity = .ok attrs) :
    entity.attributes.mapM (typeImports set entity) =
      .ok (attrs.map (MappedAttribute.typeImports entity.packageName)) :=
  mapM_eq_ok_map (fun attr type htype => by
    rw [typeImports_eq_map, EntitySet.mapAttribute_eq_ok_iff.mpr ⟨type, rfl, htype⟩]
    rfl) h

/-- The walk for the imports of types fails as the mapping does. -/
theorem mapM_typeImports_eq_error {cause : Defect} (h : set.mapEntity entity = .error cause) :
    entity.attributes.mapM (typeImports set entity) = .error cause := by
  rw [EntitySet.mapEntity_eq_mapM] at h
  rw [funext (typeImports_eq_map set entity)]
  exact mapM_map_eq_error h

/-- The copy into the persisted object walks over the attributes that its flags allow, and leaves
out the managed ones among them. -/
theorem entityAssignments_eq_ok (mode : CopyMode) (h : set.mapEntity entity = .ok attrs) :
    entityAssignments set entity mode = .ok (Extension.entityAssignments mode attrs) := by
  have hallowed := List.rel_filter (p := mode.allows) (q := fun mapped => mode.allows mapped.source)
    (fun attr mapped hmapped => by
      obtain ⟨type, rfl, -⟩ := EntitySet.mapAttribute_eq_ok_iff.mp hmapped
      rfl) (EntitySet.mapEntity_eq_ok_iff.mp h)
  have hread : (entity.attributes.filter mode.allows).mapM (entityAssignment? set entity) =
      .ok ((attrs.filter fun mapped => mode.allows mapped.source).map fun mapped =>
        if mapped.isManaged then none else some mapped.entityAssignment) := by
    rw [mapM_eq_ok_iff, List.forall₂_map_right_iff]
    refine hallowed.imp fun attr mapped hmapped => ?_
    obtain ⟨type, rfl, htype⟩ := EntitySet.mapAttribute_eq_ok_iff.mp hmapped
    exact entityAssignment?_eq_ok htype
  rw [entityAssignments, hread]
  refine congrArg Except.ok ?_
  rw [Extension.entityAssignments, List.filterMap_map, ← List.filterMap_eq_map,
    List.filterMap_filter, List.filterMap_filter]
  refine congrArg (fun f => attrs.filterMap f) (funext fun mapped => ?_)
  by_cases hallows : mode.allows mapped.source <;> by_cases hmanaged : mapped.isManaged <;>
    simp [MappedAttribute.isCopied, hallows, hmanaged]

end Emission

/-! ## Files -/

/-- Sets of lines are told apart by their lines alone. -/
theorem Text.LineSet.eq_of_mem_iff {first second : LineSet}
    (h : ∀ line, line ∈ first.lines ↔ line ∈ second.lines) : first = second := by
  obtain ⟨lines, hlines⟩ := first
  obtain ⟨others, hothers⟩ := second
  obtain rfl := hlines.eq_of_mem_iff hothers h
  rfl

/-- A file does not depend on the order in which its imports are collected. -/
theorem SourceFile.ofEntity_congr {entity : Entity} {language : Language}
    {imports others body : List String} (h : ∀ name, name ∈ imports ↔ name ∈ others) :
    ofEntity entity language imports body = ofEntity entity language others body := by
  have hlines : Text.LineSet.ofList (imports.map language.importLine) =
      .ofList (others.map language.importLine) :=
    Text.LineSet.eq_of_mem_iff fun line => by simp only [Text.LineSet.mem_ofList, List.mem_map, h]
  rw [ofEntity, ofEntity, hlines]

namespace EntitySet

variable {set : EntitySet}

/-- An artifact is emitted exactly if the attributes of its entity can be mapped; it is the file
that they describe. -/
theorem emit_eq (set : EntitySet) (options : Options) (entity : Entity) (kind : Kind) :
    set.emit options entity kind =
      (set.mapEntity entity).map (kind.sourceFile options entity) := by
  cases hattrs : set.mapEntity entity with
  | error cause =>
    have himports := Emission.mapM_typeImports_eq_error hattrs
    cases kind <;>
      simp only [emit, Emission.contractFile, Emission.dataHolderFile, Emission.metamodelFile,
        Emission.persistedFile, Emission.vocabularyFile, Emission.extensionFile, himports] <;> rfl
  | ok attrs =>
    have himports := Emission.mapM_typeImports hattrs
    cases kind with
    | contract =>
      have hproperties := Emission.mapM_eq_ok_map
        (fun _ _ => Emission.contractProperty_eq_ok options) hattrs
      simp only [emit, Emission.contractFile, himports, hproperties, bind, Except.bind]
      rfl
    | dataHolder =>
      have hproperties := Emission.mapM_eq_ok_map (fun _ _ => Emission.flatProperty_eq_ok) hattrs
      simp only [emit, Emission.dataHolderFile, himports, hproperties, bind, Except.bind]
      rfl
    | metamodel =>
      have hhandles := Emission.mapM_eq_ok_map (fun _ _ => Emission.handle_eq_ok) hattrs
      simp only [emit, Emission.metamodelFile, himports, hhandles, bind, Except.bind]
      rfl
    | persisted =>
      have hproperties := Emission.mapM_eq_ok_map
        (fun _ _ => Emission.persistedProperty_eq_ok) hattrs
      simp only [emit, Emission.persistedFile, himports, hproperties, bind, Except.bind]
      rfl
    | vocabulary =>
      have hpredicates := Emission.mapM_eq_ok_map (fun _ _ => Emission.predicateCase_eq_ok) hattrs
      simp only [emit, Emission.vocabularyFile, himports, hpredicates, bind, Except.bind]
      rw [← map_source_of_mapEntity hattrs, List.map_map]
      rfl
    | extension =>
      have hmetamodels := Emission.mapM_eq_ok_map
        (fun _ _ => Emission.metamodelImports_eq_ok) hattrs
      have horders := Emission.mapM_eq_ok_map (fun _ _ => Emission.orderBranches_eq_ok) hattrs
      have hpredicates := Emission.mapM_eq_ok_map
        (fun _ _ => Emission.predicateBranches_eq_ok) hattrs
      have hdata := Emission.mapM_eq_ok_map (fun _ _ => Emission.dataAssignment_eq_ok) hattrs
      simp only [emit, Emission.extensionFile, himports, hmetamodels, horders, hpredicates, hdata,
        Emission.entityAssignments_eq_ok _ hattrs, bind, Except.bind]
      refine congrArg Except.ok (SourceFile.ofEntity_congr fun name => ?_)
      simp [Kind.importedNames, Kind.fixedImports, Kind.attributeImports, exists_or, and_or_left]

end EntitySet

end PersistenceLayer
