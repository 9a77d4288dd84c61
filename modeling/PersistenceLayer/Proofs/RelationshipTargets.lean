import PersistenceLayer.Proofs.IdentifierNames
import PersistenceLayer.Proofs.UniformFailure

/-!
# Targets of relationships

The target of a relationship is made by an entity of the set and by the first of
its attributes that is an identifier. So its names are names of the set, and
what is generated for that entity can be found where the target leads.
-/

namespace PersistenceLayer

/-- Whether an attribute is the first identifier among some attributes, at the given place. -/
structure IsFirstIdentifier (attributes : List Attribute) (place : Nat) (attr : Attribute) :
    Prop where
  place_eq : attributes[place]? = some attr
  isIdentifier : attr.IsIdentifier
  earlier : ∀ other ∈ attributes.take place, ¬ other.IsIdentifier

/-- An entity is a target by its first identifier. -/
theorem Entity.exists_isFirstIdentifier {entity : Entity} {target : Target}
    (h : entity.target? = some target) :
    ∃ place attr generated, IsFirstIdentifier entity.attributes place attr ∧
      attr.columnType = some (.identifier target.idKind generated) ∧
      target.identifierName = attr.name := by
  obtain ⟨⟨identifier, kind⟩, hidentifier, rfl⟩ := Option.map_eq_some_iff.mp h
  obtain ⟨before, attr, after, hsplit, hattr, hbefore⟩ :=
    List.findSome?_eq_some_iff.mp hidentifier
  obtain ⟨kind', hkind, hpair⟩ := Option.map_eq_some_iff.mp hattr
  obtain ⟨rfl, rfl⟩ := Prod.mk.inj hpair
  obtain ⟨generated, hcolumn⟩ := Attribute.idKind?_eq_some_iff.mp hkind
  refine ⟨before.length, attr, generated, ⟨by simp [hsplit], ⟨_, _, hcolumn⟩, ?_⟩, hcolumn, rfl⟩
  rw [hsplit, List.take_left']
  · rintro other hother ⟨otherKind, otherGenerated, hother'⟩
    have hnone := Option.map_eq_none_iff.mp (hbefore other hother)
    rw [Attribute.idKind?_eq_some_iff.mpr ⟨_, hother'⟩] at hnone
    cases hnone
  · rfl

/-- There is only one first identifier. -/
theorem IsFirstIdentifier.eq {attributes : List Attribute} {place other : Nat}
    {attr otherAttr : Attribute} (h : IsFirstIdentifier attributes place attr)
    (hother : IsFirstIdentifier attributes other otherAttr) : attr = otherAttr := by
  have hearlier {i j : Nat} {a b : Attribute} (ha : IsFirstIdentifier attributes i a)
      (hb : IsFirstIdentifier attributes j b) : ¬ i < j := by
    intro hlt
    have hmem : a ∈ attributes.take j :=
      List.mem_of_getElem? ((List.getElem?_take_of_lt hlt).trans ha.place_eq)
    exact hb.earlier a hmem ha.isIdentifier
  obtain rfl : place = other := by
    have := hearlier h hother
    have := hearlier hother h
    omega
  exact Option.some.inj (h.place_eq.symm.trans hother.place_eq)

/-- The target of an attribute is that of its type. -/
theorem MappedAttribute.target?_eq_some_iff {mapped : MappedAttribute} {target : Target} :
    mapped.target? = some target ↔ mapped.type = .manyToOne target := by
  rw [target?]
  cases mapped.type <;> simp

/-- A target lies in the package of its entity. -/
theorem Entity.packageName_of_target? {entity : Entity} {target : Target}
    (h : entity.target? = some target) : target.packageName = entity.packageName := by
  obtain ⟨⟨identifier, kind⟩, -, rfl⟩ := Option.map_eq_some_iff.mp h
  rfl

namespace EntitySet

variable {set : EntitySet} {entity : Entity} {attrs : List MappedAttribute}

/-- Entities of a set are told apart by their names. -/
theorem eq_of_name_eq {first second : Entity} (hfirst : first ∈ set.entities)
    (hsecond : second ∈ set.entities) (hname : first.name = second.name) : first = second :=
  Option.some.inj ((get?_eq_some_iff.mpr ⟨hfirst, rfl⟩).symm.trans
    (get?_eq_some_iff.mpr ⟨hsecond, hname.symm⟩))

/-- A relationship is resolved to an entity of the set. -/
theorem exists_entity_of_resolveTarget {owner attrName name : String} {target : Target}
    (h : set.resolveTarget owner attrName name = .ok target) :
    ∃ entity ∈ set.entities, entity.name = name ∧ entity.target? = some target := by
  obtain ⟨entity, hfound, htarget⟩ := findTarget_of_resolveTarget h
  rw [findTarget] at hfound
  cases hentity : set.get? name with
  | none =>
    rw [hentity] at hfound
    cases hfound
  | some found =>
    rw [hentity] at hfound
    obtain rfl := Except.ok.inj hfound
    obtain ⟨hmem, hname⟩ := get?_eq_some_iff.mp hentity
    exact ⟨found, hmem, hname, htarget⟩

/-- The target of a mapped relationship is an entity of the set. -/
theorem MapsTo.exists_entity {owner : String} {attr : Attribute} {target : Target}
    (h : set.MapsTo owner attr (.manyToOne target)) :
    ∃ entity ∈ set.entities, attr.columnType = some (.manyToOne entity.name) ∧
      entity.target? = some target := by
  cases h with
  | manyToOne hcolumn htarget =>
    obtain ⟨entity, hentity, rfl, hresolved⟩ := exists_entity_of_resolveTarget htarget
    exact ⟨entity, hentity, hcolumn, hresolved⟩

/-- An attribute is mapped to an identifier if it is one. -/
theorem MapsTo.eq_identifier_iff {owner : String} {attr : Attribute} {type : MappedType}
    (h : set.MapsTo owner attr type) {kind : IdKind} {generated : Bool} :
    type = .identifier kind generated ↔ attr.columnType = some (.identifier kind generated) := by
  cases h with
  | identifier hcolumn | version hcolumn | basic hcolumn => simp [hcolumn]
  | manyToOne hcolumn => simp [hcolumn]

/-- Whether a relationship of an entity leads to another entity of the set, or back to itself. -/
structure HasRelationship (set : EntitySet) (entity target : Entity) : Prop where
  mem : target ∈ set.entities
  exists_attribute : ∃ attr ∈ entity.attributes, attr.columnType = some (.manyToOne target.name)

/-! ## Places of attributes -/

/-- What is mapped stands at the place of its attribute. -/
theorem getElem?_of_mapEntity (h : set.mapEntity entity = .ok attrs) {place : Nat}
    {mapped : MappedAttribute} (hplace : attrs[place]? = some mapped) :
    entity.attributes[place]? = some mapped.source ∧
      set.MapsTo entity.name mapped.source mapped.type := by
  have hmaps := mapEntity_eq_ok_iff.mp h
  obtain ⟨hlt, rfl⟩ := List.getElem?_eq_some_iff.mp hplace
  obtain ⟨type, htype, hmapsTo⟩ :=
    mapAttribute_eq_ok_iff.mp (hmaps.get (hmaps.length_eq ▸ hlt) hlt)
  have hattr := List.getElem?_eq_getElem (hmaps.length_eq ▸ hlt : place < entity.attributes.length)
  rw [List.get_eq_getElem, List.get_eq_getElem] at htype
  rw [htype, hattr]
  exact ⟨rfl, hmapsTo⟩

/-- An attribute that is mapped is mapped at its place. -/
theorem exists_mapped_of_getElem? (h : set.mapEntity entity = .ok attrs) {place : Nat}
    {attr : Attribute} (hplace : entity.attributes[place]? = some attr) :
    ∃ type, attrs[place]? = some ⟨attr, type⟩ ∧ set.MapsTo entity.name attr type := by
  have hlength := (mapEntity_eq_ok_iff.mp h).length_eq
  obtain ⟨hlt, -⟩ := List.getElem?_eq_some_iff.mp hplace
  have hmapped := List.getElem?_eq_getElem (hlength ▸ hlt : place < attrs.length)
  obtain ⟨hsource, hmapsTo⟩ := getElem?_of_mapEntity h hmapped
  obtain rfl := Option.some.inj (hplace.symm.trans hsource)
  exact ⟨_, hmapped, hmapsTo⟩

/-- What is mapped is an attribute of the entity. -/
theorem mapsTo_of_mem (h : set.mapEntity entity = .ok attrs) {mapped : MappedAttribute}
    (hmapped : mapped ∈ attrs) :
    mapped.source ∈ entity.attributes ∧ set.MapsTo entity.name mapped.source mapped.type := by
  obtain ⟨place, hplace⟩ := List.getElem?_of_mem hmapped
  obtain ⟨hsource, hmapsTo⟩ := getElem?_of_mapEntity h hplace
  exact ⟨List.mem_of_getElem? hsource, hmapsTo⟩

/-- Attributes are mapped one after the other, each to what it maps to. -/
theorem mapEntity_eq_ok_iff_mapsTo :
    set.mapEntity entity = .ok attrs ↔ attrs.map MappedAttribute.source = entity.attributes ∧
      ∀ mapped ∈ attrs, set.MapsTo entity.name mapped.source mapped.type := by
  constructor
  · exact fun h => ⟨map_source_of_mapEntity h, fun mapped hmapped => (mapsTo_of_mem h hmapped).2⟩
  · rintro ⟨hsources, hmaps⟩
    rw [mapEntity_eq_ok_iff, ← hsources, List.forall₂_map_left_iff, List.forall₂_same]
    exact fun mapped hmapped => mapAttribute_eq_ok_iff.mpr ⟨_, rfl, hmaps mapped hmapped⟩

/-- Every attribute of the entity is mapped. -/
theorem exists_mapped_of_mem (h : set.mapEntity entity = .ok attrs) {attr : Attribute}
    (hattr : attr ∈ entity.attributes) :
    ∃ type, ⟨attr, type⟩ ∈ attrs ∧ set.MapsTo entity.name attr type := by
  obtain ⟨place, hplace⟩ := List.getElem?_of_mem hattr
  obtain ⟨type, hmapped, hmapsTo⟩ := exists_mapped_of_getElem? h hplace
  exact ⟨type, List.mem_of_getElem? hmapped, hmapsTo⟩

/-- The first identifier of a target is mapped at its place, as the first one that is mapped to an
identifier. -/
theorem exists_first_mapped_identifier (h : set.mapEntity entity = .ok attrs) {target : Target}
    (htarget : entity.target? = some target) :
    ∃ place attr generated, IsFirstIdentifier entity.attributes place attr ∧
      target.identifierName = attr.name ∧
      attrs[place]? = some ⟨attr, .identifier target.idKind generated⟩ ∧
      ∀ other ∈ attrs.take place, ∀ kind generated, other.type ≠ .identifier kind generated := by
  obtain ⟨place, attr, generated, hfirst, hcolumn, hname⟩ :=
    Entity.exists_isFirstIdentifier htarget
  obtain ⟨type, hplace, hmapsTo⟩ := exists_mapped_of_getElem? h hfirst.place_eq
  obtain rfl := hmapsTo.eq_identifier_iff.mpr hcolumn
  refine ⟨place, attr, generated, hfirst, hname, hplace, ?_⟩
  intro other hother kind otherGenerated htype
  obtain ⟨i, hi⟩ := List.getElem?_of_mem (List.mem_of_mem_take hother)
  have hsource : other.source ∈ entity.attributes.take place := by
    rw [← map_source_of_mapEntity h, ← List.map_take]
    exact List.mem_map_of_mem hother
  exact hfirst.earlier _ hsource
    ⟨kind, otherGenerated, (getElem?_of_mapEntity h hi).2.eq_identifier_iff.mp htype⟩

end EntitySet

/-! ## Names -/

/-- Whether the names that an attribute's declarations are formed from are identifiers. -/
structure MappedAttribute.HasIdentifierNames (mapped : MappedAttribute) : Prop where
  name : Text.isIdentifier mapped.name = true
  entityName : ∀ target, mapped.type = .manyToOne target →
    Text.isIdentifier target.entityName = true
  identifierName : ∀ target, mapped.type = .manyToOne target →
    Text.isIdentifier target.identifierName = true

/-- Whether the names of an entity and its attributes are identifiers. -/
def Entity.HasIdentifierNames (entity : Entity) : Prop :=
  Text.isIdentifier entity.name = true ∧
    ∀ attr ∈ entity.attributes, Text.isIdentifier attr.name = true

namespace EntitySet.HasIdentifierNames

variable {set : EntitySet} {entity : Entity} {attrs : List MappedAttribute}
  (hnames : set.HasIdentifierNames)

include hnames

/-- The attributes of an entity whose names are identifiers lead to no other names, though the
entity need not belong to the set. -/
theorem mapped_of_entity (hentity : entity.HasIdentifierNames)
    (h : set.mapEntity entity = .ok attrs) : ∀ mapped ∈ attrs, mapped.HasIdentifierNames := by
  intro mapped hmapped
  obtain ⟨hsource, hmapsTo⟩ := mapsTo_of_mem h hmapped
  have htarget : ∀ target, mapped.type = .manyToOne target →
      Text.isIdentifier target.entityName = true ∧
        Text.isIdentifier target.identifierName = true := by
    intro target htype
    obtain ⟨found, hfound, -, hresolved⟩ := (htype ▸ hmapsTo).exists_entity
    obtain ⟨other, attr, generated, hfirst, -, hname⟩ := Entity.exists_isFirstIdentifier hresolved
    obtain ⟨hentityName, hattrNames⟩ := hnames found hfound
    rw [Entity.entityName_of_target? hresolved, hname]
    exact ⟨hentityName, hattrNames attr (List.mem_of_getElem? hfirst.place_eq)⟩
  exact ⟨hentity.2 _ hsource,
    fun target htype => (htarget target htype).1, fun target htype => (htarget target htype).2⟩

/-- The attributes of a set whose names are identifiers lead to no other names. -/
theorem mapped (hentity : entity ∈ set.entities) (h : set.mapEntity entity = .ok attrs) :
    ∀ mapped ∈ attrs, mapped.HasIdentifierNames :=
  hnames.mapped_of_entity (hnames entity hentity) h

end EntitySet.HasIdentifierNames

end PersistenceLayer
