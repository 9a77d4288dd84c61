import PersistenceLayer.Proofs.UniformFailure

/-!
# Duplicates

A list of entities becomes a set exactly if no two of them share a name and no
two attributes of one of them do. The set keeps them as they are listed and finds
each of them by its name. Otherwise the list is refused for the first entity that
repeats anything: for an attribute of its own rather than for its own name.
-/

namespace PersistenceLayer

/-- Whether entities have different names, and the attributes of each of them as well. -/
structure HasDistinctNames (entities : List Entity) : Prop where
  names : (entities.map Entity.name).Nodup
  attributes : ∀ entity ∈ entities, entity.attributeNames.Nodup

/-- The defect by which an entity repeats one of its own attributes or a name that is taken. -/
inductive Entity.Repeats (taken : List String) (entity : Entity) : Defect → Prop where
  /-- The first attribute that has the name of an earlier one. -/
  | ownAttribute {earlier later : List Attribute} {attr : Attribute}
      (hsplit : entity.attributes = earlier ++ attr :: later)
      (hfirst : (earlier.map Attribute.name).Nodup)
      (hrepeated : attr.name ∈ earlier.map Attribute.name) :
      Repeats taken entity (.duplicateAttribute entity.name attr.name)
  /-- The attributes have different names, but the entity has a name that is taken. -/
  | ownName (hattributes : entity.attributeNames.Nodup) (hrepeated : entity.name ∈ taken) :
      Repeats taken entity (.duplicateEntity entity.name)

/-! ## Repeated names -/

/-- The name that is repeated is the first one that was seen or stands further in front. -/
theorem repeatedName?_eq_some_iff {seen names : List String} {name : String} :
    repeatedName? seen names = some name ↔
      ∃ earlier later, names = earlier ++ name :: later ∧ earlier.Nodup ∧
        (∀ other ∈ earlier, other ∉ seen) ∧ (name ∈ earlier ∨ name ∈ seen) := by
  induction names generalizing seen with
  | nil => simp [repeatedName?]
  | cons first names ih =>
    rw [repeatedName?]
    split
    · next hfirst =>
      constructor
      · rintro ⟨⟩
        exact ⟨[], names, rfl, .nil, by simp, .inr hfirst⟩
      · rintro ⟨_ | ⟨other, earlier⟩, later, hsplit, -, hseen, -⟩
        · rw [(List.cons.inj hsplit).1]
        · obtain ⟨rfl, -⟩ := List.cons.inj hsplit
          exact absurd hfirst (hseen _ List.mem_cons_self)
    · next hfirst =>
      rw [ih]
      constructor
      · rintro ⟨earlier, later, rfl, hnodup, hseen, hrepeated⟩
        have hnew : first ∉ earlier := fun hmem => hseen first hmem List.mem_cons_self
        refine ⟨first :: earlier, later, rfl, List.nodup_cons.mpr ⟨hnew, hnodup⟩, ?_, ?_⟩
        · exact List.forall_mem_cons.mpr
            ⟨hfirst, fun other hother hmem => hseen other hother (List.mem_cons_of_mem _ hmem)⟩
        · rw [List.mem_cons] at hrepeated ⊢
          tauto
      · rintro ⟨_ | ⟨other, earlier⟩, later, hsplit, hnodup, hseen, hrepeated⟩
        · obtain ⟨rfl, -⟩ := List.cons.inj hsplit
          exact absurd (hrepeated.resolve_left List.not_mem_nil) hfirst
        · obtain ⟨rfl, rfl⟩ := List.cons.inj hsplit
          obtain ⟨hnew, hnodup⟩ := List.nodup_cons.mp hnodup
          refine ⟨earlier, later, rfl, hnodup, fun next hnext hmem => ?_, ?_⟩
          · rcases List.mem_cons.mp hmem with rfl | hmem
            · exact hnew hnext
            · exact hseen next (List.mem_cons_of_mem _ hnext) hmem
          · rw [List.mem_cons] at hrepeated ⊢
            tauto

namespace Entity

variable {entity : Entity} {taken others : List String} {defect : Defect}

/-- More names may be taken. -/
theorem Repeats.mono (h : entity.Repeats taken defect) (hsubset : taken ⊆ others) :
    entity.Repeats others defect := by
  cases h with
  | ownAttribute hsplit hfirst hrepeated => exact .ownAttribute hsplit hfirst hrepeated
  | ownName hattributes hrepeated => exact .ownName hattributes (hsubset hrepeated)

/-- Where an attribute is repeated, nothing else counts as repeated. -/
theorem repeats_iff_of_repeated {attr : String}
    (h : repeatedName? [] entity.attributeNames = some attr) :
    entity.Repeats taken defect ↔ defect = .duplicateAttribute entity.name attr := by
  constructor
  · intro hrepeats
    cases hrepeats with
    | @ownAttribute earlier later other hsplit hfirst hrepeated =>
      have hother : repeatedName? [] entity.attributeNames = some other.name :=
        repeatedName?_eq_some_iff.mpr ⟨earlier.map Attribute.name, later.map Attribute.name,
          by simp [attributeNames, hsplit], hfirst, fun _ _ => List.not_mem_nil, .inl hrepeated⟩
      rw [Option.some.inj (h.symm.trans hother)]
    | ownName hattributes _ =>
      cases (repeatedName?_eq_none hattributes fun _ _ => List.not_mem_nil).symm.trans h
  · rintro rfl
    obtain ⟨earlier, later, hsplit, hnodup, -, hrepeated⟩ := repeatedName?_eq_some_iff.mp h
    obtain ⟨before, rest, hattributes, rfl, hrest⟩ := List.map_eq_append_iff.mp hsplit
    obtain ⟨attr, after, rfl, rfl, -⟩ := List.map_eq_cons_iff.mp hrest
    exact .ownAttribute hattributes hnodup (hrepeated.resolve_right List.not_mem_nil)

/-- Where attributes have different names, only the name of the entity can be repeated. -/
theorem repeats_iff_of_nodup (h : entity.attributeNames.Nodup) :
    entity.Repeats taken defect ↔
      entity.name ∈ taken ∧ defect = .duplicateEntity entity.name := by
  constructor
  · intro hrepeats
    cases hrepeats with
    | @ownAttribute earlier later attr hsplit _ hrepeated =>
      have hnodup : (earlier.map Attribute.name ++ (attr :: later).map Attribute.name).Nodup := by
        rwa [attributeNames, hsplit, List.map_append] at h
      exact absurd rfl
        ((List.nodup_append.mp hnodup).2.2 attr.name hrepeated attr.name List.mem_cons_self)
    | ownName _ hrepeated => exact ⟨hrepeated, rfl⟩
  · rintro ⟨hrepeated, rfl⟩
    exact .ownName h hrepeated

end Entity

/-! ## The first duplicate -/

/-- Entities have different names if the first of them repeats nothing and the others have. -/
theorem hasDistinctNames_cons {entity : Entity} {entities : List Entity} :
    HasDistinctNames (entity :: entities) ↔
      entity.attributeNames.Nodup ∧ entity.name ∉ entities.map Entity.name ∧
        HasDistinctNames entities := by
  constructor
  · rintro ⟨hnames, hattributes⟩
    obtain ⟨hname, hnames⟩ := List.nodup_cons.mp hnames
    obtain ⟨hentity, hattributes⟩ := List.forall_mem_cons.mp hattributes
    exact ⟨hentity, hname, hnames, hattributes⟩
  · rintro ⟨hentity, hname, hnames, hattributes⟩
    exact ⟨List.nodup_cons.mpr ⟨hname, hnames⟩, List.forall_mem_cons.mpr ⟨hentity, hattributes⟩⟩

/-- An entity is looked at before the ones behind it, for which its name is taken. -/
theorem firstDuplicate?_cons {seen : List String} {entity : Entity} {entities : List Entity}
    {defect : Defect} :
    firstDuplicate? seen (entity :: entities) = some defect ↔
      entity.Repeats seen defect ∨ entity.attributeNames.Nodup ∧ entity.name ∉ seen ∧
        firstDuplicate? (entity.name :: seen) entities = some defect := by
  rw [firstDuplicate?]
  split
  · next attr hattr =>
    have hrepeated : ¬ entity.attributeNames.Nodup := by
      intro hnodup
      cases (repeatedName?_eq_none hnodup fun _ _ => List.not_mem_nil).symm.trans hattr
    simp [Entity.repeats_iff_of_repeated hattr, hrepeated, eq_comm]
  · next hattr =>
    have hnodup := (nodup_of_repeatedName?_eq_none hattr).1
    rw [Entity.repeats_iff_of_nodup hnodup]
    split <;> simp [*, eq_comm]

/-- The first duplicate is that of the first entity that repeats anything, be it a name that was
seen or the name of an entity in front of it. -/
theorem firstDuplicate?_eq_some_iff {seen : List String} {entities : List Entity}
    {defect : Defect} :
    firstDuplicate? seen entities = some defect ↔
      ∃ before entity after, entities = before ++ entity :: after ∧ HasDistinctNames before ∧
        (∀ earlier ∈ before, earlier.name ∉ seen) ∧
        entity.Repeats (before.map Entity.name ++ seen) defect := by
  -- The names of the entities in front count as seen when the next one is looked at.
  induction entities generalizing seen with
  | nil => simp [firstDuplicate?]
  | cons first entities ih =>
    rw [firstDuplicate?_cons, ih]
    constructor
    · rintro (hrepeats | ⟨hattributes, hname, before, entity, after, rfl, hbefore, hseen, hrepeats⟩)
      · exact ⟨[], first, entities, rfl, ⟨.nil, by simp⟩, by simp, hrepeats⟩
      · have hnew : first.name ∉ before.map Entity.name := by
          intro hmem
          obtain ⟨earlier, hearlier, heq⟩ := List.mem_map.mp hmem
          exact hseen earlier hearlier (heq ▸ List.mem_cons_self)
        refine ⟨first :: before, entity, after, rfl,
          hasDistinctNames_cons.mpr ⟨hattributes, hnew, hbefore⟩, ?_, hrepeats.mono ?_⟩
        · exact List.forall_mem_cons.mpr ⟨hname, fun earlier hearlier hmem =>
            hseen earlier hearlier (List.mem_cons_of_mem _ hmem)⟩
        · simp
    · rintro ⟨_ | ⟨other, before⟩, entity, after, hsplit, hbefore, hseen, hrepeats⟩
      · obtain ⟨rfl, -⟩ := List.cons.inj hsplit
        exact .inl hrepeats
      · obtain ⟨rfl, rfl⟩ := List.cons.inj hsplit
        obtain ⟨hattributes, hnew, hbefore⟩ := hasDistinctNames_cons.mp hbefore
        obtain ⟨hname, hseen⟩ := List.forall_mem_cons.mp hseen
        refine .inr ⟨hattributes, hname, before, entity, after, rfl, hbefore, ?_, hrepeats.mono ?_⟩
        · intro earlier hearlier hmem
          rcases List.mem_cons.mp hmem with heq | hmem
          · exact hnew (heq ▸ List.mem_map_of_mem hearlier)
          · exact hseen earlier hearlier hmem
        · simp

/-! ## Sets -/

namespace EntitySet

/-- A list of entities is accepted as the set that keeps them as they are listed. -/
theorem entities_of_ofEntities {set : EntitySet} {entities : List Entity}
    (h : ofEntities entities = .ok set) : set.entities = entities := by
  unfold ofEntities at h
  split at h
  · cases h
  · cases h
    rfl

/-- A list of entities is refused for its first duplicate. -/
theorem ofEntities_eq_error_iff {entities : List Entity} {defect : Defect} :
    ofEntities entities = .error defect ↔ firstDuplicate? [] entities = some defect := by
  unfold ofEntities
  split
  · next found hfound => rw [hfound, Except.error.injEq, Option.some.injEq]
  · next hnone => simp [hnone]

/-- Entities are accepted exactly if they have different names. -/
theorem exists_ofEntities_iff {entities : List Entity} :
    (∃ set, ofEntities entities = .ok set) ↔ HasDistinctNames entities := by
  constructor
  · rintro ⟨set, h⟩
    obtain rfl := entities_of_ofEntities h
    exact ⟨set.names_nodup, set.attributes_nodup⟩
  · rintro ⟨hnames, hattributes⟩
    exact ⟨_, ofEntities_entities ⟨entities, hnames, hattributes⟩⟩

/-- A list of entities with different names is kept as it is, and each entity is found by its name.
Any other list is refused for the first entity that repeats anything: for the first attribute with
the name of an earlier one, or else for the name of an earlier entity. -/
theorem ofEntities_keeps_or_refuses (entities : List Entity) :
    ((∃ set, ofEntities entities = .ok set) ↔ HasDistinctNames entities) ∧
    (∀ set, ofEntities entities = .ok set →
      set.entities = entities ∧
      (∀ entity ∈ entities, set.get? entity.name = some entity) ∧
      ∀ name, (∀ entity ∈ entities, entity.name ≠ name) → set.get? name = none) ∧
    ∀ defect, ofEntities entities = .error defect ↔
      ∃ before entity after, entities = before ++ entity :: after ∧ HasDistinctNames before ∧
        entity.Repeats (before.map Entity.name) defect := by
  refine ⟨exists_ofEntities_iff, fun set h => ?_, fun defect => ?_⟩
  · obtain rfl := entities_of_ofEntities h
    exact ⟨rfl, fun entity hentity => get?_eq_some_iff.mpr ⟨hentity, rfl⟩,
      fun name hname => get?_eq_none_iff.mpr hname⟩
  · rw [ofEntities_eq_error_iff, firstDuplicate?_eq_some_iff]
    simp

/-- The attribute of the second entity is refused, though its name is taken as well. -/
example : firstDuplicate? []
    [{ name := "team" }, { name := "team", attributes := [{ name := "id" },
      { name := "id" }] }] =
      some (.duplicateAttribute "team" "id") := by
  decide

end EntitySet

end PersistenceLayer
