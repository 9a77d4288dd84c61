import PersistenceLayer.Proofs.RenderedArtifacts

/-!
# Uniform failure

The artifacts of an entity look up its attributes each in its own way, but they
succeed together or fail together. They succeed if each attribute is complete:
its column type is declared, and a relationship names an entity of the set that
has an identifier. Otherwise the first attribute that is not decides with which
defect they fail, whatever the kind of the artifact and the options are.
-/

namespace PersistenceLayer

/-- Whether an attribute is an identifier of its entity. -/
def Attribute.IsIdentifier (attr : Attribute) : Prop :=
  ∃ kind generated, attr.columnType = some (.identifier kind generated)

namespace EntitySet

/-! ## What an attribute has to provide -/

/-- Whether a name is that of an entity of the set with at least one identifier. -/
def HasTarget (set : EntitySet) (name : String) : Prop :=
  ∃ entity ∈ set.entities, entity.name = name ∧
    ∃ identifier ∈ entity.attributes, identifier.IsIdentifier

/-- Whether an attribute has a declared column type and, if that is a relationship, a target. -/
def IsComplete (set : EntitySet) (attr : Attribute) : Prop :=
  ∃ type, attr.columnType = some type ∧
    ∀ target, type = .manyToOne target → set.HasTarget target

/-- The defect by which an attribute of the given owner is not complete. -/
inductive Offends (set : EntitySet) (owner : String) (attr : Attribute) : Defect → Prop where
  /-- The column type is not declared. -/
  | undeclared (hcolumn : attr.columnType = none) :
      Offends set owner attr (.undeclaredColumnType owner attr.name)
  /-- A relationship names no entity of the set. -/
  | unknown {target : String} (hcolumn : attr.columnType = some (.manyToOne target))
      (hunknown : ∀ entity ∈ set.entities, entity.name ≠ target) :
      Offends set owner attr (.unknownEntity owner attr.name target)
  /-- A relationship names an entity without identifiers. -/
  | unidentified {target : String} {entity : Entity}
      (hcolumn : attr.columnType = some (.manyToOne target)) (hentity : entity ∈ set.entities)
      (hname : entity.name = target)
      (hnone : ∀ identifier ∈ entity.attributes, ¬ identifier.IsIdentifier) :
      Offends set owner attr (.missingIdentifier owner attr.name target)

/-! ## Look-ups -/

variable {set : EntitySet} {entity : Entity} {owner : String} {attr : Attribute} {cause : Defect}

/-- The entity of a name is the one of the set that is called so. -/
theorem get?_eq_some_iff {name : String} :
    set.get? name = some entity ↔ entity ∈ set.entities ∧ entity.name = name := by
  unfold get?
  constructor
  · intro h
    exact ⟨List.mem_of_find?_eq_some h, by simpa using List.find?_some h⟩
  · rintro ⟨hmem, rfl⟩
    cases hfound : set.entities.find? fun other => other.name == entity.name with
    | none => exact absurd (List.find?_eq_none.mp hfound entity hmem) (by simp)
    | some other =>
      have hname : other.name = entity.name := by simpa using List.find?_some hfound
      rw [List.inj_on_of_nodup_map set.names_nodup (List.mem_of_find?_eq_some hfound) hmem hname]

/-- A name has no entity if no entity of the set is called so. -/
theorem get?_eq_none_iff {name : String} :
    set.get? name = none ↔ ∀ entity ∈ set.entities, entity.name ≠ name := by
  simp [get?]

end EntitySet

/-- An attribute that declares a type of identifier is an identifier. -/
theorem Attribute.idKind?_eq_some_iff {attr : Attribute} {kind : IdKind} :
    attr.idKind? = some kind ↔
      ∃ generated, attr.columnType = some (.identifier kind generated) := by
  unfold idKind?
  cases attr.columnType with
  | none => simp
  | some type => cases type <;> simp [ColumnType.idKind?, eq_comm]

/-- An entity is no target if it has no identifier. -/
theorem Entity.target?_eq_none_iff {entity : Entity} :
    entity.target? = none ↔ ∀ identifier ∈ entity.attributes, ¬ identifier.IsIdentifier := by
  rw [target?, Option.map_eq_none_iff, identifier?, List.findSome?_eq_none_iff]
  refine forall₂_congr fun attr _ => ?_
  rw [Option.map_eq_none_iff, Option.eq_none_iff_forall_ne_some, Attribute.IsIdentifier,
    not_exists]
  exact forall_congr' fun kind => not_congr Attribute.idKind?_eq_some_iff

namespace EntitySet

variable {set : EntitySet} {entity : Entity} {owner : String} {attr : Attribute} {cause : Defect}

/-- A relationship is resolved in two steps, each of which has its own defect. -/
theorem resolveTarget_eq (set : EntitySet) (owner attrName name : String) :
    set.resolveTarget owner attrName name =
      match set.get? name with
      | none => .error (.unknownEntity owner attrName name)
      | some entity =>
        match entity.target? with
        | none => .error (.missingIdentifier owner attrName name)
        | some target => .ok target := by
  unfold resolveTarget findTarget
  cases set.get? name with
  | none => rfl
  | some entity =>
    cases htarget : entity.target? <;> simp [htarget, bind, Except.bind, pure, Except.pure]

/-- The entity of a name is a target if and only if the set has a target of that name. -/
theorem target?_isSome_iff {name : String} (h : set.get? name = some entity) :
    entity.target? ≠ none ↔ set.HasTarget name := by
  obtain ⟨hmem, hname⟩ := get?_eq_some_iff.mp h
  rw [ne_eq, Entity.target?_eq_none_iff]
  push Not
  constructor
  · intro hidentifier
    exact ⟨entity, hmem, hname, hidentifier⟩
  · rintro ⟨other, hother, hothername, hidentifier⟩
    obtain rfl : other = entity :=
      Option.some.inj ((get?_eq_some_iff.mpr ⟨hother, hothername⟩).symm.trans h)
    exact hidentifier

/-- An attribute is mapped if it is complete; otherwise the mapping fails with the defect by which
it is not. -/
theorem mapAttribute_cases_isComplete (set : EntitySet) (owner : String) (attr : Attribute) :
    (set.IsComplete attr ∧ ∃ mapped, set.mapAttribute owner attr = .ok mapped) ∨
      ¬ set.IsComplete attr ∧ ∃ cause, set.Offends owner attr cause ∧
        set.mapAttribute owner attr = .error cause := by
  unfold IsComplete mapAttribute
  cases hcolumn : attr.columnType with
  | none => exact .inr ⟨by simp, _, .undeclared hcolumn, rfl⟩
  | some type =>
    cases type with
    | identifier | version | basic => exact .inl ⟨by simp, _, rfl⟩
    | manyToOne name =>
      simp only [Option.some.injEq, exists_eq_left', ColumnType.manyToOne.injEq, forall_eq',
        resolveTarget_eq]
      cases hentity : set.get? name with
      | none =>
        have hunknown := get?_eq_none_iff.mp hentity
        refine .inr ⟨?_, _, .unknown hcolumn hunknown, rfl⟩
        rintro ⟨entity, hmem, hname, -⟩
        exact hunknown entity hmem hname
      | some entity =>
        obtain ⟨hmem, hname⟩ := get?_eq_some_iff.mp hentity
        rw [← target?_isSome_iff hentity]
        dsimp only
        cases htarget : entity.target? with
        | none =>
          have hnone := Entity.target?_eq_none_iff.mp htarget
          exact .inr ⟨by simp, _, .unidentified hcolumn hmem hname hnone, rfl⟩
        | some target => exact .inl ⟨by simp, _, rfl⟩

/-- An attribute is mapped if and only if it is complete. -/
theorem exists_mapAttribute_eq_ok_iff :
    (∃ mapped, set.mapAttribute owner attr = .ok mapped) ↔ set.IsComplete attr := by
  obtain ⟨hcomplete, hmapped⟩ | ⟨hcomplete, cause, -, hfailed⟩ :=
    set.mapAttribute_cases_isComplete owner attr
  · exact iff_of_true hmapped hcomplete
  · refine iff_of_false ?_ hcomplete
    rintro ⟨mapped, hmapped⟩
    cases hfailed.symm.trans hmapped

/-- An attribute whose mapping fails offends by the defect it fails with. -/
theorem offends_of_mapAttribute (h : set.mapAttribute owner attr = .error cause) :
    ¬ set.IsComplete attr ∧ set.Offends owner attr cause := by
  obtain ⟨-, mapped, hmapped⟩ | ⟨hcomplete, other, hoffends, hfailed⟩ :=
    set.mapAttribute_cases_isComplete owner attr
  · cases hmapped.symm.trans h
  · obtain rfl : other = cause := Except.error.inj (hfailed.symm.trans h)
    exact ⟨hcomplete, hoffends⟩

/-! ## All artifacts together -/

/-- All artifacts of an entity succeed or fail together. Each is rendered if and only if every
attribute is complete; otherwise all of them fail with the defect by which the first attribute that
is not complete offends, whatever their kind and the options are. -/
theorem render_succeeds_or_fails_uniformly (set : EntitySet) (entity : Entity) :
    (∀ options kind, (∃ artifact, set.render options entity kind = .ok artifact) ↔
      ∀ attr ∈ entity.attributes, set.IsComplete attr) ∧
    ((∀ attr ∈ entity.attributes, set.IsComplete attr) ∨
      ∃ before attr after cause, entity.attributes = before ++ attr :: after ∧
        (∀ earlier ∈ before, set.IsComplete earlier) ∧ ¬ set.IsComplete attr ∧
        set.Offends entity.name attr cause ∧
        ∀ options kind, set.render options entity kind = .error cause) := by
  have hrenders : ∀ options kind,
      (∃ artifact, set.render options entity kind = .ok artifact) ↔
        ∃ attrs, set.mapEntity entity = .ok attrs := by
    intro options kind
    rw [render_eq]
    cases set.mapEntity entity <;> simp [Except.map]
  have hmaps : (∃ attrs, set.mapEntity entity = .ok attrs) ↔
      ∀ attr ∈ entity.attributes, set.IsComplete attr := by
    simp only [mapEntity_eq_mapM, exists_mapM_eq_ok_iff, exists_mapAttribute_eq_ok_iff]
  refine ⟨fun options kind => (hrenders options kind).trans hmaps, ?_⟩
  cases hattrs : set.mapEntity entity with
  | ok attrs => exact .inl (hmaps.mp ⟨attrs, hattrs⟩)
  | error cause =>
    rw [mapEntity_eq_mapM] at hattrs
    obtain ⟨before, attr, after, hsplit, hbefore, hattr⟩ := mapM_eq_error_iff.mp hattrs
    obtain ⟨hcomplete, hoffends⟩ := offends_of_mapAttribute hattr
    refine .inr ⟨before, attr, after, cause, hsplit, ?_, hcomplete, hoffends, ?_⟩
    · exact fun earlier hmem => exists_mapAttribute_eq_ok_iff.mp (hbefore earlier hmem)
    · intro options kind
      rw [render_eq, mapEntity_eq_mapM, hattrs]
      rfl

end EntitySet

end PersistenceLayer
