import PersistenceLayer.Proofs.GeneratedDeclarations

/-!
# What an artifact depends on

An artifact reads its own entity and, of each entity that a relationship names,
the package and the name and the type of the first identifier. So entities that
no relationship of its own names can be added, and those that one names be
edited in every other respect, without any change to the artifact.
-/

namespace PersistenceLayer

/-- Whether the first identifiers of two lists of attributes have the same name and type. -/
def FirstIdentifiersAgree (attributes others : List Attribute) : Prop :=
  ∃ place attr otherPlace other, IsFirstIdentifier attributes place attr ∧
    IsFirstIdentifier others otherPlace other ∧ attr.name = other.name ∧
    attr.idKind? = other.idKind?

/-- Whether a relationship to one of two entities is generated as one to the other: they lie in the
same package, and either none of them has an identifier or their first ones agree. -/
structure Entity.ShowsAlike (entity other : Entity) : Prop where
  packageName : entity.packageName = other.packageName
  identifier :
    (∀ attr ∈ entity.attributes, ¬ attr.IsIdentifier) ∧
        (∀ attr ∈ other.attributes, ¬ attr.IsIdentifier) ∨
      FirstIdentifiersAgree entity.attributes other.attributes

/-- Whether a name leads to entities that show alike in two sets, or to none in both. -/
def EntitySet.AgreeAt (set other : EntitySet) (name : String) : Prop :=
  (set.get? name = none ∧ other.get? name = none) ∨
    ∃ entity twin, set.get? name = some entity ∧ other.get? name = some twin ∧
      entity.ShowsAlike twin

/-- Whether an edit of an entity keeps what relationships to it show: the name, the package, and the
name and the type of the first identifier if there is one. -/
structure Entity.HiddenEdit (entity edited : Entity) : Prop where
  name : edited.name = entity.name
  packageName : edited.packageName = entity.packageName
  identifier : ∀ place attr, IsFirstIdentifier entity.attributes place attr →
    FirstIdentifiersAgree entity.attributes edited.attributes

/-! ## Targets -/

/-- The first identifier of an entity is what relationships lead to. -/
theorem Entity.target?_of_isFirstIdentifier {entity : Entity} {place : Nat} {attr : Attribute}
    (h : IsFirstIdentifier entity.attributes place attr) :
    ∃ kind, attr.idKind? = some kind ∧
      entity.target? = some ⟨entity.name, entity.packageName, attr.name, kind⟩ := by
  cases htarget : entity.target? with
  | none =>
    have hmem : attr ∈ entity.attributes := List.mem_of_getElem? h.place_eq
    exact absurd h.isIdentifier (Entity.target?_eq_none_iff.mp htarget attr hmem)
  | some target =>
    obtain ⟨otherPlace, other, generated, hother, hcolumn, hname⟩ :=
      Entity.exists_isFirstIdentifier htarget
    obtain rfl := hother.eq h
    refine ⟨target.idKind, Attribute.idKind?_eq_some_iff.mpr ⟨generated, hcolumn⟩, ?_⟩
    rw [← hname, ← Entity.entityName_of_target? htarget, ← Entity.packageName_of_target? htarget]

/-- Entities of one name and package whose first identifiers agree are the same target. -/
theorem FirstIdentifiersAgree.target?_eq {entity other : Entity}
    (h : FirstIdentifiersAgree entity.attributes other.attributes)
    (hname : entity.name = other.name) (hpackage : entity.packageName = other.packageName) :
    entity.target? = other.target? := by
  obtain ⟨place, attr, otherPlace, twin, hfirst, hother, hattr, hkinds⟩ := h
  obtain ⟨kind, hkind, htarget⟩ := Entity.target?_of_isFirstIdentifier hfirst
  obtain ⟨otherKind, hotherKind, hotherTarget⟩ := Entity.target?_of_isFirstIdentifier hother
  obtain rfl : kind = otherKind :=
    Option.some.inj (hkind.symm.trans (hkinds.trans hotherKind))
  rw [htarget, hotherTarget, hname, hpackage, hattr]

/-- Entities of one name that show alike are the same target, or none of them is one. -/
theorem Entity.ShowsAlike.target?_eq {entity other : Entity} (h : entity.ShowsAlike other)
    (hname : entity.name = other.name) : entity.target? = other.target? := by
  rcases h.identifier with ⟨hnone, hotherNone⟩ | hagree
  · rw [Entity.target?_eq_none_iff.mpr hnone, Entity.target?_eq_none_iff.mpr hotherNone]
  · exact hagree.target?_eq hname h.packageName

/-- Entities of one package that are the same target, or none, show alike. -/
theorem Entity.ShowsAlike.of_target?_eq {entity other : Entity}
    (hpackage : entity.packageName = other.packageName)
    (h : entity.target? = other.target?) : entity.ShowsAlike other := by
  refine ⟨hpackage, ?_⟩
  cases htarget : entity.target? with
  | none =>
    exact .inl ⟨Entity.target?_eq_none_iff.mp htarget,
      Entity.target?_eq_none_iff.mp (h ▸ htarget)⟩
  | some target =>
    obtain ⟨place, attr, generated, hfirst, hcolumn, hname⟩ :=
      Entity.exists_isFirstIdentifier htarget
    obtain ⟨otherPlace, twin, otherGenerated, hother, hotherColumn, hotherName⟩ :=
      Entity.exists_isFirstIdentifier (h ▸ htarget)
    refine .inr ⟨place, attr, otherPlace, twin, hfirst, hother, hname.symm.trans hotherName, ?_⟩
    rw [Attribute.idKind?_eq_some_iff.mpr ⟨_, hcolumn⟩,
      Attribute.idKind?_eq_some_iff.mpr ⟨_, hotherColumn⟩]

/-- An edit that relationships do not show keeps the target that an entity is. -/
theorem Entity.HiddenEdit.target?_eq {entity edited : Entity} {target : Target}
    (h : entity.HiddenEdit edited) (htarget : entity.target? = some target) :
    edited.target? = some target := by
  obtain ⟨place, attr, -, hfirst, -⟩ := Entity.exists_isFirstIdentifier htarget
  rw [← htarget]
  exact ((h.identifier place attr hfirst).target?_eq h.name.symm h.packageName.symm).symm

namespace EntitySet

variable {set other : EntitySet} {entity : Entity} {options : Options} {kind : Kind}

/-! ## Look-ups -/

/-- Where two sets agree, a relationship is resolved alike, or fails alike. -/
theorem AgreeAt.resolveTarget_eq {name : String} (h : set.AgreeAt other name)
    (owner attrName : String) :
    set.resolveTarget owner attrName name = other.resolveTarget owner attrName name := by
  rw [EntitySet.resolveTarget_eq, EntitySet.resolveTarget_eq]
  rcases h with ⟨hnone, hotherNone⟩ | ⟨entity, twin, hentity, htwin, halike⟩
  · rw [hnone, hotherNone]
  · have hname : entity.name = twin.name :=
      (get?_eq_some_iff.mp hentity).2.trans (get?_eq_some_iff.mp htwin).2.symm
    rw [hentity, htwin]
    simp only [halike.target?_eq hname]

/-- Sets agree at every name if they differ in one entity only, which is called the same and shows
alike in both. -/
theorem agreeAt_of_showsAlike {before after : List Entity} {entity edited : Entity}
    (hset : set.entities = before ++ entity :: after)
    (hother : other.entities = before ++ edited :: after) (hname : edited.name = entity.name)
    (halike : entity.ShowsAlike edited) (name : String) : set.AgreeAt other name := by
  unfold AgreeAt get?
  rw [hset, hother, List.find?_append, List.find?_append, List.find?_cons, List.find?_cons, hname]
  have hkept : ∀ found : Option Entity, (found = none ∧ found = none) ∨
      ∃ entity twin, found = some entity ∧ found = some twin ∧ entity.ShowsAlike twin := by
    rintro (_ | found)
    · exact .inl ⟨rfl, rfl⟩
    · exact .inr ⟨found, found, rfl, rfl, .of_target?_eq rfl rfl⟩
  cases before.find? fun entity => entity.name == name with
  | some found => exact hkept _
  | none =>
    cases entity.name == name with
    | false => exact hkept _
    | true => exact .inr ⟨entity, edited, rfl, rfl, halike⟩

/-- An attribute is mapped alike in sets that agree where its relationship leads. -/
theorem mapAttribute_congr {attr : Attribute}
    (h : ∀ name, attr.columnType = some (.manyToOne name) → set.AgreeAt other name)
    (owner : String) : set.mapAttribute owner attr = other.mapAttribute owner attr := by
  unfold mapAttribute
  cases hcolumn : attr.columnType with
  | none => rfl
  | some type =>
    cases type with
    | identifier | version | basic => rfl
    | manyToOne name => simp only [(h name hcolumn).resolveTarget_eq]

/-- Sets that agree at all names map an attribute to the same types. -/
theorem MapsTo.of_agreeAt {owner : String} {attr : Attribute} {type : MappedType}
    (h : set.MapsTo owner attr type)
    (hagree : ∀ name, set.AgreeAt other name) : other.MapsTo owner attr type := by
  cases h with
  | identifier hcolumn => exact .identifier hcolumn
  | version hcolumn => exact .version hcolumn
  | basic hcolumn => exact .basic hcolumn
  | manyToOne hcolumn htarget =>
    rw [(hagree _).resolveTarget_eq] at htarget
    exact .manyToOne hcolumn htarget

/-- The attributes of an entity are mapped alike in sets that agree where its relationships lead. -/
theorem mapEntity_congr
    (h : ∀ attr ∈ entity.attributes, ∀ name, attr.columnType = some (.manyToOne name) →
      set.AgreeAt other name) : set.mapEntity entity = other.mapEntity entity := by
  rw [mapEntity_eq_mapM, mapEntity_eq_mapM]
  exact mapM_congr fun attr hattr => mapAttribute_congr (h attr hattr) entity.name

/-- An artifact is rendered alike, defects included, in sets that agree where the relationships of
its entity lead. -/
theorem render_congr
    (h : ∀ attr ∈ entity.attributes, ∀ name, attr.columnType = some (.manyToOne name) →
      set.AgreeAt other name) :
    set.render options entity kind = other.render options entity kind := by
  rw [render_eq, render_eq, mapEntity_congr h]

/-- An entity is rendered alike in sets that agree where its relationships lead. -/
theorem renderEntity_congr
    (h : ∀ attr ∈ entity.attributes, ∀ name, attr.columnType = some (.manyToOne name) →
      set.AgreeAt other name) (options : Options) :
    set.renderEntity options entity = other.renderEntity options entity := by
  rw [renderEntity_eq, renderEntity_eq, mapEntity_congr h]

/-- An artifact that is rendered stays the same in every set that keeps the targets of the set. -/
theorem render_eq_ok_of_targets {artifact : Artifact}
    (htargets : ∀ found ∈ set.entities, ∀ target, found.target? = some target →
      ∃ twin ∈ other.entities, twin.name = found.name ∧ twin.target? = some target)
    (h : set.render options entity kind = .ok artifact) :
    other.render options entity kind = .ok artifact := by
  obtain ⟨attrs, hattrs, rfl⟩ := render_eq_ok_iff.mp h
  have hsame : other.mapEntity entity = .ok attrs := by
    refine mapEntity_eq_ok_iff.mpr ((mapEntity_eq_ok_iff.mp hattrs).imp ?_)
    intro attr mapped hmapped
    obtain ⟨type, rfl, htype⟩ := mapAttribute_eq_ok_iff.mp hmapped
    refine mapAttribute_eq_ok_iff.mpr ⟨type, rfl, ?_⟩
    cases htype with
    | identifier hcolumn => exact .identifier hcolumn
    | version hcolumn => exact .version hcolumn
    | basic hcolumn => exact .basic hcolumn
    | manyToOne hcolumn htarget =>
      obtain ⟨found, hfound, rfl, hresolved⟩ := exists_entity_of_resolveTarget htarget
      obtain ⟨twin, htwin, hname, htwinTarget⟩ := htargets found hfound _ hresolved
      refine .manyToOne hcolumn ?_
      rw [resolveTarget_eq, get?_eq_some_iff.mpr ⟨htwin, hname⟩]
      simp only [htwinTarget]
  exact render_eq_ok_iff.mpr ⟨attrs, hsame, rfl⟩

/-- Rendering reads a set only where the relationships of the entity lead, and there only the
package and the first identifier's name and type: sets that agree in this render the entity alike,
with the same contents or the same defect. So an artifact that is rendered stays the same when
entities are added, and when one is edited in a way that relationships to it do not show. -/
theorem render_reads_only_targets :
    (∀ (set other : EntitySet) (options : Options) (entity : Entity) (kind : Kind),
      (∀ attr ∈ entity.attributes, ∀ name, attr.columnType = some (.manyToOne name) →
        set.AgreeAt other name) →
      set.render options entity kind = other.render options entity kind) ∧
    (∀ (set extended : EntitySet) (options : Options) (entity : Entity) (kind : Kind)
      (artifact : Artifact), (∀ kept ∈ set.entities, kept ∈ extended.entities) →
      set.render options entity kind = .ok artifact →
      extended.render options entity kind = .ok artifact) ∧
    ∀ (set changed : EntitySet) (before after : List Entity) (target edited : Entity)
      (options : Options) (entity : Entity) (kind : Kind) (artifact : Artifact),
      set.entities = before ++ target :: after → changed.entities = before ++ edited :: after →
      target.HiddenEdit edited → set.render options entity kind = .ok artifact →
      changed.render options entity kind = .ok artifact := by
  refine ⟨fun _ _ _ _ _ => render_congr, ?_, ?_⟩
  · intro set extended options entity kind artifact hkept
    exact render_eq_ok_of_targets fun found hfound target htarget =>
      ⟨found, hkept found hfound, rfl, htarget⟩
  · intro set changed before after target edited options entity kind artifact hset hchanged hedit
    refine render_eq_ok_of_targets fun found hfound resolved hresolved => ?_
    rw [hset, List.mem_append, List.mem_cons] at hfound
    rw [hchanged]
    rcases hfound with hbefore | rfl | hafter
    · exact ⟨found, by simp [hbefore], rfl, hresolved⟩
    · exact ⟨edited, by simp, hedit.name, hedit.target?_eq hresolved⟩
    · exact ⟨found, by simp [hafter], rfl, hresolved⟩

/-- A team that was moved to another table. Its first identifier is no longer generated and has a
column name, the second one is gone, and another attribute stands in front. -/
def movedTeam : Entity :=
  { name := "team", packageName := "org", tableName := some "teams",
    attributes :=
      [{ name := "size", columnType := some (.basic .integer), constraints := [.notNull] },
        { name := "Code", columnType := some (.identifier .uuid false), columnName := some "code" },
        { name := "emblem" }] }

/-- The moved team with the member. -/
def movedTeamAndMember : EntitySet where
  entities := movedTeam :: teamAndMember.entities.tail
  names_nodup := by decide
  attributes_nodup := by decide

/-- The moved team shows to relationships what the team does. -/
theorem firstIdentifiersAgree_movedTeam :
    ∃ team others, teamAndMember.entities = team :: others ∧
      movedTeamAndMember.entities = movedTeam :: others ∧ movedTeam.name = team.name ∧
      movedTeam.packageName = team.packageName ∧
      FirstIdentifiersAgree team.attributes movedTeam.attributes := by
  refine ⟨_, _, rfl, rfl, rfl, rfl, ?_⟩
  refine ⟨0, { name := "Code", columnType := some (.identifier .uuid true) }, 1,
    { name := "Code", columnType := some (.identifier .uuid false), columnName := some "code" },
    ⟨rfl, ⟨_, _, rfl⟩, by simp⟩, ⟨rfl, ⟨_, _, rfl⟩, ?_⟩, rfl, rfl⟩
  simp [movedTeam, Attribute.IsIdentifier]

/-- Team and member are rendered alike before and after the team is moved, and also when a coach is
added in front. -/
theorem render_reads_only_targets_teamAndMember :
    ∀ entity ∈ teamAndMember.entities, ∀ kind, ∃ artifact,
      teamAndMember.render {} entity kind = .ok artifact ∧
      movedTeamAndMember.render {} entity kind = teamAndMember.render {} entity kind ∧
      movedTeamAndMember.render {} entity kind = .ok artifact ∧
      ∀ extended : EntitySet, extended.entities = { name := "coach" } :: teamAndMember.entities →
        extended.render {} entity kind = .ok artifact := by
  obtain ⟨hcongr, hextend, hedit⟩ := render_reads_only_targets
  obtain ⟨team, others, hteam, hmoved, hname, hpackage, hagree⟩ := firstIdentifiersAgree_movedTeam
  rw [← List.nil_append (team :: others)] at hteam
  rw [← List.nil_append (movedTeam :: others)] at hmoved
  intro entity hentity kind
  obtain ⟨artifacts, hrender⟩ := teamAndMember.exists_renderAll
  obtain ⟨attrs, hattrs, -⟩ := exists_generates rfl hrender hentity
  have hartifact : teamAndMember.render {} entity kind = .ok (entity.artifact {} attrs kind) := by
    rw [render_eq, hattrs]
    rfl
  refine ⟨_, hartifact, Eq.symm ?_, ?_, fun extended hextended => ?_⟩
  · exact hcongr _ _ _ _ _ fun _ _ name _ =>
      agreeAt_of_showsAlike hteam hmoved hname ⟨hpackage.symm, .inr hagree⟩ name
  · exact hedit _ _ [] others team movedTeam _ _ _ _ hteam hmoved
      ⟨hname, hpackage, fun _ _ _ => hagree⟩ hartifact
  · refine hextend _ _ _ _ _ _ (fun kept hkept => ?_) hartifact
    rw [hextended]
    exact List.mem_cons_of_mem _ hkept

end EntitySet

end PersistenceLayer
