import Mathlib.Data.List.Perm.Basic
import PersistenceLayer.Proofs.Locality

/-!
# The order of attributes

Each line of an artifact that speaks of attributes speaks of one of them, and the
imports are a set. So attributes can be reordered without any change but to the
order of lines behind the prelude, as long as identifiers keep their order: the
first of them is what relationships lead to.
-/

namespace PersistenceLayer

/-- Whether attributes are the given ones in another order, in which identifiers keep their own. -/
structure Reorders (attributes others : List Attribute) : Prop where
  perm : attributes.Perm others
  identifiers : (attributes.filter fun attr => attr.idKind?.isSome) =
    others.filter fun attr => attr.idKind?.isSome

/-! ## Bodies -/

/-- A body over reordered attributes has the same lines. -/
theorem Kind.body_perm (kind : Kind) (options : Options) (entity : Entity)
    {attrs others : List MappedAttribute} (h : attrs.Perm others) :
    (kind.body options entity attrs).Perm (kind.body options entity others) := by
  cases kind with
  | contract => exact (((h.map _).flatMap_right _).append_left _).append_right _
  | dataHolder => exact (((h.map _).flatMap_right _).append_left _).append_right _
  | metamodel => exact (((h.map _).flatMap_right _).append_left _).append_right _
  | persisted => exact (((h.map _).flatMap_right _).append_left _).append_right _
  | vocabulary =>
    have hclass (name : String) {inner lines : List String} (hlines : inner.Perm lines) :
        (Vocabulary.sealedClass name inner).Perm (Vocabulary.sealedClass name lines) :=
      (hlines.append_left _).append_right _
    exact (hclass _ ((h.map _).flatMap_right _)).append (hclass _ ((h.map _).flatMap_right _))
  | extension =>
    have hcriterion (receiver name result : String) {branches lines : List String}
        (hlines : branches.Perm lines) :
        (Extension.criterionFunction entity.name receiver name result branches).Perm
          (Extension.criterionFunction entity.name receiver name result lines) :=
      (hlines.append_left _).append_right _
    have hentityCopy (mode : CopyMode) :
        (Extension.entityCopyFunction entity.name mode
            (Extension.entityAssignments mode attrs)).Perm
          (Extension.entityCopyFunction entity.name mode
            (Extension.entityAssignments mode others)) :=
      ((((h.filter _).map _).flatMap_right _).append_left _).append_right _
    have hdataCopy : (Extension.dataCopyFunction entity.name (Extension.dataAssignments attrs)).Perm
        (Extension.dataCopyFunction entity.name (Extension.dataAssignments others)) :=
      (((h.map _).map _).append_left _).append_right _
    have horders := hcriterion (Naming.orderType entity.name) "toOrder" "Order"
      ((h.flatMap_right (MappedAttribute.orderBranches entity.name)).map
        (OrderBranch.line entity.name))
    have hpredicates := hcriterion (Naming.predicateType entity.name) "toPredicate" "Predicate"
      ((h.flatMap_right (MappedAttribute.predicateBranches entity.name)).map
        (PredicateBranch.line entity.name))
    exact (((((horders.append hpredicates).append_right _).append_right _).append
      (hentityCopy .insertable)).append (hentityCopy .updatable)).append hdataCopy

/-- A file over reordered attributes has the same prelude. -/
theorem Kind.preludeLines_eq (kind : Kind) (options : Options) (entity : Entity)
    {attrs others : List MappedAttribute} (h : attrs.Perm others) :
    SourceFile.preludeLines entity.packageName (kind.sourceFile options entity attrs).imports
        kind.language =
      SourceFile.preludeLines entity.packageName (kind.sourceFile options entity others).imports
        kind.language := by
  have hnames : (kind.importedNames options entity.packageName attrs).Perm
      (kind.importedNames options entity.packageName others) :=
    (h.flatMap_right _).append_left _
  have himports : (kind.sourceFile options entity attrs).imports =
      (kind.sourceFile options entity others).imports :=
    Text.LineSet.eq_of_mem_iff fun line => by
      simp only [sourceFile, SourceFile.ofEntity, Text.LineSet.mem_ofList, (hnames.map _).mem_iff]
  rw [himports]

/-- A file over reordered attributes has the same lines. -/
theorem Kind.splitAt_text_perm (kind : Kind) (options : Options) (entity : Entity)
    {attrs others : List MappedAttribute} (h : attrs.Perm others) :
    (Text.splitAt '\n' (kind.sourceFile options entity attrs).text).Perm
      (Text.splitAt '\n' (kind.sourceFile options entity others).text) := by
  have hlines : (kind.sourceFile options entity attrs).lines.Perm
      (kind.sourceFile options entity others).lines :=
    (List.Perm.of_eq (kind.preludeLines_eq options entity h)).append
      (kind.body_perm options entity h)
  rw [SourceFile.text, SourceFile.text, SourceFile.splitAt_unlines, SourceFile.splitAt_unlines]
  exact (hlines.flatMap_right _).append_right _

/-! ## Sets that differ in the order of an entity's attributes -/

/-- An entity with other attributes. -/
def Entity.withAttributes (entity : Entity) (attributes : List Attribute) : Entity :=
  { entity with attributes := attributes }

/-- The first identifier is the first one among the identifiers alone. -/
theorem Entity.identifier?_eq_findSome? (entity : Entity) :
    entity.identifier? =
      (entity.attributes.filter fun attr => attr.idKind?.isSome).findSome? fun attr =>
        attr.idKind?.map fun kind => (attr, kind) := by
  rw [identifier?, ← List.head?_filterMap, ← List.head?_filterMap, List.filterMap_filter]
  refine congrArg (fun f => (entity.attributes.filterMap f).head?) (funext fun attr => ?_)
  cases attr.idKind? <;> rfl

/-- An entity shows to relationships what it shows with reordered attributes. -/
theorem Reorders.showsAlike {entity : Entity} {attributes : List Attribute}
    (h : Reorders attributes entity.attributes) :
    entity.ShowsAlike (entity.withAttributes attributes) :=
  .of_target?_eq rfl <| by
    rw [Entity.target?, Entity.target?, Entity.identifier?_eq_findSome?,
      Entity.identifier?_eq_findSome?, Entity.withAttributes, h.identifiers]

/-- What becomes of an artifact when an entity of a set is changed. Those of other entities stay as
they are; those of the entity itself keep their prelude and their lines. -/
structure EntitySet.Rearranges (set changed : EntitySet) (options : Options)
    (entity edited : Entity) (artifact other : Artifact) : Prop where
  entity_eq : other.entity = artifact.entity
  kind_eq : other.kind = artifact.kind
  path_eq : other.path = artifact.path
  others : artifact.entity ≠ entity.name → other = artifact
  own : artifact.entity = entity.name → ∃ file otherFile,
    set.emit options entity artifact.kind = .ok file ∧
      changed.emit options edited artifact.kind = .ok otherFile ∧
      otherFile.prelude = file.prelude ∧
      artifact.contents = file.prelude ++ SourceFile.unlines file.body ∧
      other.contents = file.prelude ++ SourceFile.unlines otherFile.body ∧
      (Text.splitAt '\n' artifact.contents).Perm (Text.splitAt '\n' other.contents)

namespace EntitySet

variable {set changed : EntitySet} {options : Options} {entity : Entity}
  {before after : List Entity} {attributes : List Attribute}

/-- Reordered attributes are mapped alike, in their own order. -/
theorem exists_mapEntity_of_reorders {attrs : List MappedAttribute}
    (hagree : ∀ name, set.AgreeAt changed name)
    (horder : Reorders attributes entity.attributes) (h : set.mapEntity entity = .ok attrs) :
    ∃ others, changed.mapEntity (entity.withAttributes attributes) = .ok others ∧
      attrs.Perm others := by
  have hforall := mapEntity_eq_ok_iff.mp h
  obtain ⟨others, hothers, hperm⟩ := List.perm_comp_forall₂ horder.perm hforall
  refine ⟨others, mapEntity_eq_ok_iff.mpr (hothers.imp fun attr mapped hmapped => ?_), hperm.symm⟩
  rw [← hmapped]
  exact (mapAttribute_congr (fun name _ => hagree name) _).symm

/-- The artifacts of an entity over reordered attributes are rearranged. -/
theorem rearranges_artifact {attrs others : List MappedAttribute}
    (h : set.mapEntity entity = .ok attrs)
    (hothers : changed.mapEntity (entity.withAttributes attributes) = .ok others)
    (horder : attrs.Perm others) (kind : Kind) :
    set.Rearranges changed options entity (entity.withAttributes attributes)
      (entity.artifact options attrs kind)
      ((entity.withAttributes attributes).artifact options others kind) where
  entity_eq := rfl
  kind_eq := rfl
  path_eq := rfl
  others := fun hne => absurd rfl hne
  own := by
    intro _
    have hprelude : (kind.sourceFile options entity others).prelude =
        (kind.sourceFile options entity attrs).prelude :=
      congrArg SourceFile.unlines (kind.preludeLines_eq options entity horder).symm
    refine ⟨kind.sourceFile options entity attrs, kind.sourceFile options entity others,
      emit_of_mapEntity h options kind, emit_of_mapEntity hothers options kind, hprelude,
      SourceFile.text_eq _, ?_, kind.splitAt_text_perm options entity horder⟩
    rw [← hprelude]
    exact SourceFile.text_eq _

/-- The artifacts of an entity are rearranged when its attributes are reordered. -/
theorem exists_renderEntity_of_reorders {rendered : List Artifact}
    (hagree : ∀ name, set.AgreeAt changed name) (horder : Reorders attributes entity.attributes)
    (h : set.renderEntity options entity = .ok rendered) :
    ∃ others, changed.renderEntity options (entity.withAttributes attributes) = .ok others ∧
      List.Forall₂ (set.Rearranges changed options entity (entity.withAttributes attributes))
        rendered others := by
  obtain ⟨attrs, hattrs, rfl⟩ := renderEntity_eq_ok_iff.mp h
  obtain ⟨others, hothers, hperm⟩ := exists_mapEntity_of_reorders hagree horder hattrs
  refine ⟨_, renderEntity_eq_ok_iff.mpr ⟨others, hothers, rfl⟩, ?_⟩
  rw [List.forall₂_map_left_iff, List.forall₂_map_right_iff, List.forall₂_same]
  exact fun kind _ => rearranges_artifact hattrs hothers hperm kind

/-- The artifacts of other entities stay as they are when an entity is changed that shows alike. -/
theorem renderEntity_of_agree {other edited : Entity} {rendered : List Artifact}
    (hagree : ∀ name, set.AgreeAt changed name) (hother : other.name ≠ entity.name)
    (h : set.renderEntity options other = .ok rendered) :
    changed.renderEntity options other = .ok rendered ∧
      List.Forall₂ (set.Rearranges changed options entity edited) rendered rendered := by
  have hsame : set.renderEntity options other = changed.renderEntity options other :=
    renderEntity_congr (fun _ _ name _ => hagree name) options
  refine ⟨hsame ▸ h, List.forall₂_same.mpr fun artifact hmem => ?_⟩
  obtain ⟨attrs, -, rfl⟩ := renderEntity_eq_ok_iff.mp h
  obtain ⟨kind, -, rfl⟩ := List.mem_map.mp hmem
  exact ⟨rfl, rfl, rfl, fun _ => rfl, fun heq => absurd heq hother⟩

/-- A set is a set also with other attributes of one entity, if their names are different. -/
theorem exists_withAttributes (hset : set.entities = before ++ entity :: after)
    (hnodup : (attributes.map Attribute.name).Nodup) :
    ∃ changed : EntitySet,
      changed.entities = before ++ entity.withAttributes attributes :: after := by
  have hnames : (before ++ entity.withAttributes attributes :: after).map Entity.name =
      set.entities.map Entity.name := by
    rw [hset, List.map_append, List.map_append]
    rfl
  refine ⟨⟨_, hnames ▸ set.names_nodup, fun other hother => ?_⟩, rfl⟩
  have hkept : ∀ kept, kept ∈ before ∨ kept ∈ after → kept.attributeNames.Nodup :=
    fun kept hkept => set.attributes_nodup kept (by
      rw [hset]
      rcases hkept with hmem | hmem <;> simp [hmem])
  rcases List.mem_append.mp hother with hmem | hmem
  · exact hkept other (.inl hmem)
  · rcases List.mem_cons.mp hmem with rfl | hmem
    · exact hnodup
    · exact hkept other (.inr hmem)

/-- Whether two entities stand at the same place before and after an entity is replaced. -/
def IsReplaced (entity edited first second : Entity) : Prop :=
  first = entity ∧ second = edited ∨ first = second ∧ second.name ≠ entity.name

/-- Replacing an entity of a set keeps every other one. -/
theorem forall₂_isReplaced {edited : Entity} (hset : set.entities = before ++ entity :: after)
    (hchanged : changed.entities = before ++ edited :: after) :
    List.Forall₂ (IsReplaced entity edited) set.entities changed.entities := by
  have hnames := set.names_nodup
  rw [hset, List.map_append, List.map_cons, List.nodup_append, List.nodup_cons] at hnames
  obtain ⟨-, ⟨hafter, -⟩, hbefore⟩ := hnames
  have hkept : ∀ others : List Entity, (∀ other ∈ others, other.name ≠ entity.name) →
      List.Forall₂ (IsReplaced entity edited) others others :=
    fun others hne => List.forall₂_same.mpr fun other hmem => .inr ⟨rfl, hne other hmem⟩
  rw [hset, hchanged]
  refine List.rel_append (hkept before ?_) (.cons (.inl ⟨rfl, rfl⟩) (hkept after ?_))
  · exact fun other hmem => hbefore _ (List.mem_map_of_mem hmem) _ List.mem_cons_self
  · exact fun other hmem hname => hafter (hname ▸ List.mem_map_of_mem hmem)

/-- Reordering the attributes of an entity, except for its identifiers, keeps a run in memory: it
succeeds with the same artifacts for every other entity, and with artifacts of this one that have
the same prelude and the same lines. -/
theorem renderAll_reorders {artifacts : List Artifact}
    (hset : set.entities = before ++ entity :: after)
    (horder : Reorders attributes entity.attributes) (h : set.renderAll options = .ok artifacts) :
    ∃ changed rearranged,
      ofEntities (before ++ entity.withAttributes attributes :: after) = .ok changed ∧
        changed.renderAll options = .ok rearranged ∧
        List.Forall₂ (set.Rearranges changed options entity (entity.withAttributes attributes))
          artifacts rearranged := by
  have hattributes : (attributes.map Attribute.name).Nodup :=
    (horder.perm.map Attribute.name).nodup_iff.mpr (set.attributes_nodup entity (by simp [hset]))
  obtain ⟨changed, hchanged⟩ := exists_withAttributes hset hattributes
  obtain ⟨rendered, hrendered, rfl, hnodup, hfree⟩ := renderFrom_eq_ok_iff.mp h
  have hagree : ∀ name, set.AgreeAt changed name :=
    agreeAt_of_showsAlike hset hchanged rfl horder.showsAlike
  have hrearranged : ∀ first second rendered,
      IsReplaced entity (entity.withAttributes attributes) first second →
      set.renderEntity options first = .ok rendered →
      ∃ others, changed.renderEntity options second = .ok others ∧
        List.Forall₂ (set.Rearranges changed options entity (entity.withAttributes attributes))
          rendered others := by
    intro first second rendered hpair hrender
    rcases hpair with ⟨rfl, rfl⟩ | ⟨rfl, hne⟩
    · exact exists_renderEntity_of_reorders hagree horder hrender
    · exact ⟨rendered, renderEntity_of_agree hagree hne hrender⟩
  obtain ⟨others, hothers, hrelated⟩ :=
    exists_mapM_of_forall₂ hrearranged (forall₂_isReplaced hset hchanged) hrendered
  have hforall := List.rel_flatten hrelated
  have hclaims : claimsOf others.flatten = claimsOf rendered.flatten := by
    have hsame : List.Forall₂ Eq (claimsOf rendered.flatten) (claimsOf others.flatten) := by
      rw [claimsOf, claimsOf, List.forall₂_map_left_iff, List.forall₂_map_right_iff]
      exact hforall.imp fun first second hpair => congrArg Path.components hpair.path_eq.symm
    exact (List.forall₂_eq_eq_eq ▸ hsame : claimsOf rendered.flatten = _).symm
  refine ⟨changed, others.flatten, hchanged ▸ ofEntities_entities changed, ?_, hforall⟩
  exact renderFrom_eq_ok_iff.mpr ⟨others, hothers, rfl, hclaims ▸ hnodup, hclaims ▸ hfree⟩

/-- The member refers to its own kind, and its attributes can be listed backwards. -/
theorem renderAll_reorders_teamAndMember :
    ∃ team member artifacts, teamAndMember.entities = [team, member] ∧
      teamAndMember.renderAll {} = .ok artifacts ∧
      Reorders member.attributes.reverse member.attributes ∧
      ∃ changed rearranged,
        ofEntities [team, member.withAttributes member.attributes.reverse] = .ok changed ∧
          changed.renderAll {} = .ok rearranged ∧
          List.Forall₂ (teamAndMember.Rearranges changed {} member
            (member.withAttributes member.attributes.reverse)) artifacts rearranged := by
  obtain ⟨artifacts, hrender⟩ := teamAndMember.exists_renderAll
  have horder : ∀ team member, teamAndMember.entities = [team, member] →
      Reorders member.attributes.reverse member.attributes := by
    intro team member hentities
    refine ⟨List.reverse_perm _, ?_⟩
    obtain ⟨-, hothers⟩ := List.cons.inj hentities
    obtain ⟨rfl, -⟩ := List.cons.inj hothers
    rfl
  obtain ⟨team, member, hentities⟩ : ∃ team member, teamAndMember.entities = [team, member] :=
    ⟨_, _, rfl⟩
  have hsplit : teamAndMember.entities = [team] ++ member :: [] := hentities
  exact ⟨team, member, artifacts, hentities, hrender, horder _ _ hentities,
    renderAll_reorders hsplit (horder _ _ hentities) hrender⟩

end EntitySet

end PersistenceLayer
