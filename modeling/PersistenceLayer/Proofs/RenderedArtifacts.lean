import PersistenceLayer.Proofs.Emission
import PersistenceLayer.Proofs.PathComponents
import PersistenceLayer.Run.Writing

/-!
# Artifacts of a rendered run

An entity is rendered as soon as its attributes are mapped, so a run in memory
fails at a defect of the mapping or at a path that is claimed twice, and never
anywhere else. A run over some entities goes on with the others from the paths
that it has claimed.
-/

namespace PersistenceLayer

namespace EntitySet

variable {set : EntitySet} {options : Options} {entity : Entity}

/-- Every file of an entity whose attributes are mapped is emitted. -/
theorem emit_of_mapEntity {attrs : List MappedAttribute} (h : set.mapEntity entity = .ok attrs)
    (options : Options) (kind : Kind) :
    set.emit options entity kind = .ok (kind.sourceFile options entity attrs) := by
  rw [emit_eq, h]
  rfl

/-- Nothing but mapping the attributes of an entity can keep an artifact from being rendered. -/
theorem render_eq (set : EntitySet) (options : Options) (entity : Entity) (kind : Kind) :
    set.render options entity kind =
      (set.mapEntity entity).map fun attrs => entity.artifact options attrs kind := by
  rw [render, emit_eq]
  cases set.mapEntity entity <;> rfl

/-- An artifact is rendered from the mapped attributes of its entity. -/
theorem render_eq_ok_iff {kind : Kind} {artifact : Artifact} :
    set.render options entity kind = .ok artifact ↔
      ∃ attrs, set.mapEntity entity = .ok attrs ∧ artifact = entity.artifact options attrs kind := by
  rw [render_eq]
  cases set.mapEntity entity <;> simp [Except.map, eq_comm]

/-- Nothing but mapping the attributes of an entity can keep it from being rendered. -/
theorem renderEntity_eq (set : EntitySet) (options : Options) (entity : Entity) :
    set.renderEntity options entity = (set.mapEntity entity).map fun attrs =>
      (Kind.ofOptions options).map (entity.artifact options attrs) := by
  rw [renderEntity, funext (set.render_eq options entity)]
  cases set.mapEntity entity with
  | error cause =>
    unfold Kind.ofOptions
    split <;> rfl
  | ok attrs => exact List.mapM_pure

/-- The artifacts of an entity are those of its mapped attributes, one for each kind that a run
generates. -/
theorem renderEntity_eq_ok_iff {artifacts : List Artifact} :
    set.renderEntity options entity = .ok artifacts ↔
      ∃ attrs, set.mapEntity entity = .ok attrs ∧
        artifacts = (Kind.ofOptions options).map (entity.artifact options attrs) := by
  rw [renderEntity_eq]
  cases set.mapEntity entity <;> simp [Except.map, eq_comm]

/-- The artifacts of an entity have the paths of the kinds that a run generates. -/
theorem exists_kind_of_mem_renderEntity {artifacts : List Artifact} {artifact : Artifact}
    (h : set.renderEntity options entity = .ok artifacts) (hmem : artifact ∈ artifacts) :
    ∃ kind ∈ Kind.ofOptions options,
      artifact.path = kind.relativePath entity.name entity.packageName := by
  obtain ⟨attrs, -, rfl⟩ := renderEntity_eq_ok_iff.mp h
  obtain ⟨kind, hkind, rfl⟩ := List.mem_map.mp hmem
  exact ⟨kind, hkind, rfl⟩

end EntitySet

/-! ## Claimed paths -/

/-- The components of the paths of some artifacts, as they are claimed. -/
def claimsOf (artifacts : List Artifact) : ClaimedPaths :=
  artifacts.map (·.path.components)

/-- Artifacts that are added later are claimed in front of the others. -/
theorem reverse_claimsOf_append (first others : List Artifact) :
    (claimsOf (first ++ others)).reverse = (claimsOf others).reverse ++ (claimsOf first).reverse := by
  rw [claimsOf, List.map_append, List.reverse_append]
  rfl

/-- Paths that can be claimed one after the other are different and were not claimed before. -/
theorem claimPaths_eq_ok {claimed claimed' : ClaimedPaths} {artifacts : List Artifact}
    (h : claimPaths claimed artifacts = .ok claimed') :
    claimed' = (claimsOf artifacts).reverse ++ claimed ∧ (claimsOf artifacts).Nodup ∧
      ∀ components ∈ claimsOf artifacts, components ∉ claimed := by
  induction artifacts generalizing claimed with
  | nil =>
    cases h
    exact ⟨rfl, .nil, by simp [claimsOf]⟩
  | cons artifact artifacts ih =>
    rw [claimPaths] at h
    split at h
    · cases h
    · next hnew =>
      obtain ⟨hclaimed, hnodup, hfree⟩ := ih h
      refine ⟨by simp [hclaimed, claimsOf], ?_, ?_⟩
      · refine List.nodup_cons.mpr ⟨fun hmem => ?_, hnodup⟩
        exact hfree _ hmem List.mem_cons_self
      · intro components hmem
        rcases List.mem_cons.mp hmem with rfl | hmem
        · exact hnew
        · exact fun hclaimed => hfree _ hmem (List.mem_cons_of_mem _ hclaimed)

/-- Different paths that were not claimed before can be claimed. -/
theorem claimPaths_of_nodup {claimed : ClaimedPaths} {artifacts : List Artifact}
    (hnodup : (claimsOf artifacts).Nodup)
    (hfree : ∀ components ∈ claimsOf artifacts, components ∉ claimed) :
    claimPaths claimed artifacts = .ok ((claimsOf artifacts).reverse ++ claimed) := by
  induction artifacts generalizing claimed with
  | nil => rfl
  | cons artifact artifacts ih =>
    obtain ⟨hartifact, hnodup⟩ := List.nodup_cons.mp hnodup
    obtain ⟨hnew, hfree⟩ := List.forall_mem_cons.mp hfree
    rw [claimPaths, if_neg hnew, ih hnodup]
    · simp [claimsOf]
    · intro components hmem hclaimed
      rcases List.mem_cons.mp hclaimed with rfl | hclaimed
      · exact hartifact hmem
      · exact hfree components hmem hclaimed

/-- Claiming paths fails only at a path that is claimed already. -/
theorem claimPaths_eq_error {claimed : ClaimedPaths} {artifacts : List Artifact} {failure : Failure}
    (h : claimPaths claimed artifacts = .error failure) :
    ∃ path, failure = .collision path := by
  induction artifacts generalizing claimed with
  | nil => cases h
  | cons artifact artifacts ih =>
    rw [claimPaths] at h
    split at h
    · exact ⟨artifact.path, (Except.error.inj h).symm⟩
    · exact ih h

/-! ## Runs in memory -/

namespace EntitySet

variable {set : EntitySet} {options : Options}

/-- An entity is prepared if it can be rendered and its paths be claimed. -/
theorem prepare_eq_ok {claimed claimed' : ClaimedPaths} {entity : Entity}
    {artifacts : List Artifact}
    (h : Storage.prepare set options claimed entity = .ok (artifacts, claimed')) :
    set.renderEntity options entity = .ok artifacts ∧
      claimed' = (claimsOf artifacts).reverse ++ claimed ∧ (claimsOf artifacts).Nodup ∧
      ∀ components ∈ claimsOf artifacts, components ∉ claimed := by
  unfold Storage.prepare at h
  cases hrender : set.renderEntity options entity with
  | error cause =>
    rw [hrender] at h
    cases h
  | ok rendered =>
    simp only [hrender, Failure.ofDefect, bind, Except.bind] at h
    cases hclaim : claimPaths claimed rendered with
    | error failure =>
      rw [hclaim] at h
      cases h
    | ok claims =>
      rw [hclaim] at h
      cases h
      exact ⟨rfl, claimPaths_eq_ok hclaim⟩

/-- A run in memory prepares the same entities as a run that writes. -/
theorem renderFrom_cons (set : EntitySet) (options : Options) (claimed : ClaimedPaths)
    (entity : Entity) (entities : List Entity) :
    set.renderFrom options claimed (entity :: entities) =
      match Storage.prepare set options claimed entity with
      | .error failure => .error failure
      | .ok (artifacts, claimed) =>
        (set.renderFrom options claimed entities).map (artifacts ++ ·) := by
  rw [renderFrom, Storage.prepare]
  cases set.renderEntity options entity with
  | error cause => rfl
  | ok artifacts =>
    simp only [Failure.ofDefect, bind, Except.bind]
    cases claimPaths claimed artifacts with
    | error failure => rfl
    | ok claimed => rfl

/-- A run in memory that succeeds has prepared its first entity. -/
theorem renderFrom_cons_eq_ok {claimed : ClaimedPaths} {entity : Entity} {entities : List Entity}
    {all : List Artifact} (h : set.renderFrom options claimed (entity :: entities) = .ok all) :
    ∃ artifacts others,
      Storage.prepare set options claimed entity =
        .ok (artifacts, (claimsOf artifacts).reverse ++ claimed) ∧
      set.renderFrom options ((claimsOf artifacts).reverse ++ claimed) entities = .ok others ∧
      all = artifacts ++ others := by
  rw [renderFrom_cons] at h
  cases hprepare : Storage.prepare set options claimed entity with
  | error failure =>
    rw [hprepare] at h
    cases h
  | ok prepared =>
    obtain ⟨artifacts, claimed'⟩ := prepared
    obtain ⟨-, rfl, -⟩ := prepare_eq_ok hprepare
    rw [hprepare] at h
    cases hrest : set.renderFrom options ((claimsOf artifacts).reverse ++ claimed) entities with
    | error failure =>
      simp only [hrest] at h
      cases h
    | ok others =>
      simp only [hrest] at h
      exact ⟨artifacts, others, rfl, hrest, (Except.ok.inj h).symm⟩

/-- A run goes on with the paths that its first entities have claimed. -/
theorem renderFrom_append {claimed : ClaimedPaths} {before : List Entity}
    {artifacts : List Artifact}
    (h : set.renderFrom options claimed before = .ok artifacts) (rest : List Entity) :
    set.renderFrom options claimed (before ++ rest) =
      (set.renderFrom options ((claimsOf artifacts).reverse ++ claimed) rest).map
        (artifacts ++ ·) := by
  induction before generalizing claimed artifacts with
  | nil =>
    cases h
    cases hrest : set.renderFrom options claimed rest <;> simp [claimsOf, hrest, Except.map]
  | cons entity entities ih =>
    obtain ⟨first, others, hprepare, hothers, rfl⟩ := renderFrom_cons_eq_ok h
    rw [List.cons_append, renderFrom_cons, hprepare]
    simp only [ih hothers]
    rw [reverse_claimsOf_append, List.append_assoc]
    cases set.renderFrom options
      ((claimsOf others).reverse ++ ((claimsOf first).reverse ++ claimed)) rest <;>
      simp [Except.map]

/-- A run in memory whose first entities fail fails in the same way. -/
theorem renderFrom_append_of_error {claimed : ClaimedPaths} {before : List Entity}
    {failure : Failure} (h : set.renderFrom options claimed before = .error failure)
    (rest : List Entity) : set.renderFrom options claimed (before ++ rest) = .error failure := by
  induction before generalizing claimed with
  | nil => cases h
  | cons entity entities ih =>
    rw [renderFrom_cons] at h
    rw [List.cons_append, renderFrom_cons]
    cases hprepare : Storage.prepare set options claimed entity with
    | error cause =>
      rw [hprepare] at h
      exact h
    | ok prepared =>
      obtain ⟨artifacts, claimed'⟩ := prepared
      simp only [hprepare] at h
      cases hrest : set.renderFrom options claimed' entities with
      | ok others =>
        rw [hrest] at h
        cases h
      | error cause =>
        rw [hrest] at h
        obtain rfl : cause = failure := Except.error.inj h
        simp only [ih hrest]
        rfl

/-- The artifacts of a run in memory are those of its entities. -/
theorem exists_entity_of_mem_renderFrom {claimed : ClaimedPaths} {entities : List Entity}
    {artifacts : List Artifact} (h : set.renderFrom options claimed entities = .ok artifacts)
    {artifact : Artifact} (hmem : artifact ∈ artifacts) :
    ∃ entity ∈ entities, ∃ rendered, set.renderEntity options entity = .ok rendered ∧
      artifact ∈ rendered := by
  induction entities generalizing claimed artifacts with
  | nil =>
    cases h
    cases hmem
  | cons entity entities ih =>
    obtain ⟨first, others, hprepare, hothers, rfl⟩ := renderFrom_cons_eq_ok h
    rcases List.mem_append.mp hmem with hmem | hmem
    · exact ⟨entity, List.mem_cons_self, first, (prepare_eq_ok hprepare).1, hmem⟩
    · obtain ⟨entity, hentity, hrendered⟩ := ih hothers hmem
      exact ⟨entity, List.mem_cons_of_mem _ hentity, hrendered⟩

/-- A run in memory renders each of its entities. -/
theorem exists_rendered_of_mem {claimed : ClaimedPaths} {entities : List Entity}
    {artifacts : List Artifact} (h : set.renderFrom options claimed entities = .ok artifacts)
    {entity : Entity} (hmem : entity ∈ entities) :
    ∃ rendered, set.renderEntity options entity = .ok rendered ∧
      ∀ artifact ∈ rendered, artifact ∈ artifacts := by
  induction entities generalizing claimed artifacts with
  | nil => cases hmem
  | cons first entities ih =>
    obtain ⟨rendered, others, hprepare, hothers, rfl⟩ := renderFrom_cons_eq_ok h
    rcases List.mem_cons.mp hmem with rfl | hmem
    · exact ⟨rendered, (prepare_eq_ok hprepare).1, fun _ => List.mem_append_left _⟩
    · obtain ⟨later, hlater, hmem⟩ := ih hothers hmem
      exact ⟨later, hlater, fun artifact h => List.mem_append_right _ (hmem artifact h)⟩

/-- A run in memory claims paths that are not claimed yet. -/
theorem claimsOf_disjoint_of_renderFrom {claimed : ClaimedPaths} {entities : List Entity}
    {artifacts : List Artifact} (h : set.renderFrom options claimed entities = .ok artifacts) :
    ∀ components ∈ claimsOf artifacts, components ∉ claimed := by
  induction entities generalizing claimed artifacts with
  | nil =>
    cases h
    simp [claimsOf]
  | cons entity entities ih =>
    obtain ⟨first, others, hprepare, hothers, rfl⟩ := renderFrom_cons_eq_ok h
    intro components hmem
    rw [claimsOf, List.map_append] at hmem
    rcases List.mem_append.mp hmem with hmem | hmem
    · exact (prepare_eq_ok hprepare).2.2.2 components hmem
    · exact fun hclaimed => ih hothers components hmem (List.mem_append_right _ hclaimed)

/-- A run in memory claims each of its paths once. -/
theorem nodup_claimsOf_of_renderFrom {claimed : ClaimedPaths} {entities : List Entity}
    {artifacts : List Artifact} (h : set.renderFrom options claimed entities = .ok artifacts) :
    (claimsOf artifacts).Nodup := by
  induction entities generalizing claimed artifacts with
  | nil =>
    cases h
    exact .nil
  | cons entity entities ih =>
    obtain ⟨first, others, hprepare, hothers, rfl⟩ := renderFrom_cons_eq_ok h
    rw [claimsOf, List.map_append]
    refine List.nodup_append'.mpr ⟨(prepare_eq_ok hprepare).2.2.1, ih hothers, ?_⟩
    intro components hfirst hother
    exact claimsOf_disjoint_of_renderFrom hothers components hother
      (List.mem_append_left _ (List.mem_reverse.mpr hfirst))

/-- A run in memory renders its entities one after the other, and succeeds if all their paths are
different and none of them is claimed already. -/
theorem renderFrom_eq_ok_iff {claimed : ClaimedPaths} {entities : List Entity}
    {artifacts : List Artifact} :
    set.renderFrom options claimed entities = .ok artifacts ↔
      ∃ rendered, entities.mapM (set.renderEntity options) = .ok rendered ∧
        artifacts = rendered.flatten ∧ (claimsOf artifacts).Nodup ∧
        ∀ components ∈ claimsOf artifacts, components ∉ claimed := by
  constructor
  · intro h
    have hrendered : ∃ rendered, entities.mapM (set.renderEntity options) = .ok rendered ∧
        artifacts = rendered.flatten := by
      induction entities generalizing claimed artifacts with
      | nil =>
        cases h
        exact ⟨[], rfl, rfl⟩
      | cons entity entities ih =>
        obtain ⟨first, others, hprepare, hothers, rfl⟩ := renderFrom_cons_eq_ok h
        obtain ⟨rendered, hrendered, rfl⟩ := ih hothers
        refine ⟨first :: rendered, ?_, rfl⟩
        rw [List.mapM_cons, (prepare_eq_ok hprepare).1, hrendered]
        rfl
    obtain ⟨rendered, hrendered, hartifacts⟩ := hrendered
    exact ⟨rendered, hrendered, hartifacts, nodup_claimsOf_of_renderFrom h,
      claimsOf_disjoint_of_renderFrom h⟩
  · rintro ⟨rendered, hrendered, rfl, hnodup, hfree⟩
    rw [mapM_eq_ok_iff] at hrendered
    induction hrendered generalizing claimed with
    | nil => rfl
    | @cons entity first entities rendered hfirst _ ih =>
      rw [List.flatten_cons, claimsOf, List.map_append, ← claimsOf, ← claimsOf] at hnodup hfree
      obtain ⟨hnodupFirst, hnodupOthers, hdisjoint⟩ := List.nodup_append'.mp hnodup
      obtain ⟨hfreeFirst, hfreeOthers⟩ := List.forall_mem_append.mp hfree
      rw [renderFrom_cons, Storage.prepare, hfirst]
      simp only [Failure.ofDefect, bind, Except.bind, claimPaths_of_nodup hnodupFirst hfreeFirst,
        pure, Except.pure]
      rw [ih hnodupOthers fun components hmem hclaimed => ?_]
      · rfl
      · rcases List.mem_append.mp hclaimed with hclaimed | hclaimed
        · exact hdisjoint (List.mem_reverse.mp hclaimed) hmem
        · exact hfreeOthers components hmem hclaimed

/-- A run in memory puts the files of its entities one after the other, and succeeds if no two of
their paths are the same. -/
theorem renderAll_eq_ok_iff {artifacts : List Artifact} :
    set.renderAll options = .ok artifacts ↔ ∃ filesOf : Entity → List Artifact,
      (∀ entity ∈ set.entities, set.renderEntity options entity = .ok (filesOf entity)) ∧
        artifacts = set.entities.flatMap filesOf ∧ (claimsOf artifacts).Nodup := by
  rw [renderAll, renderFrom_eq_ok_iff]
  constructor
  · rintro ⟨rendered, hrendered, rfl, hnodup, -⟩
    refine ⟨fun entity => (set.renderEntity options entity).toOption.getD [], ?_, ?_, hnodup⟩
    · intro entity hentity
      obtain ⟨files, hfiles⟩ := exists_mapM_eq_ok_iff.mp ⟨rendered, hrendered⟩ entity hentity
      simp only [hfiles]
      rfl
    · have hfiles := (mapM_eq_ok_iff.mp hrendered).imp fun entity files hfiles =>
        show (set.renderEntity options entity).toOption.getD [] = files by rw [hfiles]; rfl
      rw [← List.forall₂_map_left_iff, List.forall₂_eq_eq_eq] at hfiles
      rw [← hfiles, List.flatMap]
  · rintro ⟨filesOf, hfiles, rfl, hnodup⟩
    refine ⟨set.entities.map filesOf, ?_, rfl, hnodup, by simp⟩
    rw [mapM_eq_ok_iff, List.forall₂_map_right_iff, List.forall₂_same]
    exact hfiles

/-- Artifacts of a run in memory are told apart by their paths. -/
theorem eq_of_components_eq {artifacts : List Artifact} (h : set.renderAll options = .ok artifacts)
    {first second : Artifact} (hfirst : first ∈ artifacts) (hsecond : second ∈ artifacts)
    (hpath : first.path.components = second.path.components) : first = second :=
  List.inj_on_of_nodup_map (nodup_claimsOf_of_renderFrom h) hfirst hsecond hpath

end EntitySet

end PersistenceLayer
