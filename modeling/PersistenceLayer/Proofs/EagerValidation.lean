import PersistenceLayer.Model.Validation
import PersistenceLayer.Proofs.RenderedArtifacts

/-!
# Validation and generation

Validation walks over the same attributes in the same order as generation. What
it finds about names generation does not mind; the first other defect it finds is
the one that generation stops at, unless two artifacts of the entities before it
claim the same path.
-/

namespace PersistenceLayer

/-- What a finding is about, unless it is a name. -/
def Finding.defect? : Finding → Option Defect
  | entityName _ | attributeName _ _ => none
  | defect cause => some cause

namespace EntitySet

variable {set : EntitySet} {options : Options}

/-- The defects of an entity that generation cannot get past, in order. -/
def entityDefects (set : EntitySet) (entity : Entity) : List Defect :=
  entity.attributes.filterMap (set.attributeDefect? entity.name)

/-- What validation finds at attributes that is not about a name are their defects. -/
theorem filterMap_attributeFindings (set : EntitySet) (owner : String) (attrs : List Attribute) :
    (attrs.flatMap (set.attributeFindings owner)).filterMap Finding.defect? =
      attrs.filterMap (set.attributeDefect? owner) := by
  induction attrs with
  | nil => rfl
  | cons attr attrs ih =>
    rw [List.flatMap_cons, List.filterMap_append, ih, attributeFindings, List.filterMap_append,
      List.filterMap_cons]
    cases set.attributeDefect? owner attr <;> split <;> rfl

/-- What validation finds at an entity that is not about a name are its defects. -/
theorem filterMap_entityFindings (set : EntitySet) (entity : Entity) :
    (set.entityFindings entity).filterMap Finding.defect? = set.entityDefects entity := by
  rw [entityFindings, List.filterMap_append, filterMap_attributeFindings]
  split <;> rfl

/-- The texts that validation reports, without those about names. -/
def reportedDefects (set : EntitySet) : List String :=
  (set.findings.filter fun finding => finding.defect?.isSome).map Finding.message

/-- Apart from names, validation reports the defects of one entity after the other. -/
theorem reportedDefects_eq (set : EntitySet) :
    set.reportedDefects = (set.entities.flatMap set.entityDefects).map Defect.message := by
  have hmessage : ∀ findings : List Finding,
      (findings.filter fun finding => finding.defect?.isSome).map Finding.message =
        (findings.filterMap Finding.defect?).map Defect.message := by
    intro findings
    induction findings with
    | nil => rfl
    | cons finding findings ih =>
      cases finding with
      | entityName | attributeName => exact ih
      | defect cause => exact congrArg (cause.message :: ·) ih
  rw [reportedDefects, hmessage, findings, List.filterMap_flatMap]
  simp only [filterMap_entityFindings]

/-- An attribute is mapped unless validation finds a defect of it, and then that is why. -/
theorem mapAttribute_cases (set : EntitySet) (owner : String) (attr : Attribute) :
    (∃ mapped, set.mapAttribute owner attr = .ok mapped ∧ set.attributeDefect? owner attr = none) ∨
      ∃ cause, set.mapAttribute owner attr = .error cause ∧
        set.attributeDefect? owner attr = some cause := by
  unfold mapAttribute attributeDefect?
  cases attr.columnType with
  | none => exact .inr ⟨_, rfl, rfl⟩
  | some type =>
    cases type with
    | identifier kind generated => exact .inl ⟨_, rfl, rfl⟩
    | version kind => exact .inl ⟨_, rfl, rfl⟩
    | basic type => exact .inl ⟨_, rfl, rfl⟩
    | manyToOne target =>
      dsimp only
      cases set.resolveTarget owner attr.name target with
      | ok resolved => exact .inl ⟨_, rfl, rfl⟩
      | error cause => exact .inr ⟨_, rfl, rfl⟩

/-- Mapping the attributes of an entity ends at the first defect. -/
theorem mapAttributes_snd (set : EntitySet) (owner : String) (attrs : List Attribute) :
    (set.mapAttributes owner attrs).2 = (attrs.filterMap (set.attributeDefect? owner)).head? := by
  induction attrs with
  | nil => rfl
  | cons attr attrs ih =>
    rw [mapAttributes]
    obtain ⟨mapped, hmapped, hdefect⟩ | ⟨cause, hmapped, hdefect⟩ :=
      set.mapAttribute_cases owner attr
    · rw [hmapped, List.filterMap_cons_none hdefect, ← ih]
    · rw [hmapped, List.filterMap_cons_some hdefect]
      rfl

/-- An entity is rendered unless it has a defect, and then the first one is why. -/
theorem renderEntity_cases (set : EntitySet) (options : Options) (entity : Entity) :
    (∃ artifacts, set.renderEntity options entity = .ok artifacts ∧ set.entityDefects entity = []) ∨
      ∃ cause rest, set.renderEntity options entity = .error cause ∧
        set.entityDefects entity = cause :: rest := by
  have hdefect := set.mapAttributes_snd entity.name entity.attributes
  rw [renderEntity_eq, mapEntity, entityDefects]
  rcases hmapped : set.mapAttributes entity.name entity.attributes with ⟨mapped, _ | cause⟩ <;>
    rw [hmapped] at hdefect
  · exact .inl ⟨_, rfl, List.head?_eq_none_iff.mp hdefect.symm⟩
  · obtain ⟨rest, hrest⟩ := List.head?_eq_some_iff.mp hdefect.symm
    exact .inr ⟨cause, rest, rfl, hrest⟩

/-- An entity with a defect is not prepared, whatever is claimed. -/
theorem prepare_of_defects_eq_cons {claimed : ClaimedPaths} {entity : Entity} {cause : Defect}
    {rest : List Defect} (hentity : set.entityDefects entity = cause :: rest) :
    Storage.prepare set options claimed entity = .error (.defect cause) := by
  obtain ⟨artifacts, -, hdefects⟩ | ⟨other, others, hrender, hdefects⟩ :=
    set.renderEntity_cases options entity
  · rw [hentity] at hdefects
    cases hdefects
  · rw [hentity] at hdefects
    obtain ⟨rfl, -⟩ := List.cons.inj hdefects
    rw [Storage.prepare, hrender]
    rfl

/-- An entity without defects is prepared, unless it claims a path that is claimed already. -/
theorem prepare_cases (set : EntitySet) (options : Options) (claimed : ClaimedPaths)
    {entity : Entity} (hentity : set.entityDefects entity = []) :
    (∃ artifacts, Storage.prepare set options claimed entity =
        .ok (artifacts, (claimsOf artifacts).reverse ++ claimed)) ∨
      ∃ path, Storage.prepare set options claimed entity = .error (.collision path) := by
  obtain ⟨artifacts, hrender, -⟩ | ⟨cause, rest, -, hdefects⟩ :=
    set.renderEntity_cases options entity
  · cases hprepare : Storage.prepare set options claimed entity with
    | ok prepared =>
      obtain ⟨rendered, claimed'⟩ := prepared
      obtain ⟨-, rfl, -⟩ := prepare_eq_ok hprepare
      exact .inl ⟨rendered, rfl⟩
    | error failure =>
      simp only [Storage.prepare, hrender, Failure.ofDefect, bind, Except.bind] at hprepare
      cases hclaim : claimPaths claimed artifacts with
      | ok claimed' =>
        rw [hclaim] at hprepare
        cases hprepare
      | error failure' =>
        rw [hclaim] at hprepare
        obtain ⟨path, rfl⟩ := claimPaths_eq_error hclaim
        exact .inr ⟨path, congrArg _ (Except.error.inj hprepare).symm⟩
  · rw [hentity] at hdefects
    cases hdefects

/-- A run in memory over entities without defects succeeds, or fails at a path that is claimed
twice. -/
theorem renderFrom_of_defects_eq_nil (options : Options) (claimed : ClaimedPaths)
    {entities : List Entity}
    (h : entities.flatMap set.entityDefects = []) :
    (∃ artifacts, set.renderFrom options claimed entities = .ok artifacts) ∨
      ∃ path, set.renderFrom options claimed entities = .error (.collision path) := by
  induction entities generalizing claimed with
  | nil => exact .inl ⟨[], rfl⟩
  | cons entity entities ih =>
    rw [List.flatMap_cons, List.append_eq_nil_iff] at h
    obtain ⟨artifacts, hprepare⟩ | ⟨path, hprepare⟩ := set.prepare_cases options claimed h.1
    all_goals rw [renderFrom_cons, hprepare]
    · obtain ⟨others, hothers⟩ | ⟨path, hothers⟩ :=
        ih ((claimsOf artifacts).reverse ++ claimed) h.2
      · exact .inl ⟨artifacts ++ others, by simp [hothers, Except.map]⟩
      · exact .inr ⟨path, by simp [hothers, Except.map]⟩
    · exact .inr ⟨path, rfl⟩

/-- The first defect of some entities is one of the first entity that has any. -/
theorem exists_split_of_defects_eq_cons {entities : List Entity} {first : Defect}
    {others : List Defect} (h : entities.flatMap set.entityDefects = first :: others) :
    ∃ earlier entity later rest, entities = earlier ++ entity :: later ∧
      earlier.flatMap set.entityDefects = [] ∧ set.entityDefects entity = first :: rest := by
  induction entities with
  | nil => cases h
  | cons entity entities ih =>
    rw [List.flatMap_cons] at h
    cases hentity : set.entityDefects entity with
    | nil =>
      rw [hentity, List.nil_append] at h
      obtain ⟨earlier, next, later, rest, rfl, hearlier, hnext⟩ := ih h
      exact ⟨entity :: earlier, next, later, rest, rfl, by simp [hentity, hearlier], hnext⟩
    | cons cause rest =>
      rw [hentity, List.cons_append] at h
      obtain ⟨rfl, -⟩ := List.cons.inj h
      exact ⟨[], entity, entities, rest, rfl, rfl, hentity⟩

/-- Validation that finds nothing but names means that generation fails at most at a path that is
claimed twice. Otherwise generation fails with the text of the first other defect that validation
reports, unless the entities before the one with this defect claim a path twice. -/
theorem renderAll_agrees_with_validation (set : EntitySet) (options : Options) :
    match set.reportedDefects with
    | [] => (∃ artifacts, set.renderAll options = .ok artifacts) ∨
        ∃ path, set.renderAll options = .error (.collision path)
    | first :: _ => ∃ failure, set.renderAll options = .error failure ∧
        (failure.message = first ∨
          ∃ path earlier entity later cause rest, failure = .collision path ∧
            set.entities = earlier ++ entity :: later ∧
            earlier.flatMap set.entityDefects = [] ∧
            set.entityDefects entity = cause :: rest ∧ cause.message = first ∧
            set.renderFrom options [] earlier = .error (.collision path)) := by
  rw [reportedDefects_eq]
  cases hdefects : set.entities.flatMap set.entityDefects with
  | nil => exact renderFrom_of_defects_eq_nil options [] hdefects
  | cons cause causes =>
    obtain ⟨earlier, entity, later, rest, hsplit, hearlier, hentity⟩ :=
      exists_split_of_defects_eq_cons hdefects
    unfold renderAll
    rw [hsplit]
    obtain ⟨artifacts, hrender⟩ | ⟨path, hrender⟩ :=
      renderFrom_of_defects_eq_nil options [] hearlier
    · refine ⟨.defect cause, ?_, .inl rfl⟩
      rw [renderFrom_append hrender, renderFrom_cons, prepare_of_defects_eq_cons hentity]
      rfl
    · refine ⟨.collision path, renderFrom_append_of_error hrender _, .inr ?_⟩
      exact ⟨path, earlier, entity, later, cause, rest, rfl, rfl, hearlier, hentity, rfl, hrender⟩

end EntitySet

end PersistenceLayer
