import PersistenceLayer.Proofs.ArtifactPaths
import PersistenceLayer.Proofs.EagerValidation

/-!
# Collisions

A run in memory fails at a path that an earlier artifact has claimed, and only
there if all of its artifacts can be rendered. The files of one entity end in
names of their own whatever the entity and its package are called, so a path is
never claimed twice by the same entity.
-/

namespace PersistenceLayer

/-! ## Files of one entity -/

namespace Path

/-- A path that ends in a name leads to a place of that name. -/
theorem getLast?_place {path : Path} {name : String} (hname : path.lastName? = some name) :
    path.place.names.getLast? = some name := by
  rw [place, components_of_lastName? hname, Location.follow_append]
  simp [Location.advance, Location.child]

end Path

namespace Kind

/-- What the file name of a kind has after the name of the entity. -/
def fileEnding : Kind → String
  | contract => ".kt"
  | dataHolder => "Data.kt"
  | metamodel => "Entity_.java"
  | persisted => "Entity.kt"
  | vocabulary => "OrdersPredicates.kt"
  | extension => "Extension.kt"

theorem fileName_eq (kind : Kind) (entity : String) :
    kind.fileName entity =
      (if kind = contract then "I" else "") ++ Text.capitalized entity ++ kind.fileEnding := by
  cases kind <;>
    simp [fileName, stem, Naming.contractType, Naming.dataType, Naming.metamodelType,
      Naming.entityType, Naming.vocabularyFile, Naming.extensionFile, fileEnding, language,
      Language.extension, String.append_assoc]

/-- The name that a file of an entity ends in. Unless the entity is named like a path, the letter of
a contract stands before it. -/
theorem exists_lastName?_relativePath (entity packageName : String) :
    ∃ last : String, (∀ kind ≠ contract,
        (kind.relativePath entity packageName).lastName? = some (last ++ kind.fileEnding)) ∧
      ((contract.relativePath entity packageName).lastName? = some ("I" ++ last ++ ".kt") ∨
        (contract.relativePath entity packageName).lastName? = some (last ++ ".kt")) := by
  have hends : ∀ (kind : Kind) (text last : String) (init : List String),
      kind.fileName entity = text ++ kind.fileEnding → Text.splitAt '/' text = init ++ [last] →
      (kind.relativePath entity packageName).lastName? = some (last ++ kind.fileEnding) := by
    intro kind text last init hname hsplit
    have hending : '/' ∉ kind.fileEnding.toList ∧
        ∃ c ≠ '.', kind.fileEnding.toList.getLast? = some c := by
      cases kind <;> exact ⟨by decide, _, by decide, rfl⟩
    obtain ⟨hfree, c, hc, hlast⟩ := hending
    have hcomponent : Path.component? (last ++ kind.fileEnding) =
        some (.normal (last ++ kind.fileEnding)) := by
      refine Path.component?_of_getLast? (c := c) ?_ hc
      simp [List.getLast?_append, hlast]
    rw [relativePath, Path.lastName?_join, hname]
    simp [Path.lastName?, Text.splitAt_append hfree hsplit, hcomponent]
  have hsplit := (List.dropLast_concat_getLast
    (Text.splitAt_ne_nil '/' (Text.capitalized entity))).symm
  generalize List.getLast _ _ = last at hsplit
  refine ⟨last, fun kind hkind => ?_, ?_⟩
  · exact hends kind _ last _ (by simp [fileName_eq, hkind]) hsplit
  · cases hinit : (Text.splitAt '/' (Text.capitalized entity)).dropLast with
    | nil =>
      rw [hinit, List.nil_append] at hsplit
      exact .inl (hends contract ("I" ++ Text.capitalized entity) ("I" ++ last) []
        (by simp [fileName_eq]) (Text.splitAt_prepend "I" (by decide) hsplit))
    | cons segment rest =>
      rw [hinit, List.cons_append] at hsplit
      exact .inr (hends contract ("I" ++ Text.capitalized entity) last (("I" ++ segment) :: rest)
        (by simp [fileName_eq]) (Text.splitAt_prepend "I" (by decide) hsplit))

/-- The files of an entity end in different names, whatever it and its package are called. -/
theorem lastName?_relativePath_inj {first second : Kind} {entity packageName : String}
    (h : (first.relativePath entity packageName).lastName? =
      (second.relativePath entity packageName).lastName?) : first = second := by
  obtain ⟨last, hothers, hcontract⟩ := exists_lastName?_relativePath entity packageName
  -- The ending of a contract is shorter than the others, also with its letter.
  have hapart : ∀ kind ≠ contract, (contract.relativePath entity packageName).lastName? ≠
      (kind.relativePath entity packageName).lastName? := by
    intro kind hkind hsame
    have hlong : 4 < kind.fileEnding.length := by
      cases kind with
      | contract => exact absurd rfl hkind
      | dataHolder | metamodel | persisted | vocabulary | extension => decide
    rw [hothers kind hkind] at hsame
    rcases hcontract with hletter | hplain
    · have hlength := congrArg String.length (Option.some.inj (hletter.symm.trans hsame))
      simp only [String.length_append, show "I".length = 1 from rfl,
        show ".kt".length = 3 from rfl] at hlength
      omega
    · have hlength := congrArg String.length (Option.some.inj (hplain.symm.trans hsame))
      simp only [String.length_append, show ".kt".length = 3 from rfl] at hlength
      omega
  by_cases hfirst : first = contract
  · subst hfirst
    exact Decidable.byContradiction fun hne => hapart second (Ne.symm hne) h
  · by_cases hsecond : second = contract
    · subst hsecond
      exact absurd h.symm (hapart first hfirst)
    · rw [hothers first hfirst, hothers second hsecond, Option.some.injEq, ← String.toList_inj,
        String.toList_append, String.toList_append, List.append_cancel_left_eq] at h
      revert h
      cases first <;> cases second <;> decide

/-- A run generates no kind twice. -/
theorem nodup_ofOptions (options : Options) : (ofOptions options).Nodup := by
  unfold ofOptions
  split <;> decide

/-- No two files of an entity have the same path. -/
theorem eq_of_components_eq {first second : Kind} {entity packageName : String}
    (h : (first.relativePath entity packageName).components =
      (second.relativePath entity packageName).components) : first = second := by
  obtain ⟨name, hname⟩ := exists_lastName? first entity packageName
  obtain ⟨other, hother⟩ := exists_lastName? second entity packageName
  rw [Path.components_of_lastName? hname, Path.components_of_lastName? hother] at h
  obtain ⟨-, hlast⟩ := List.append_inj' h rfl
  obtain rfl : name = other := by simpa using hlast
  exact lastName?_relativePath_inj (hname.trans hother.symm)

/-- No two files of an entity are published at the same place. -/
theorem eq_of_place_eq {output : Path} {first second : Kind} {entity packageName : String}
    (h : (output.join (first.relativePath entity packageName)).place =
      (output.join (second.relativePath entity packageName)).place) : first = second := by
  obtain ⟨name, hname⟩ := exists_lastName? first entity packageName
  obtain ⟨other, hother⟩ := exists_lastName? second entity packageName
  have hlast := Path.getLast?_place ((Path.lastName?_join output _).trans hname)
  rw [h, Path.getLast?_place ((Path.lastName?_join output _).trans hother)] at hlast
  exact lastName?_relativePath_inj (hname.trans (hlast.symm.trans hother.symm))

end Kind

/-! ## Planned files -/

/-- A file that a run generates for an entity. -/
structure PlannedFile where
  entity : Entity
  kind : Kind

/-- The path of a planned file below the output directory. -/
def PlannedFile.path (file : PlannedFile) : Path :=
  file.kind.relativePath file.entity.name file.entity.packageName

/-- The files that a run plans for some entities, in the order in which it generates them. -/
def plannedFiles (options : Options) (entities : List Entity) : List PlannedFile :=
  entities.flatMap fun entity => (Kind.ofOptions options).map (PlannedFile.mk entity)

/-- The paths of planned files, as they are claimed. -/
def claimsOfPlanned (files : List PlannedFile) : ClaimedPaths :=
  files.map (·.path.components)

@[simp] theorem plannedFiles_cons (options : Options) (entity : Entity) (entities : List Entity) :
    plannedFiles options (entity :: entities) =
      (Kind.ofOptions options).map (PlannedFile.mk entity) ++ plannedFiles options entities :=
  List.flatMap_cons

/-- Whether artifacts are what is rendered of planned files, one by one and in the same order. -/
def EntitySet.RendersAs (set : EntitySet) (options : Options) (files : List PlannedFile)
    (artifacts : List Artifact) : Prop :=
  List.Forall₂ (fun file artifact => set.render options file.entity file.kind = .ok artifact)
    files artifacts

namespace EntitySet

variable {set : EntitySet} {options : Options}

/-- The artifacts of an entity are its planned files, rendered. -/
theorem rendersAs_of_renderEntity {entity : Entity} {artifacts : List Artifact}
    (h : set.renderEntity options entity = .ok artifacts) :
    set.RendersAs options ((Kind.ofOptions options).map (PlannedFile.mk entity)) artifacts :=
  List.forall₂_map_left_iff.mpr (mapM_eq_ok_iff.mp h)

/-- Every entity has artifacts. -/
theorem ne_nil_of_renderEntity {entity : Entity} {artifacts : List Artifact}
    (h : set.renderEntity options entity = .ok artifacts) : artifacts ≠ [] := by
  rintro rfl
  have hlength := (rendersAs_of_renderEntity h).length_eq
  unfold Kind.ofOptions at hlength
  split at hlength <;> cases hlength

/-- The artifacts of an entity are published at different places, whatever it is called. -/
theorem nodup_places_of_renderEntity {entity : Entity} {artifacts : List Artifact}
    (h : set.renderEntity options entity = .ok artifacts) (output : Path) :
    (artifacts.map (·.placeBelow output)).Nodup := by
  obtain ⟨attrs, -, rfl⟩ := renderEntity_eq_ok_iff.mp h
  have hplace : ∀ kind, (entity.artifact options attrs kind).placeBelow output =
      (output.join (kind.relativePath entity.name entity.packageName)).place := fun _ => rfl
  rw [List.map_map]
  refine (Kind.nodup_ofOptions options).map fun first second h => ?_
  rw [Function.comp_apply, Function.comp_apply, hplace, hplace] at h
  exact Kind.eq_of_place_eq h

/-- A rendered file has the path that was planned. -/
theorem path_of_render {file : PlannedFile} {artifact : Artifact}
    (h : set.render options file.entity file.kind = .ok artifact) : artifact.path = file.path := by
  obtain ⟨attrs, -, rfl⟩ := render_eq_ok_iff.mp h
  rfl

/-- Rendered files claim the paths that were planned. -/
theorem RendersAs.claimsOf_eq {files : List PlannedFile} {artifacts : List Artifact}
    (h : set.RendersAs options files artifacts) : claimsOf artifacts = claimsOfPlanned files := by
  induction h with
  | nil => rfl
  | cons hrender _ ih =>
    rw [claimsOf, List.map_cons, path_of_render hrender, ← claimsOf, ih]
    rfl

/-- A run in memory that succeeds has rendered every planned file. -/
theorem rendersAs_of_renderFrom {claimed : ClaimedPaths} {entities : List Entity}
    {artifacts : List Artifact} (h : set.renderFrom options claimed entities = .ok artifacts) :
    set.RendersAs options (plannedFiles options entities) artifacts := by
  induction entities generalizing claimed artifacts with
  | nil =>
    cases h
    exact .nil
  | cons entity entities ih =>
    obtain ⟨first, others, hprepare, hothers, rfl⟩ := renderFrom_cons_eq_ok h
    rw [plannedFiles_cons]
    exact List.rel_append (rendersAs_of_renderEntity (prepare_eq_ok hprepare).1) (ih hothers)

end EntitySet

/-! ## The first collision -/

/-- Whether a path is the first one of planned files that is claimed already or that an earlier one
of them has. -/
def CollidesAt (claimed : ClaimedPaths) (files : List PlannedFile) (path : Path) : Prop :=
  ∃ before file after, files = before ++ file :: after ∧ path = file.path ∧
    (claimsOfPlanned before).Nodup ∧ (∀ components ∈ claimsOfPlanned before, components ∉ claimed) ∧
    file.path.components ∈ claimed ++ claimsOfPlanned before

namespace CollidesAt

variable {claimed : ClaimedPaths} {files others : List PlannedFile} {path : Path}

/-- A file whose path is new does not collide, and the others do as if it were claimed. -/
theorem cons {file : PlannedFile} (hnew : file.path.components ∉ claimed)
    (h : CollidesAt (file.path.components :: claimed) files path) :
    CollidesAt claimed (file :: files) path := by
  obtain ⟨before, found, after, rfl, rfl, hnodup, hfree, hfound⟩ := h
  refine ⟨file :: before, found, after, rfl, rfl, ?_, ?_, ?_⟩
  · refine List.nodup_cons.mpr ⟨fun hmem => ?_, hnodup⟩
    exact hfree _ hmem List.mem_cons_self
  · refine List.forall_mem_cons.mpr ⟨hnew, fun components hmem hclaimed => ?_⟩
    exact hfree components hmem (List.mem_cons_of_mem _ hclaimed)
  · simpa [claimsOfPlanned, or_left_comm] using hfound

/-- Files whose paths are new and different do not collide, and the others do as if these were
claimed. -/
theorem append (hnodup : (claimsOfPlanned files).Nodup)
    (hnew : ∀ components ∈ claimsOfPlanned files, components ∉ claimed)
    (h : CollidesAt ((claimsOfPlanned files).reverse ++ claimed) others path) :
    CollidesAt claimed (files ++ others) path := by
  induction files generalizing claimed with
  | nil => exact h
  | cons file files ih =>
    obtain ⟨hfile, hnodup⟩ := List.nodup_cons.mp hnodup
    obtain ⟨hfree, hnew⟩ := List.forall_mem_cons.mp hnew
    refine cons hfree (ih hnodup (fun components hmem => ?_) (by simpa [claimsOfPlanned] using h))
    rw [List.mem_cons, not_or]
    refine ⟨?_, hnew components hmem⟩
    rintro rfl
    exact hfile hmem

/-- What collides still does when more files follow. -/
theorem append_right (h : CollidesAt claimed files path) (others : List PlannedFile) :
    CollidesAt claimed (files ++ others) path := by
  obtain ⟨before, file, after, rfl, rest⟩ := h
  exact ⟨before, file, after ++ others, by simp, rest⟩

/-- The paths of files that collide are not all different. -/
theorem not_nodup (h : CollidesAt [] files path) : ¬ (claimsOfPlanned files).Nodup := by
  obtain ⟨before, file, after, rfl, rfl, -, -, hfile⟩ := h
  intro hnodup
  rw [claimsOfPlanned, List.map_append, List.map_cons, List.nodup_append] at hnodup
  exact hnodup.2.2 _ (by simpa [claimsOfPlanned] using hfile) _ List.mem_cons_self rfl

end CollidesAt

namespace EntitySet

variable {set : EntitySet} {options : Options}

/-- Claiming the paths of rendered files ends at the first one that collides. -/
theorem RendersAs.collidesAt {claimed : ClaimedPaths} {files : List PlannedFile}
    {artifacts : List Artifact} {path : Path} (hrenders : set.RendersAs options files artifacts)
    (h : claimPaths claimed artifacts = .error (.collision path)) :
    CollidesAt claimed files path := by
  induction hrenders generalizing claimed with
  | nil => cases h
  | @cons file artifact files artifacts hrender _ ih =>
    rw [claimPaths, path_of_render hrender] at h
    split at h
    · next hclaimed =>
      obtain rfl := Failure.collision.inj (Except.error.inj h)
      exact ⟨[], file, files, rfl, rfl, .nil, by simp [claimsOfPlanned],
        List.mem_append_left _ hclaimed⟩
    · next hnew => exact .cons hnew (ih h)

/-- A run in memory that ends at a path ends at the first one that collides. -/
theorem collidesAt_of_renderFrom {claimed : ClaimedPaths} {entities : List Entity} {path : Path}
    (h : set.renderFrom options claimed entities = .error (.collision path)) :
    CollidesAt claimed (plannedFiles options entities) path := by
  induction entities generalizing claimed with
  | nil => cases h
  | cons entity entities ih =>
    rw [renderFrom_cons, Storage.prepare] at h
    rw [plannedFiles_cons]
    cases hrender : set.renderEntity options entity with
    | error cause =>
      rw [hrender] at h
      cases h
    | ok artifacts =>
      have hrenders := rendersAs_of_renderEntity hrender
      simp only [hrender, Failure.ofDefect, bind, Except.bind] at h
      cases hclaim : claimPaths claimed artifacts with
      | error failure =>
        simp only [hclaim] at h
        obtain rfl : failure = .collision path := by simpa using h
        exact (hrenders.collidesAt hclaim).append_right _
      | ok claimed' =>
        obtain ⟨rfl, hnodup, hfree⟩ := claimPaths_eq_ok hclaim
        simp only [hclaim, pure, Except.pure] at h
        rw [hrenders.claimsOf_eq] at h hnodup hfree
        refine .append hnodup hfree (ih ?_)
        cases hrest : set.renderFrom options
          ((claimsOfPlanned ((Kind.ofOptions options).map (PlannedFile.mk entity))).reverse ++
            claimed) entities with
        | ok others =>
          rw [hrest] at h
          cases h
        | error failure =>
          rw [hrest] at h
          simpa [Except.map] using h

/-- A run in memory whose planned files can all be rendered succeeds, or fails at a path. -/
theorem renderAll_cases
    (hrenders : ∀ file ∈ plannedFiles options set.entities,
      ∃ artifact, set.render options file.entity file.kind = .ok artifact) :
    (∃ artifacts, set.renderAll options = .ok artifacts) ∨
      ∃ path, set.renderAll options = .error (.collision path) := by
  refine renderFrom_of_defects_eq_nil options [] (List.flatMap_eq_nil_iff.mpr ?_)
  intro entity hentity
  obtain ⟨artifacts, -, hdefects⟩ | ⟨cause, rest, herror, -⟩ :=
    set.renderEntity_cases options entity
  · exact hdefects
  · obtain ⟨artifacts, hok⟩ : ∃ artifacts, set.renderEntity options entity = .ok artifacts :=
      exists_mapM_eq_ok_iff.mpr fun kind hkind => hrenders ⟨entity, kind⟩
        (List.mem_flatMap.mpr ⟨entity, hentity, List.mem_map_of_mem hkind⟩)
    cases herror.symm.trans hok

/-- A run plans no file twice. -/
theorem nodup_plannedFiles (set : EntitySet) (options : Options) :
    (plannedFiles options set.entities).Nodup := by
  refine List.nodup_flatMap.mpr ⟨fun entity _ => ?_, ?_⟩
  · exact (Kind.nodup_ofOptions options).map fun _ _ h => (PlannedFile.mk.inj h).2
  refine (List.Nodup.of_map _ set.names_nodup).imp fun hne => ?_
  intro file hfirst hsecond
  obtain ⟨_, -, rfl⟩ := List.mem_map.mp hfirst
  obtain ⟨_, -, h⟩ := List.mem_map.mp hsecond
  exact hne (PlannedFile.mk.inj h).1.symm

/-- Files that collide belong to entities of different names. -/
theorem name_ne_of_components_eq {before after : List PlannedFile} {file other : PlannedFile}
    (hsplit : plannedFiles options set.entities = before ++ file :: after) (hother : other ∈ before)
    (hpath : other.path.components = file.path.components) :
    other.entity.name ≠ file.entity.name := by
  intro hname
  have hentity : ∀ planned ∈ plannedFiles options set.entities,
      planned.entity ∈ set.entities := by
    intro planned hplanned
    obtain ⟨entity, hentity, hfile⟩ := List.mem_flatMap.mp hplanned
    obtain ⟨_, -, rfl⟩ := List.mem_map.mp hfile
    exact hentity
  have hsame : other.entity = file.entity :=
    List.inj_on_of_nodup_map set.names_nodup (hentity other (by simp [hsplit, hother]))
      (hentity file (by simp [hsplit])) hname
  obtain ⟨owner, otherKind⟩ := other
  obtain ⟨_, kind⟩ := file
  obtain rfl : owner = _ := hsame
  obtain rfl : otherKind = kind := Kind.eq_of_components_eq hpath
  have hnodup := hsplit ▸ set.nodup_plannedFiles options
  exact (List.nodup_append.mp hnodup).2.2 _ hother _ List.mem_cons_self rfl

/-- If all planned files can be rendered, a run in memory succeeds exactly if their paths have
different components, and then it returns what is rendered of each of them, in order. Otherwise it
fails at the first of them whose path has the components of an earlier one. Whatever can be
rendered, and whatever the entities and packages are called, two files that collide belong to
different entities, and no two files of one entity have the same path. -/
theorem renderAll_detects_collisions (set : EntitySet) (options : Options) :
    ((∀ file ∈ plannedFiles options set.entities,
        ∃ artifact, set.render options file.entity file.kind = .ok artifact) →
      ((∃ artifacts, set.renderAll options = .ok artifacts) ↔
          (plannedFiles options set.entities).Pairwise fun first second =>
            first.path.components ≠ second.path.components) ∧
        (∀ artifacts, set.renderAll options = .ok artifacts →
          set.RendersAs options (plannedFiles options set.entities) artifacts) ∧
        ((¬ (plannedFiles options set.entities).Pairwise fun first second =>
            first.path.components ≠ second.path.components) →
          ∃ path, set.renderAll options = .error (.collision path))) ∧
    (∀ path, set.renderAll options = .error (.collision path) →
      ∃ before file after, plannedFiles options set.entities = before ++ file :: after ∧
        path = file.path ∧
        (before.Pairwise fun first second => first.path.components ≠ second.path.components) ∧
        ∃ other ∈ before, other.path.components = file.path.components ∧
          other.entity.name ≠ file.entity.name) ∧
    ∀ (entity : Entity) (first second : Kind), first ≠ second →
      (PlannedFile.mk entity first).path.components ≠
        (PlannedFile.mk entity second).path.components := by
  have hpairwise : ∀ files : List PlannedFile, (files.Pairwise fun first second =>
      first.path.components ≠ second.path.components) ↔ (claimsOfPlanned files).Nodup :=
    fun files => List.pairwise_map.symm
  have hcollides : ∀ path, set.renderAll options = .error (.collision path) →
      CollidesAt [] (plannedFiles options set.entities) path := fun _ => collidesAt_of_renderFrom
  refine ⟨fun hrenders => ⟨⟨?_, fun hnodup => ?_⟩, fun _ => rendersAs_of_renderFrom,
    fun hnodup => ?_⟩, fun path h => ?_,
    fun entity first second hne h => hne (Kind.eq_of_components_eq h)⟩
  · rintro ⟨artifacts, h⟩
    rw [hpairwise, ← (rendersAs_of_renderFrom h).claimsOf_eq]
    exact nodup_claimsOf_of_renderFrom h
  · refine (renderAll_cases hrenders).resolve_right ?_
    rintro ⟨path, h⟩
    exact (hcollides path h).not_nodup ((hpairwise _).mp hnodup)
  · refine (renderAll_cases hrenders).resolve_left ?_
    rintro ⟨artifacts, h⟩
    rw [hpairwise, ← (rendersAs_of_renderFrom h).claimsOf_eq] at hnodup
    exact hnodup (nodup_claimsOf_of_renderFrom h)
  · obtain ⟨before, file, after, hsplit, rfl, hnodup, -, hfile⟩ := hcollides path h
    rw [List.nil_append] at hfile
    obtain ⟨other, hother, hpath⟩ := List.mem_map.mp hfile
    exact ⟨before, file, after, hsplit, rfl, (hpairwise before).mpr hnodup, other, hother, hpath,
      name_ne_of_components_eq hsplit hother hpath⟩

/-- Two users whose files have the same paths in different spellings. -/
def userTwice : EntitySet where
  entities := [{ name := "user", packageName := "a.b" }, { name := "User", packageName := "a//b" }]
  names_nodup := by decide
  attributes_nodup := by decide

/-- The run renders all files of both users and fails at the contract of the second one. -/
theorem renderAll_detects_collisions_userTwice :
    (∀ file ∈ plannedFiles {} userTwice.entities,
      ∃ artifact, userTwice.render {} file.entity file.kind = .ok artifact) ∧
    (∃ path, userTwice.renderAll {} = .error (.collision path)) ∧
    ∀ path, userTwice.renderAll {} = .error (.collision path) →
      ∃ before file after, plannedFiles {} userTwice.entities = before ++ file :: after ∧
        path = file.path ∧
        (before.Pairwise fun first second => first.path.components ≠ second.path.components) ∧
        ∃ other ∈ before, other.path.components = file.path.components ∧
          other.entity.name ≠ file.entity.name := by
  have hrenders : ∀ file ∈ plannedFiles {} userTwice.entities,
      ∃ artifact, userTwice.render {} file.entity file.kind = .ok artifact := by
    have hok : ∀ file ∈ plannedFiles {} userTwice.entities,
        (userTwice.render {} file.entity file.kind).isOk = true := by
      decide +kernel
    exact fun file hfile => exists_eq_ok_of_isOk (hok file hfile)
  have hsame : ¬ (plannedFiles {} userTwice.entities).Pairwise fun first second =>
      first.path.components ≠ second.path.components := by
    decide +kernel
  obtain ⟨hexact, hfirst, -⟩ := renderAll_detects_collisions userTwice {}
  exact ⟨hrenders, (hexact hrenders).2.2 hsame, hfirst⟩

end EntitySet

end PersistenceLayer
