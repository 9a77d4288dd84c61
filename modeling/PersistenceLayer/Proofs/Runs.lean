import PersistenceLayer.Proofs.Publishing
import PersistenceLayer.Proofs.RenderedArtifacts

/-!
# Runs that write

A run that writes prepares the same entities in the same order as a run in
memory, and publishes the artifacts of each before it goes on to the next. It
gets through some of them and then is finished, comes to an entity that it
cannot prepare, or fails to write one.
-/

namespace PersistenceLayer

/-- Whether the artifacts that a run generates for some entities stay below the output directory:
their paths are made of names only. -/
def NormalPaths (options : Options) (entities : List Entity) : Prop :=
  ∀ entity ∈ entities, ∀ kind ∈ Kind.ofOptions options,
    (kind.relativePath entity.name entity.packageName).isNormal = true

/-- The path of an artifact ends in the extension of a source file. -/
theorem exists_getLast?_relativePath (kind : Kind) (entity packageName : String) :
    ∃ c ∉ ['/', '.', '0'],
      (kind.relativePath entity packageName).text.toList.getLast? = some c := by
  have hextension : ∃ c ∉ ['/', '.', '0'], kind.language.extension.toList.getLast? = some c := by
    cases kind <;> exact ⟨_, by decide, rfl⟩
  obtain ⟨c, hc, hlast⟩ := hextension
  refine ⟨c, hc, Path.getLast?_join ?_⟩
  rw [Kind.fileName, String.toList_append, List.getLast?_append, hlast]
  rfl

/-- A file of an entity has a path that ends in a name. -/
theorem Kind.exists_lastName? (kind : Kind) (entity packageName : String) :
    ∃ name, (kind.relativePath entity packageName).lastName? = some name := by
  obtain ⟨c, hc, hlast⟩ := exists_getLast?_relativePath kind entity packageName
  simp only [List.mem_cons, List.not_mem_nil, or_false, not_or] at hc
  obtain ⟨name, hname, -⟩ := Path.lastName?_of_getLast? hlast hc.1 hc.2.1
  exact ⟨name, hname⟩

/-- A user and a group, in a package of their own. -/
def userAndGroup : EntitySet where
  entities := [{ name := "user", packageName := "p" }, { name := "group", packageName := "p" }]
  names_nodup := by decide
  attributes_nodup := by decide

variable {set : EntitySet} {options : Options} {claimed : ClaimedPaths} {output : Path}

/-- The artifacts of a run are source files, below the output directory if all paths are normal. -/
theorem namesSource_of_mem_renderEntity {entity : Entity} {artifacts : List Artifact}
    {artifact : Artifact} (h : set.renderEntity options entity = .ok artifacts)
    (hmem : artifact ∈ artifacts) : artifact.NamesSource := by
  obtain ⟨kind, -, hpath⟩ := EntitySet.exists_kind_of_mem_renderEntity h hmem
  rw [Artifact.NamesSource, hpath]
  exact exists_getLast?_relativePath _ _ _

theorem NormalPaths.isNormal {entities : List Entity} (hnormal : NormalPaths options entities)
    {entity : Entity} (hentity : entity ∈ entities) {artifacts : List Artifact}
    (h : set.renderEntity options entity = .ok artifacts) {artifact : Artifact}
    (hmem : artifact ∈ artifacts) : artifact.path.isNormal = true := by
  obtain ⟨kind, hkind, hpath⟩ := EntitySet.exists_kind_of_mem_renderEntity h hmem
  rw [hpath]
  exact hnormal entity hentity kind hkind

theorem NormalPaths.isNormal_of_renderFrom {entities : List Entity}
    (hnormal : NormalPaths options entities) {artifacts : List Artifact}
    (h : set.renderFrom options claimed entities = .ok artifacts) {artifact : Artifact}
    (hmem : artifact ∈ artifacts) : artifact.path.isNormal = true := by
  obtain ⟨entity, hentity, rendered, hrender, hrendered⟩ :=
    EntitySet.exists_entity_of_mem_renderFrom h hmem
  exact hnormal.isNormal hentity hrender hrendered

/-- An artifact whose path others do not claim is published at a place apart from theirs. -/
theorem placeBelow_notMem {artifact : Artifact} {artifacts : List Artifact}
    (hartifact : artifact.path.isNormal = true)
    (hnormal : ∀ other ∈ artifacts, other.path.isNormal = true)
    (hfree : artifact.path.components ∉ claimsOf artifacts) :
    artifact.placeBelow output ∉ artifacts.map (·.placeBelow output) := by
  intro hplace
  obtain ⟨other, hother, hsame⟩ := List.mem_map.mp hplace
  refine hfree ?_
  rw [← Path.components_eq_of_place_join_eq (hnormal other hother) hartifact hsame]
  exact List.mem_map_of_mem hother

/-- Artifacts with different normal paths are published at different places. -/
theorem nodup_places {artifacts : List Artifact}
    (hnormal : ∀ artifact ∈ artifacts, artifact.path.isNormal = true)
    (hclaims : (claimsOf artifacts).Nodup) : (artifacts.map (·.placeBelow output)).Nodup := by
  unfold claimsOf at hclaims
  rw [List.Nodup, List.pairwise_map] at hclaims ⊢
  refine hclaims.imp_of_mem ?_
  intro first second hfirst hsecond hne hplace
  exact hne (Path.components_eq_of_place_join_eq (hnormal first hfirst) (hnormal second hsecond)
    hplace)

namespace Disk

/-- A run gets through some entities: it renders them as a run in memory does and leaves their
artifacts published. -/
structure GetsThrough (output : Path) (set : EntitySet) (options : Options)
    (claimed : ClaimedPaths) (entities : List Entity) (artifacts : List Artifact)
    (disk after : Disk) : Prop where
  rendered : set.renderFrom options claimed entities = .ok artifacts
  run : (storage.generateFrom output set options claimed entities).run disk =
    (.ok (artifacts.map (·.destination output)), after)
  past : ∃ events, after.past = events ++ disk.past ∧ AllSucceed events
  published : Published output disk.tree after.tree artifacts

/-- How a run ends that has got through some entities and has the others left. -/
inductive Ends (output : Path) (set : EntitySet) (options : Options) (claimed : ClaimedPaths)
    (disk : Disk) : List Entity → Option Failure → Disk → Prop
  /-- No entity is left. -/
  | finished : Ends output set options claimed disk [] none disk
  /-- The next entity cannot be prepared. -/
  | refused {entity : Entity} {later : List Entity} {failure : Failure}
      (hprepare : Storage.prepare set options claimed entity = .error failure) :
      Ends output set options claimed disk (entity :: later) (some failure) disk
  /-- The next entity cannot be written. -/
  | broken {entity : Entity} {later : List Entity} {artifacts : List Artifact}
      {claimed' : ClaimedPaths} {path : Path} {reason : String} {after : Disk} {events : List Event}
      (hprepare : Storage.prepare set options claimed entity = .ok (artifacts, claimed'))
      (hpast : after.past = events ++ disk.past)
      (hfailed : after.UndoesAll → WritingFailed output artifacts disk.tree after.tree events) :
      Ends output set options claimed disk (entity :: later) (some (.storage path reason)) after

/-- The result of a run that has published some artifacts when it ends. -/
def resultOf (artifacts : List Artifact) (output : Path) :
    Option Failure → Except Failure (List Path)
  | none => .ok (artifacts.map (·.destination output))
  | some failure => .error failure

theorem GetsThrough.nil (output : Path) (set : EntitySet) (options : Options)
    (claimed : ClaimedPaths) (disk : Disk) :
    GetsThrough output set options claimed [] [] disk disk where
  rendered := rfl
  run := rfl
  past := ⟨[], rfl, by simp [AllSucceed]⟩
  published := .nil _ _

variable {disk middle after : Disk}

/-- A run that writes an entity and then gets through others gets through all of them, since none of
the others claims a path of the first one. -/
theorem GetsThrough.cons {entity : Entity} {entities : List Entity}
    {artifacts others : List Artifact} {events : List Event}
    (hnormal : NormalPaths options (entity :: entities))
    (hprepare : Storage.prepare set options claimed entity =
      .ok (artifacts, (claimsOf artifacts).reverse ++ claimed))
    (hwrite : (storage.writeArtifacts output artifacts).run disk =
      (.ok (artifacts.map (·.destination output)), middle))
    (hpast : middle.past = events ++ disk.past) (hsucceeded : AllSucceed events)
    (hpublished : Published output disk.tree middle.tree artifacts)
    (hrest : GetsThrough output set options ((claimsOf artifacts).reverse ++ claimed) entities
      others middle after) :
    GetsThrough output set options claimed (entity :: entities) (artifacts ++ others) disk
      after := by
  obtain ⟨hrendered, hrun, ⟨later, hlater, hsucceeded'⟩, hothers⟩ := hrest
  refine ⟨?_, ?_, ⟨later ++ events, ?_, hsucceeded'.append hsucceeded⟩,
    hpublished.append hothers ?_⟩
  · rw [EntitySet.renderFrom_cons, hprepare]
    simp only [hrendered]
    rfl
  · rw [Storage.generateFrom, hprepare]
    simp only [run_bind, hwrite, hrun, List.map_append]
    rfl
  · rw [hlater, hpast, List.append_assoc]
  · intro artifact hmem
    refine placeBelow_notMem
      (hnormal.isNormal List.mem_cons_self (EntitySet.prepare_eq_ok hprepare).1 hmem)
      (fun other => NormalPaths.isNormal_of_renderFrom
        (fun next hnext => hnormal next (List.mem_cons_of_mem _ hnext)) hrendered)
      fun hclaimed => ?_
    refine EntitySet.claimsOf_disjoint_of_renderFrom hrendered _ hclaimed ?_
    exact List.mem_append_left _ (List.mem_reverse.mpr (List.mem_map_of_mem hmem))

/-- A run is refused if the next entity cannot be prepared, and ends if its artifacts cannot be
written; else it goes on with the others, and succeeds if they do. -/
theorem generateFrom_cons {entity : Entity} {entities : List Entity}
    {result : Except Failure (List Path)}
    (h : (storage.generateFrom output set options claimed (entity :: entities)).run disk =
      (result, after)) :
    (∃ failure, Storage.prepare set options claimed entity = .error failure ∧
      result = .error failure ∧ after = disk) ∨
    ∃ artifacts claimed', Storage.prepare set options claimed entity = .ok (artifacts, claimed') ∧
      ((∃ failure, (storage.writeArtifacts output artifacts).run disk = (.error failure, after) ∧
          result = .error failure) ∨
        ∃ written middle others,
          (storage.writeArtifacts output artifacts).run disk = (.ok written, middle) ∧
          (storage.generateFrom output set options claimed' entities).run middle =
            (others, after) ∧
          result = others.map (written ++ ·)) := by
  rw [Storage.generateFrom] at h
  cases hprepare : Storage.prepare set options claimed entity with
  | error failure =>
    rw [hprepare] at h
    obtain ⟨rfl, rfl⟩ := Prod.mk.inj h
    exact .inl ⟨failure, rfl, rfl, rfl⟩
  | ok prepared =>
    obtain ⟨artifacts, claimed'⟩ := prepared
    refine .inr ⟨artifacts, claimed', rfl, ?_⟩
    simp only [hprepare, run_bind] at h
    rcases hwrite : (storage.writeArtifacts output artifacts).run disk with ⟨outcome, middle⟩
    simp only [hwrite] at h
    cases outcome with
    | error failure =>
      obtain ⟨rfl, rfl⟩ := Prod.mk.inj h
      exact .inl ⟨failure, rfl, rfl⟩
    | ok written =>
      simp only [run_bind] at h
      rcases hrest : (storage.generateFrom output set options claimed' entities).run middle with
        ⟨others, last⟩
      simp only [hrest] at h
      refine .inr ⟨written, middle, others, rfl, ?_⟩
      cases others with
      | error failure =>
        obtain ⟨rfl, rfl⟩ := Prod.mk.inj h
        exact ⟨hrest, rfl⟩
      | ok others =>
        obtain ⟨rfl, rfl⟩ := Prod.mk.inj h
        exact ⟨hrest, rfl⟩

/-- A run gets through some entities and then ends. -/
theorem run_generateFrom {entities : List Entity} {result : Except Failure (List Path)}
    (hnormal : NormalPaths options entities)
    (h : (storage.generateFrom output set options claimed entities).run disk = (result, after)) :
    ∃ before rest artifacts middle failure, entities = before ++ rest ∧
      GetsThrough output set options claimed before artifacts disk middle ∧
      Ends output set options ((claimsOf artifacts).reverse ++ claimed) middle rest failure after ∧
      result = resultOf artifacts output failure := by
  induction entities generalizing claimed disk after result with
  | nil =>
    obtain ⟨rfl, rfl⟩ := Prod.mk.inj h
    exact ⟨[], [], [], disk, none, rfl, .nil _ _ _ _ _, .finished, rfl⟩
  | cons entity entities ih =>
    obtain ⟨failure, hprepare, rfl, rfl⟩ | ⟨artifacts, claimed', hprepare, h⟩ := generateFrom_cons h
    · exact ⟨[], entity :: entities, [], after, some failure, rfl, .nil _ _ _ _ _,
        .refused hprepare, rfl⟩
    obtain ⟨hrender, rfl, hclaims, -⟩ := EntitySet.prepare_eq_ok hprepare
    have hsource : ∀ artifact ∈ artifacts, artifact.NamesSource :=
      fun artifact => namesSource_of_mem_renderEntity hrender
    have hplaces : (artifacts.map (·.placeBelow output)).Nodup :=
      nodup_places (fun artifact => hnormal.isNormal List.mem_cons_self hrender) hclaims
    obtain ⟨failure, hwrite, rfl⟩ | ⟨written, middle, others, hwrite, hrest, rfl⟩ := h
    · obtain ⟨events, hpast, ⟨hresult, -⟩ | ⟨⟨path, reason, hfailure⟩, hfailed⟩⟩ :=
        run_writeArtifacts hsource hplaces hwrite
      · cases hresult
      · obtain rfl := Except.error.inj hfailure
        exact ⟨[], entity :: entities, [], disk, _, rfl, .nil _ _ _ _ _,
          .broken hprepare hpast hfailed, rfl⟩
    · obtain ⟨events, hpast, ⟨hresult, hpublished, hsucceeded⟩ | ⟨⟨_, _, hfailure⟩, -⟩⟩ :=
        run_writeArtifacts hsource hplaces hwrite
      · obtain rfl := Except.ok.inj hresult
        obtain ⟨before, rest, rendered, next, failure, hsplit, hthrough, hends, rfl⟩ :=
          ih (fun other hother => hnormal other (List.mem_cons_of_mem _ hother)) hrest
        have hfirst : NormalPaths options (entity :: before) := by
          intro other hother
          refine hnormal other (List.cons_subset_cons _ ?_ hother)
          exact hsplit ▸ List.subset_append_left _ _
        refine ⟨entity :: before, rest, artifacts ++ rendered, next, failure, by rw [hsplit]; rfl,
          hthrough.cons hfirst hprepare hwrite hpast hsucceeded hpublished, ?_, ?_⟩
        · rwa [reverse_claimsOf_append, List.append_assoc]
        · cases failure <;> simp [resultOf, Except.map]
      · cases hfailure

end Disk

end PersistenceLayer
