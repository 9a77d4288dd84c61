import PersistenceLayer.Proofs.DiskSteps
import PersistenceLayer.Run.Writing

/-!
# Staging artifacts

Staging puts each artifact into a temporary file of its own, under a name that
no artifact has. Until the first one is published the tree holds nothing but
what it held before, these files, and directories on the way to the destinations;
so when one artifact cannot be staged, discarding the others leaves every file
as it was.
-/

namespace PersistenceLayer

namespace Artifact

/-- The path at which an artifact is published below the output directory. -/
def destination (artifact : Artifact) (output : Path) : Path :=
  output.join artifact.path

theorem join_path (artifact : Artifact) (output : Path) :
    output.join artifact.path = artifact.destination output := rfl

/-- The place at which an artifact is published below the output directory. -/
def placeBelow (artifact : Artifact) (output : Path) : Location :=
  (artifact.destination output).place

/-- Whether the path of an artifact ends in a file name that no temporary file has. -/
def NamesSource (artifact : Artifact) : Prop :=
  ∃ c ∉ ['/', '.', '0'], artifact.path.text.toList.getLast? = some c

/-- The path of a source file ends in a name. -/
theorem NamesSource.exists_lastName? {artifact : Artifact} (hsource : artifact.NamesSource) :
    ∃ name, artifact.path.lastName? = some name := by
  obtain ⟨c, hc, hlast⟩ := hsource
  simp only [List.mem_cons, List.not_mem_nil, or_false, not_or] at hc
  obtain ⟨name, hname, -⟩ := Path.lastName?_of_getLast? hlast hc.1 hc.2.1
  exact ⟨name, hname⟩

/-- An artifact is published at a place that has a name and is no temporary file's. -/
theorem NamesSource.placeBelow_endsIn {artifact : Artifact} (hsource : artifact.NamesSource)
    (output : Path) : ∃ c ≠ '0', (artifact.placeBelow output).EndsIn c := by
  obtain ⟨c, hc, hlast⟩ := hsource
  simp only [List.mem_cons, List.not_mem_nil, or_false, not_or] at hc
  obtain ⟨hslash, hdot, hzero⟩ := hc
  exact ⟨c, hzero, Path.place_endsIn (Path.getLast?_join hlast) hslash hdot⟩

/-- The directory that an artifact is staged in lies on the way to its destination. -/
theorem NamesSource.exists_directory {artifact : Artifact} (hsource : artifact.NamesSource)
    (output : Path) :
    ∃ directory, (artifact.destination output).parent? = some directory ∧
      ∀ location, directory.LeadsAlong location →
        (artifact.destination output).LeadsThrough location := by
  obtain ⟨name, hname⟩ := hsource.exists_lastName?
  exact Path.leadsThrough_of_parent? ((Path.lastName?_join output artifact.path).trans hname)

end Artifact

/-- Whether a place lies on the way to the destination of one of some artifacts. -/
def OnTheWay (output : Path) (artifacts : List Artifact) (location : Location) : Prop :=
  ∃ artifact ∈ artifacts, (artifact.destination output).LeadsThrough location

/-- What lies on the way for some artifacts does so for more of them. -/
theorem OnTheWay.mono {output : Path} {artifacts others : List Artifact} {location : Location}
    (h : OnTheWay output artifacts location) (hsubset : artifacts ⊆ others) :
    OnTheWay output others location := by
  obtain ⟨artifact, hmem, hthrough⟩ := h
  exact ⟨artifact, hsubset hmem, hthrough⟩

/-- What is changed for some artifacts and then for others is changed for all of them. -/
theorem FileTree.KeepsOutside.append {output : Path} {artifacts others : List Artifact}
    {first second : List Location} {before middle after : FileTree}
    (h : KeepsOutside first (OnTheWay output artifacts) before middle)
    (hothers : KeepsOutside second (OnTheWay output others) middle after) :
    KeepsOutside (first ++ second) (OnTheWay output (artifacts ++ others)) before after := by
  refine (h.mono (List.subset_append_left _ _) ?_).trans
    (hothers.mono (List.subset_append_right _ _) ?_)
  · exact fun _ hway => hway.mono (List.subset_append_left _ _)
  · exact fun _ hway => hway.mono (List.subset_append_right _ _)

/-- An artifact together with the temporary file that it is staged in. -/
structure StagedArtifact where
  temporary : Location
  artifact : Artifact

/-- What staging the artifact returns. -/
def StagedArtifact.staged (output : Path) (file : StagedArtifact) : Staged Location :=
  ⟨file.temporary, file.artifact.destination output⟩

/-- Whether nothing stands in a tree where artifacts are staged, in files named as temporary ones
are. -/
def FreshIn (tree : FileTree) (files : List StagedArtifact) : Prop :=
  ∀ file ∈ files, tree.entry? file.temporary = none ∧ file.temporary.EndsIn '0'

/-- Temporary files are not anchors, so they can be erased. -/
theorem FreshIn.names_ne_nil {tree : FileTree} {files : List StagedArtifact}
    (h : FreshIn tree files) : ∀ location ∈ files.map StagedArtifact.temporary,
      location.names ≠ [] ∧ tree.entry? location = none := by
  intro location hmem
  obtain ⟨file, hfile, rfl⟩ := List.mem_map.mp hmem
  obtain ⟨hnone, hends⟩ := h file hfile
  exact ⟨hends.names_ne_nil, hnone⟩

/-- Staged artifacts stand in temporary files of their own, and nothing but these and directories on
the way to the destinations was made. -/
structure Prepared (output : Path) (before after : FileTree) (files : List StagedArtifact) :
    Prop where
  filled : ∀ file ∈ files, after.entry? file.temporary = some (.file file.artifact.contents)
  fresh : FreshIn before files
  distinct : (files.map StagedArtifact.temporary).Nodup
  keeps : FileTree.KeepsOutside (files.map StagedArtifact.temporary)
    (OnTheWay output (files.map StagedArtifact.artifact)) before after

namespace Prepared

variable {output : Path} {before middle after : FileTree} {files others : List StagedArtifact}

theorem nil (output : Path) (tree : FileTree) : Prepared output tree tree [] where
  filled := by simp
  fresh := by simp [FreshIn]
  distinct := .nil
  keeps := .refl _ _ _

/-- What is staged later goes to temporary files that nothing is staged in yet. -/
theorem append (h : Prepared output before middle files)
    (hothers : Prepared output middle after others) :
    Prepared output before after (files ++ others) := by
  have hapart : ∀ file ∈ files, file.temporary ∉ others.map StagedArtifact.temporary := by
    intro file hfile hmem
    obtain ⟨other, hother, hsame⟩ := List.mem_map.mp hmem
    have hnone := (hothers.fresh other hother).1
    rw [hsame, h.filled file hfile] at hnone
    cases hnone
  refine ⟨?_, ?_, ?_, ?_⟩
  · intro file hfile
    rcases List.mem_append.mp hfile with hfile | hfile
    · exact hothers.keeps.entry?_eq_some (hapart file hfile) (h.filled file hfile)
    · exact hothers.filled file hfile
  · intro file hfile
    rcases List.mem_append.mp hfile with hfile | hfile
    · exact h.fresh file hfile
    · obtain ⟨hnone, hends⟩ := hothers.fresh file hfile
      refine ⟨h.keeps.entry?_eq_none ?_ hnone, hends⟩
      intro hmem
      obtain ⟨other, hother, hsame⟩ := List.mem_map.mp hmem
      exact hapart other hother (hsame ▸ List.mem_map_of_mem hfile)
  · rw [List.map_append, List.nodup_append]
    refine ⟨h.distinct, hothers.distinct, ?_⟩
    rintro _ hfirst location hsecond rfl
    obtain ⟨file, hfile, rfl⟩ := List.mem_map.mp hfirst
    exact hapart file hfile hsecond
  · rw [List.map_append, List.map_append]
    exact h.keeps.append hothers.keeps

end Prepared

/-- What some steps leave behind if staging artifacts failed in one of them: at most directories on
the way to the destinations. -/
structure StagingFailed (output : Path) (artifacts : List Artifact) (before after : FileTree)
    (events : List Event) : Prop where
  keeps : FileTree.KeepsOutside [] (OnTheWay output artifacts) before after
  failed : Disk.FailsOnlyAt events (·.isStaging)

namespace Disk

variable {disk after : Disk} {output : Path}

/-- How staging an artifact can come out: all of its steps succeed, or one fails and those after it
are left out. -/
inductive Stages (output directory : Path) (artifact : Artifact) (disk : Disk) :
    Except Failure (Staged Location) → Disk → Prop
  | staged (first second : Disk) {after : Disk} (temporary : Location)
      (hmake : (storage.makeDirectories directory).run disk = (.ok (), first))
      (hcreate : (storage.createTemporary directory).run first = (.ok temporary, second))
      (hfill : (storage.fillTemporary temporary artifact.contents).run second = (.ok (), after)) :
      Stages output directory artifact disk (.ok ⟨temporary, artifact.destination output⟩) after
  | notMade {after : Disk} {reason : String}
      (hmake : (storage.makeDirectories directory).run disk = (.error reason, after)) :
      Stages output directory artifact disk (.error (.storage directory reason)) after
  | notCreated (first : Disk) {after : Disk} {reason : String}
      (hmake : (storage.makeDirectories directory).run disk = (.ok (), first))
      (hcreate : (storage.createTemporary directory).run first = (.error reason, after)) :
      Stages output directory artifact disk (.error (.storage directory reason)) after
  | notFilled (first second third : Disk) {after : Disk} (temporary : Location) {reason : String}
      (hmake : (storage.makeDirectories directory).run disk = (.ok (), first))
      (hcreate : (storage.createTemporary directory).run first = (.ok temporary, second))
      (hfill : (storage.fillTemporary temporary artifact.contents).run second =
        (.error reason, third))
      (hdiscard : (storage.discard temporary).run third = ((), after)) :
      Stages output directory artifact disk
        (.error (.storage (artifact.destination output) reason)) after

/-- Staging an artifact comes out in one of these ways. -/
theorem stages_of_run {artifact : Artifact} {directory : Path}
    {result : Except Failure (Staged Location)}
    (hdirectory : (artifact.destination output).parent? = some directory)
    (h : (storage.stage output artifact).run disk = (result, after)) :
    Stages output directory artifact disk result after := by
  simp only [Storage.stage, run_bind, Artifact.join_path, hdirectory, Option.getD_some] at h
  rcases hmake : (storage.makeDirectories directory).run disk with ⟨made, first⟩
  simp only [hmake] at h
  cases made with
  | error reason =>
    obtain ⟨rfl, rfl⟩ := Prod.mk.inj h
    exact .notMade hmake
  | ok _ =>
    simp only [run_bind] at h
    rcases hcreate : (storage.createTemporary directory).run first with ⟨created, second⟩
    simp only [hcreate] at h
    cases created with
    | error reason =>
      obtain ⟨rfl, rfl⟩ := Prod.mk.inj h
      exact .notCreated _ hmake hcreate
    | ok temporary =>
      simp only [run_bind] at h
      rcases hfill : (storage.fillTemporary temporary artifact.contents).run second with
        ⟨filled, third⟩
      simp only [hfill] at h
      cases filled with
      | ok _ =>
        obtain ⟨rfl, rfl⟩ := Prod.mk.inj h
        exact .staged _ _ _ hmake hcreate hfill
      | error reason =>
        obtain ⟨rfl, rfl⟩ := Prod.mk.inj h
        exact .notFilled _ _ _ _ hmake hcreate hfill rfl

/-- A temporary file that is created and filled stands where nothing stood, and nothing else is
changed but that directories are made. -/
theorem keepsOutside_of_fillTemporary {first second : Disk} {directory : Path}
    {isMade : Location → Prop} {temporary : Location} {contents : String}
    {result : Except String Unit}
    (hway : ∀ location, directory.LeadsAlong location → isMade location)
    (hmake : (storage.makeDirectories directory).run disk = (.ok (), first))
    (hcreate : (storage.createTemporary directory).run first = (.ok temporary, second))
    (hfill : (storage.fillTemporary temporary contents).run second = (result, after)) :
    disk.tree.entry? temporary = none ∧ temporary.EndsIn '0' ∧
      FileTree.KeepsOutside [temporary] isMade disk.tree after.tree := by
  have hmade := (run_makeDirectories hmake).2.mono (List.Subset.refl _) hway
  obtain ⟨-, hnone, hends, hput⟩ := run_createTemporary hcreate
  obtain ⟨-, written, hwritten, -⟩ := run_fillTemporary hfill
  refine ⟨hmade.entry?_eq_none (by simp) hnone, hends, ?_⟩
  rw [hwritten, hput]
  exact (hmade.mono (List.nil_subset _) fun _ => id).trans
    ((FileTree.KeepsOutside.put (List.mem_singleton_self _) _).trans
      (FileTree.KeepsOutside.put (List.mem_singleton_self _) _))

/-- An artifact is staged in a temporary file where nothing stood. If it cannot be staged, at most
directories on the way to the destination were made. -/
theorem run_stage {artifact : Artifact} {result : Except Failure (Staged Location)}
    (hsource : artifact.NamesSource)
    (h : (storage.stage output artifact).run disk = (result, after)) :
    ∃ events, after.past = events ++ disk.past ∧
      ((∃ temporary, result = .ok (StagedArtifact.staged output ⟨temporary, artifact⟩) ∧
          Prepared output disk.tree after.tree [⟨temporary, artifact⟩] ∧ AllSucceed events) ∨
        (∃ path reason, result = .error (.storage path reason)) ∧
          (after.UndoesAll → StagingFailed output [artifact] disk.tree after.tree events)) := by
  obtain ⟨directory, hdirectory, hthrough⟩ := hsource.exists_directory output
  have hway : ∀ location, directory.LeadsAlong location → OnTheWay output [artifact] location :=
    fun location halong => ⟨artifact, List.mem_singleton_self _, hthrough location halong⟩
  cases stages_of_run hdirectory h with
  | notMade hmake =>
    obtain ⟨hpast, hmade⟩ := run_makeDirectories hmake
    refine ⟨[_], hpast, .inr ⟨⟨_, _, rfl⟩, fun _ => ⟨hmade.mono (List.Subset.refl _) hway, ?_⟩⟩⟩
    exact ⟨⟨_, List.mem_cons_self, rfl⟩, by simp [Step.isStaging]⟩
  | notCreated first hmake hcreate =>
    obtain ⟨hfirst, hmade⟩ := run_makeDirectories hmake
    obtain ⟨hpast, hsame⟩ := run_createTemporary hcreate
    refine ⟨[_, _], by rw [hpast, hfirst]; rfl, .inr ⟨⟨_, _, rfl⟩, fun _ => ⟨?_, ?_⟩⟩⟩
    · rw [hsame]
      exact hmade.mono (List.Subset.refl _) hway
    · exact ⟨⟨_, List.mem_cons_self, rfl⟩, by simp [Step.isStaging]⟩
  | staged first second temporary hmake hcreate hfill =>
    obtain ⟨hfree, hends, hkeeps⟩ := keepsOutside_of_fillTemporary hway hmake hcreate hfill
    obtain ⟨hpast, written, hwritten, hcontents⟩ := run_fillTemporary hfill
    refine ⟨[_, _, _], by
      rw [hpast, (run_createTemporary hcreate).1, (run_makeDirectories hmake).1]; rfl,
      .inl ⟨_, rfl, ?_, ?_⟩⟩
    · refine ⟨?_, by simp [FreshIn, hfree, hends], by simp, hkeeps⟩
      simp [hwritten, hcontents rfl, FileTree.entry?_put_self hends.names_ne_nil]
    · simp [AllSucceed, Except.isOk, Except.toBool]
  | notFilled first second third temporary hmake hcreate hfill hdiscard =>
    obtain ⟨hfree, hends, hkeeps⟩ := keepsOutside_of_fillTemporary hway hmake hcreate hfill
    obtain ⟨discarded, hpast, herased⟩ := erases_discard _ hdiscard
    refine ⟨discarded ++ [_, _, _], by
      rw [hpast, (run_fillTemporary hfill).1, (run_createTemporary hcreate).1,
        (run_makeDirectories hmake).1, List.append_assoc]; rfl,
      .inr ⟨⟨_, _, rfl⟩, fun hundo => ?_⟩⟩
    obtain ⟨hdiscarded, htree⟩ := herased hundo
    constructor
    · rw [htree]
      refine FileTree.KeepsOutside.eraseAll_release hkeeps ?_
      simp [hends.names_ne_nil, hfree]
    · refine FailsOnlyAt.append_left ⟨⟨_, List.mem_cons_self, rfl⟩, ?_⟩ hdiscarded
      simp [Step.isStaging]

/-- Discarding staged artifacts erases their temporary files. -/
theorem erases_discardAll (staged : List (Staged Location)) :
    Erases (storage.discardAll staged) (staged.map Staged.temporary) := by
  induction staged with
  | nil => exact erases_pure
  | cons file files ih => exact (erases_discard file.temporary).bind ih

/-- Once an artifact is staged the others are; if it cannot be, those staged before are
discarded. -/
theorem stageAll_cons {artifact : Artifact} {artifacts : List Artifact}
    {staged : List (Staged Location)} {result : Except Failure (List (Staged Location))}
    (h : (storage.stageAll output staged (artifact :: artifacts)).run disk = (result, after)) :
    (∃ next middle, (storage.stage output artifact).run disk = (.ok next, middle) ∧
        (storage.stageAll output (staged ++ [next]) artifacts).run middle = (result, after)) ∨
      ∃ failure middle, (storage.stage output artifact).run disk = (.error failure, middle) ∧
        (storage.discardAll staged).run middle = ((), after) ∧ result = .error failure := by
  simp only [Storage.stageAll, run_bind] at h
  rcases hstage : (storage.stage output artifact).run disk with ⟨outcome, middle⟩
  simp only [hstage] at h
  cases outcome with
  | ok next => exact .inl ⟨next, middle, rfl, h⟩
  | error failure =>
    obtain ⟨rfl, rfl⟩ := Prod.mk.inj h
    exact .inr ⟨failure, middle, rfl, rfl, rfl⟩

/-- Staging artifacts leaves all of them in temporary files, or, if one of them cannot be staged,
none. -/
theorem run_stageAll {files : List StagedArtifact} {artifacts : List Artifact} {start : FileTree}
    {result : Except Failure (List (Staged Location))}
    (hsource : ∀ artifact ∈ artifacts, artifact.NamesSource)
    (hfiles : Prepared output start disk.tree files)
    (h : (storage.stageAll output (files.map (StagedArtifact.staged output)) artifacts).run disk =
      (result, after)) :
    ∃ events, after.past = events ++ disk.past ∧
      ((∃ all : List StagedArtifact, result = .ok (all.map (StagedArtifact.staged output)) ∧
          all.map StagedArtifact.artifact = files.map StagedArtifact.artifact ++ artifacts ∧
          Prepared output start after.tree all ∧ AllSucceed events) ∨
        (∃ path reason, result = .error (.storage path reason)) ∧
          (after.UndoesAll → StagingFailed output
            (files.map StagedArtifact.artifact ++ artifacts) start after.tree events)) := by
  induction artifacts generalizing files disk with
  | nil =>
    obtain ⟨rfl, rfl⟩ := Prod.mk.inj h
    exact ⟨[], rfl, .inl ⟨files, rfl, by simp, hfiles, by simp [AllSucceed]⟩⟩
  | cons artifact artifacts ih =>
    have hartifact := hsource artifact List.mem_cons_self
    obtain ⟨next, middle, hstage, h⟩ | ⟨failure, middle, hstage, hdiscard, rfl⟩ := stageAll_cons h
    · obtain ⟨first, hfirst, ⟨temporary, hnext, hone, hsucceeded⟩ | ⟨⟨_, _, hfailed⟩, -⟩⟩ :=
        run_stage hartifact hstage
      · obtain rfl := Except.ok.inj hnext
        rw [← List.map_singleton (f := StagedArtifact.staged output), ← List.map_append] at h
        obtain ⟨events, hevents, hrest⟩ :=
          ih (fun other hother => hsource other (List.mem_cons_of_mem _ hother))
            (hfiles.append hone) h
        simp only [List.map_append, List.map_cons, List.map_nil, List.append_assoc,
          List.singleton_append] at hrest
        refine ⟨events ++ first, by rw [hevents, hfirst, List.append_assoc], ?_⟩
        refine hrest.imp ?_ ?_
        · rintro ⟨all, hresult, hall, hprepared, hsucceeded'⟩
          exact ⟨all, hresult, hall, hprepared, hsucceeded'.append hsucceeded⟩
        · rintro ⟨herror, hfailed⟩
          refine ⟨herror, fun hundo => ⟨(hfailed hundo).keeps, ?_⟩⟩
          exact (hfailed hundo).failed.append hsucceeded
      · cases hfailed
    · obtain ⟨first, hfirst, ⟨_, hstaged, -⟩ | ⟨⟨path, reason, hfailure⟩, hfailed⟩⟩ :=
        run_stage hartifact hstage
      · cases hstaged
      · obtain rfl := Except.error.inj hfailure
        obtain ⟨events, hlast, hdiscarded⟩ := erases_discardAll _ hdiscard
        refine ⟨events ++ first, by rw [hlast, hfirst, List.append_assoc], .inr ⟨⟨_, _, rfl⟩, ?_⟩⟩
        intro hundo
        obtain ⟨hevents, htree⟩ := hdiscarded hundo
        have hfailed := hfailed (hundo.of_append hlast)
        refine ⟨?_, hfailed.failed.append_left hevents⟩
        have hstaged := hfiles.keeps.append hfailed.keeps
        rw [htree, List.map_map]
        refine (FileTree.KeepsOutside.eraseAll_release hstaged hfiles.fresh.names_ne_nil).mono
          (List.Subset.refl _) fun _ hway => hway.mono ?_
        simp

end Disk

end PersistenceLayer
