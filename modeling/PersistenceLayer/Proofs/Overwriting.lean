import Mathlib.Data.List.Nodup
import PersistenceLayer.Proofs.KeptDirectories
import PersistenceLayer.Proofs.Publishing

/-!
# What is written last

The paths of different entities can lead to the same place in different ways,
so an artifact may be overwritten by a later one of the same run. Where all
entities are written, each destination holds the artifact that was published
there last, and every directory on the way to one is there.
-/

namespace PersistenceLayer

/-! ## The last artifact at a place -/

section LastAt

variable {output : Path} {artifacts : List Artifact} {artifact : Artifact} {location : Location}

/-- The last of some artifacts that are published at a place. -/
def lastAt (output : Path) (artifacts : List Artifact) (location : Location) : Option Artifact :=
  artifacts.reverse.find? fun artifact => artifact.placeBelow output = location

/-- What is published later is last, unless it is published elsewhere. -/
theorem lastAt_append (artifacts others : List Artifact) :
    lastAt output (artifacts ++ others) location =
      (lastAt output others location).or (lastAt output artifacts location) := by
  simp [lastAt, List.find?_append]

theorem mem_of_lastAt (h : lastAt output artifacts location = some artifact) :
    artifact ∈ artifacts ∧ artifact.placeBelow output = location :=
  ⟨List.mem_reverse.mp (List.mem_of_find?_eq_some h), by simpa using List.find?_some h⟩

theorem lastAt_eq_none_iff :
    lastAt output artifacts location = none ↔ location ∉ artifacts.map (·.placeBelow output) := by
  simp [lastAt]

/-- At different places, each artifact is the last one. -/
theorem lastAt_of_nodup (hplaces : (artifacts.map (·.placeBelow output)).Nodup)
    (hmem : artifact ∈ artifacts) :
    lastAt output artifacts (artifact.placeBelow output) = some artifact := by
  cases hlast : lastAt output artifacts (artifact.placeBelow output) with
  | none => exact absurd (List.mem_map_of_mem hmem) (lastAt_eq_none_iff.mp hlast)
  | some other =>
    obtain ⟨hother, hplace⟩ := mem_of_lastAt hlast
    exact congrArg some (List.inj_on_of_nodup_map hplaces hother hmem hplace)

end LastAt

/-! ## Trees that artifacts are written over -/

/-- What is left when artifacts have been written one after the other. -/
structure Overwritten (output : Path) (before after : FileTree) (artifacts : List Artifact) :
    Prop where
  written : ∀ location artifact, lastAt output artifacts location = some artifact →
    after.entry? location = some (.file artifact.contents)
  keeps : FileTree.KeepsOutside (artifacts.map (·.placeBelow output)) (OnTheWay output artifacts)
    before after
  directories : before.KeepsDirectories after
  accessible : ∀ artifact ∈ artifacts, after.Accessible (artifact.destination output)

namespace Overwritten

variable {output : Path} {before middle after : FileTree} {artifacts others : List Artifact}

theorem nil (output : Path) (tree : FileTree) : Overwritten output tree tree [] where
  written := by simp [lastAt]
  keeps := .refl _ _ _
  directories := .refl _
  accessible := by simp

/-- What is written later replaces what was written before at the same places. -/
theorem append (h : Overwritten output before middle artifacts)
    (hothers : Overwritten output middle after others) :
    Overwritten output before after (artifacts ++ others) where
  written := by
    intro location artifact hlast
    rw [lastAt_append, Option.or_eq_some_iff] at hlast
    obtain hlast | ⟨hnone, hlast⟩ := hlast
    · exact hothers.written location artifact hlast
    · exact hothers.keeps.entry?_eq_some (lastAt_eq_none_iff.mp hnone)
        (h.written location artifact hlast)
  keeps := by
    rw [List.map_append]
    exact h.keeps.append hothers.keeps
  directories := h.directories.trans hothers.directories
  accessible := List.forall_mem_append.mpr
    ⟨fun artifact hmem => (h.accessible artifact hmem).of_keepsDirectories hothers.directories,
      hothers.accessible⟩

/-- Published artifacts at different places are written. -/
theorem of_published (h : Published output before after artifacts)
    (hdirectories : before.KeepsDirectories after)
    (haccessible : ∀ artifact ∈ artifacts, after.Accessible (artifact.destination output)) :
    Overwritten output before after artifacts where
  written := by
    intro location artifact hlast
    obtain ⟨hmem, rfl⟩ := mem_of_lastAt hlast
    exact h.written artifact hmem
  keeps := h.keeps
  directories := hdirectories
  accessible := haccessible

/-- All directories on the way to what is written are there. -/
theorem entry?_of_onTheWay (h : Overwritten output before after artifacts) {location : Location}
    (hway : OnTheWay output artifacts location) : after.entry? location = some .directory := by
  obtain ⟨artifact, hmem, hthrough⟩ := hway
  exact FileTree.entry?_of_leadsThrough (h.accessible artifact hmem).found hthrough

/-- Each destination holds a file. -/
theorem exists_file (h : Overwritten output before after artifacts) {location : Location}
    (hmem : location ∈ artifacts.map (·.placeBelow output)) :
    ∃ artifact, lastAt output artifacts location = some artifact ∧
      after.entry? location = some (.file artifact.contents) := by
  cases hlast : lastAt output artifacts location with
  | none => exact absurd hmem (lastAt_eq_none_iff.mp hlast)
  | some artifact => exact ⟨artifact, rfl, h.written location artifact hlast⟩

/-- At different places every artifact is found that has been written. -/
theorem entry?_of_mem (h : Overwritten output before after artifacts)
    (hplaces : (artifacts.map (·.placeBelow output)).Nodup) {artifact : Artifact}
    (hmem : artifact ∈ artifacts) :
    after.entry? (artifact.placeBelow output) = some (.file artifact.contents) :=
  h.written _ _ (lastAt_of_nodup hplaces hmem)

/-- Writing the same artifacts again changes nothing. -/
theorem entry?_eq_of_again (h : Overwritten output before middle artifacts)
    (hagain : Overwritten output middle after artifacts) (location : Location) :
    after.entry? location = middle.entry? location := by
  by_cases hmem : location ∈ artifacts.map (·.placeBelow output)
  · obtain ⟨artifact, hlast, hfile⟩ := h.exists_file hmem
    rw [hfile, hagain.written location artifact hlast]
  · refine (hagain.keeps location hmem).resolve_right ?_
    rintro ⟨hnone, -, hway⟩
    rw [h.entry?_of_onTheWay hway] at hnone
    cases hnone

end Overwritten

/-! ## Writing that succeeds -/

namespace FileTree

variable {tree : FileTree} {location : Location} {entry : TreeEntry}

/-- No directory is lost where a file is put. -/
theorem KeepsDirectories.put (h : tree.entry? location ≠ some .directory) (entry : TreeEntry) :
    KeepsDirectories tree (tree.put location entry) := by
  have hput : KeepsOutside [location] (fun _ => False) tree (tree.put location entry) :=
    .put (List.mem_singleton_self _) entry
  exact .of_keepsOutside hput (by simpa using h)

/-- No directory is lost where a file is moved. -/
theorem KeepsDirectories.move {contents : String}
    (hfile : tree.entry? location = some (.file contents)) {place : Location}
    (hfree : tree.entry? place ≠ some .directory) (entry : TreeEntry) :
    KeepsDirectories tree ((tree.erase location).put place entry) := by
  have hmove : KeepsOutside [location, place] (fun _ => False) tree
      ((tree.erase location).put place entry) :=
    (KeepsOutside.erase (by simp)).trans (.put (by simp) entry)
  exact .of_keepsOutside hmove (by simpa [hfile] using hfree)

/-- A file is moved only where no directory stands. -/
theorem placeAt_of_rename {changed : FileTree} {path : Path}
    (h : tree.rename location path = .ok changed) :
    tree.placeAt path = .ok path.place ∧ tree.entry? path.place ≠ some .directory := by
  simp only [rename, bind, Except.bind] at h
  split at h
  · cases h
  · next destination hplace =>
    obtain rfl := eq_place_of_placeAt hplace
    refine ⟨hplace, fun hdirectory => ?_⟩
    rw [hdirectory] at h
    cases hentry : tree.entry? location <;> rw [hentry] at h <;> cases h

/-- A temporary file is created in a directory that can be entered. -/
theorem exists_directory_of_createTemporary {changed : FileTree} {path : Path}
    (h : tree.createTemporary path = .ok (changed, location)) :
    ∃ directory, tree.directoryAt path = .ok directory := by
  cases hdirectory : tree.directoryAt path with
  | ok directory => exact ⟨directory, rfl⟩
  | error obstruction =>
    simp only [createTemporary, hdirectory, bind, Except.bind] at h
    cases h

end FileTree

namespace Disk

variable {disk after : Disk} {output : Path} {artifacts : List Artifact}

/-- Once an artifact is staged, the directory of its destination is there. -/
theorem hasDirectory_of_stage {artifact : Artifact} {staged : Staged Location}
    (hsource : artifact.NamesSource)
    (h : (storage.stage output artifact).run disk = (.ok staged, after)) :
    disk.tree.KeepsDirectories after.tree ∧
      ∀ directory, (artifact.destination output).parent? = some directory →
        after.tree.HasDirectory directory := by
  obtain ⟨directory, hdirectory, -⟩ := hsource.exists_directory output
  cases stages_of_run hdirectory h with
  | staged first second temporary hmake hcreate hfill =>
    have hmade := makeDirectories_of_run hmake
    have hfirst : disk.tree.KeepsDirectories first.tree :=
      .of_keepsOutside (run_makeDirectories hmake).2 (by simp)
    obtain ⟨-, hfree, hends, hput⟩ := run_createTemporary hcreate
    obtain ⟨-, written, hwritten, -⟩ := run_fillTemporary hfill
    have hsecond : first.tree.KeepsDirectories second.tree := hput ▸ .put (by simp [hfree]) _
    have hlast : first.tree.KeepsDirectories after.tree := by
      rw [hwritten]
      exact hsecond.trans (.put (by simp [hput, FileTree.entry?_put_self hends.names_ne_nil]) _)
    obtain ⟨location, hentered⟩ :=
      FileTree.exists_directory_of_createTemporary (createTemporary_of_run hcreate)
    refine ⟨hfirst.trans hlast, fun other hother => ?_⟩
    obtain rfl := Option.some.inj (hdirectory.symm.trans hother)
    exact ⟨FileTree.makeDirectories_of_keepsDirectories hmade hlast, location,
      FileTree.directoryAt_of_keepsDirectories hlast hentered⟩

/-- Once artifacts are staged, the directories of their destinations are there. -/
theorem hasDirectory_of_stageAll {staged files : List (Staged Location)}
    (hsource : ∀ artifact ∈ artifacts, artifact.NamesSource)
    (h : (storage.stageAll output staged artifacts).run disk = (.ok files, after)) :
    disk.tree.KeepsDirectories after.tree ∧ ∀ artifact ∈ artifacts, ∀ directory,
      (artifact.destination output).parent? = some directory →
        after.tree.HasDirectory directory := by
  induction artifacts generalizing disk staged with
  | nil =>
    obtain ⟨-, rfl⟩ := Prod.mk.inj h
    exact ⟨.refl _, by simp⟩
  | cons artifact artifacts ih =>
    obtain ⟨hartifact, hsource⟩ := List.forall_mem_cons.mp hsource
    obtain ⟨next, middle, hstage, h⟩ | ⟨_, _, -, -, hfailed⟩ := stageAll_cons h
    · obtain ⟨hfirst, hdirectory⟩ := hasDirectory_of_stage hartifact hstage
      obtain ⟨hrest, hdirectories⟩ := ih hsource h
      refine ⟨hfirst.trans hrest, List.forall_mem_cons.mpr ⟨fun directory hparent => ?_,
        hdirectories⟩⟩
      exact (hdirectory directory hparent).of_keepsDirectories hrest
    · cases hfailed

/-- Once artifacts are published, no directory is lost and each destination can be found. -/
theorem placeAt_of_publishAll {isMade : Location → Prop} {start : FileTree}
    {published : List Artifact} {files : List StagedArtifact} {written : List Path}
    (hfiles : Publishing output isMade start disk.tree published files)
    (h : (storage.publishAll (published.map (·.destination output))
      (files.map (StagedArtifact.staged output))).run disk = (.ok written, after)) :
    disk.tree.KeepsDirectories after.tree ∧ ∀ artifact ∈ files.map StagedArtifact.artifact,
      after.tree.placeAt (artifact.destination output) = .ok (artifact.placeBelow output) := by
  induction files generalizing published disk with
  | nil =>
    obtain ⟨-, rfl⟩ := Prod.mk.inj h
    exact ⟨.refl _, by simp⟩
  | cons file files ih =>
    obtain ⟨middle, hpublish, h⟩ | ⟨_, _, _, -, -, -, hfailed⟩ := publishAll_cons h
    · obtain ⟨hplace, hfree⟩ := FileTree.placeAt_of_rename (rename_of_run hpublish)
      obtain ⟨htree, hnext⟩ := next_of_publish hfiles hpublish
      have hmiddle : disk.tree.KeepsDirectories middle.tree :=
        htree ▸ .move (hfiles.filled file List.mem_cons_self) hfree _
      obtain ⟨hrest, hplaces⟩ := ih hnext h
      refine ⟨hmiddle.trans hrest, List.forall_mem_cons.mpr ⟨?_, hplaces⟩⟩
      exact FileTree.placeAt_of_keepsDirectories (hmiddle.trans hrest) hplace
    · cases hfailed

/-- Artifacts that are written are the last ones at their places, in directories that are there. -/
theorem overwritten_of_writeArtifacts {written : List Path}
    (hsource : ∀ artifact ∈ artifacts, artifact.NamesSource)
    (hplaces : (artifacts.map (·.placeBelow output)).Nodup)
    (h : (storage.writeArtifacts output artifacts).run disk = (.ok written, after)) :
    written = artifacts.map (·.destination output) ∧
      Overwritten output disk.tree after.tree artifacts := by
  obtain ⟨-, -, ⟨hwritten, hpublished, -⟩ | ⟨⟨_, _, hfailed⟩, -⟩⟩ :=
    run_writeArtifacts hsource hplaces h
  · refine ⟨Except.ok.inj hwritten, ?_⟩
    obtain ⟨files, middle, -, hstage, hpublish, rfl, hprepared, -⟩ | ⟨_, _, -, -, herror, -⟩ :=
      writeArtifacts_cases hsource h
    · obtain ⟨hstaging, hdirectories⟩ := hasDirectory_of_stageAll hsource hstage
      obtain ⟨hpublishing, hfound⟩ :=
        placeAt_of_publishAll (.of_prepared hprepared hsource hplaces) hpublish
      refine .of_published hpublished (hstaging.trans hpublishing) fun artifact hmem => ?_
      exact ⟨fun directory hparent =>
        (hdirectories artifact hmem directory hparent).of_keepsDirectories hpublishing,
        hfound artifact hmem⟩
    · cases herror
  · cases hfailed

end Disk

end PersistenceLayer
