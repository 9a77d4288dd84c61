import PersistenceLayer.Proofs.Moments

/-!
# Moments while an entity is written

The steps that write the artifacts of an entity are followed one by one, whether
they succeed, fail or are broken off half way. The entity is `Underway` at every
moment between them: first all artifacts are staged, then one after the other is
published, and what has to be undone is undone in the order of the program.
-/

namespace PersistenceLayer

namespace Disk

variable {disk after : Disk} {output : Path} {planned artifacts : List Artifact} {start : Moment}

/-! ## Staging -/

/-- While directories on the way to an artifact are made nothing is published. -/
theorem throughout_makeDirectories {directory : Path} {made : Except String Unit}
    (hserves : ∃ artifact ∈ planned, (artifact.destination output).parent? = some directory)
    (hway : ∀ location, directory.LeadsAlong location → OnTheWay output artifacts location)
    (hstart : Underway output planned artifacts start [] disk.now)
    (h : (storage.makeDirectories directory).run disk = (made, after)) :
    Throughout (Underway output planned artifacts start []) disk after := by
  obtain ⟨hpast, hmade⟩ := run_makeDirectories h
  exact .step rfl hpast
    (hstart.stage hserves (List.forall_mem_nil _) (hmade.mono (List.Subset.refl _) hway))

/-- While a temporary file is created and filled nothing is published. -/
theorem throughout_fillTemporary {middle : Disk} {directory : Path} {temporary : Location}
    {contents : String} {filled : Except String Unit}
    (hserves : ∃ artifact ∈ planned, (artifact.destination output).parent? = some directory)
    (hstart : Underway output planned artifacts start [] disk.now)
    (hcreate : (storage.createTemporary directory).run disk = (.ok temporary, middle))
    (hfill : (storage.fillTemporary temporary contents).run middle = (filled, after)) :
    IsTemporaryIn start.tree temporary ∧
      Throughout (Underway output planned artifacts start []) disk after := by
  have htemporary : IsTemporaryIn start.tree temporary :=
    hstart.isTemporaryIn
      (FileTree.isTemporaryIn_of_createTemporary (createTemporary_of_run hcreate))
  have hfile : ∀ location ∈ [temporary], IsTemporaryIn start.tree location :=
    List.forall_mem_singleton.mpr htemporary
  obtain ⟨hmiddle, -, -, hput⟩ := run_createTemporary hcreate
  obtain ⟨hpast, written, hwritten, -⟩ := run_fillTemporary hfill
  have hfirst := Throughout.step rfl hmiddle
    (hstart.stage hserves hfile (hput ▸ .put (List.mem_singleton_self _) _))
  exact ⟨htemporary, hfirst.trans (.step rfl hpast
    (hfirst.now.stage trivial hfile (hwritten ▸ .put (List.mem_singleton_self _) _)))⟩

/-- While an artifact is staged nothing is published, and it is staged in a temporary file. -/
theorem throughout_stage {artifact : Artifact} {result : Except Failure (Staged Location)}
    (hplanned : artifacts ⊆ planned) (hartifact : artifact ∈ artifacts)
    (hsource : artifact.NamesSource)
    (hstart : Underway output planned artifacts start [] disk.now)
    (h : (storage.stage output artifact).run disk = (result, after)) :
    Throughout (Underway output planned artifacts start []) disk after ∧
      ∀ staged, result = .ok staged → IsTemporaryIn start.tree staged.temporary := by
  obtain ⟨directory, hdirectory, hthrough⟩ := hsource.exists_directory output
  have hway : ∀ location, directory.LeadsAlong location → OnTheWay output artifacts location :=
    fun location halong => ⟨artifact, hartifact, hthrough location halong⟩
  have hserves : ∃ artifact ∈ planned, (artifact.destination output).parent? = some directory :=
    ⟨artifact, hplanned hartifact, hdirectory⟩
  cases stages_of_run hdirectory h with
  | notMade hmake => exact ⟨throughout_makeDirectories hserves hway hstart hmake, by simp⟩
  | notCreated first hmake hcreate =>
    have hmaking := throughout_makeDirectories hserves hway hstart hmake
    obtain ⟨hpast, hsame⟩ := run_createTemporary hcreate
    have hkeeps : FileTree.KeepsOutside [] (OnTheWay output artifacts) first.tree after.tree := by
      rw [hsame]
      exact .refl _ _ _
    exact ⟨hmaking.trans (.step rfl hpast
      (hmaking.now.stage hserves (List.forall_mem_nil _) hkeeps)), by simp⟩
  | staged first second temporary hmake hcreate hfill =>
    have hmaking := throughout_makeDirectories hserves hway hstart hmake
    obtain ⟨htemporary, hfilling⟩ := throughout_fillTemporary hserves hmaking.now hcreate hfill
    exact ⟨hmaking.trans hfilling, fun staged hstaged => Except.ok.inj hstaged ▸ htemporary⟩
  | notFilled first second third temporary hmake hcreate hfill hdiscard =>
    have hmaking := throughout_makeDirectories hserves hway hstart hmake
    obtain ⟨htemporary, hfilling⟩ := throughout_fillTemporary hserves hmaking.now hcreate hfill
    obtain ⟨succeeded, hpast, htree⟩ := run_discard hdiscard
    exact ⟨(hmaking.trans hfilling).trans (.step rfl hpast
      (hfilling.now.discard (List.forall_mem_nil _) trivial htemporary htree)), by simp⟩

/-- While staged artifacts are discarded only temporary files change. -/
theorem throughout_discardAll {published : List Artifact} {staged : List (Staged Location)}
    (hsource : ∀ artifact ∈ published, artifact.NamesSource)
    (htemporaries : ∀ file ∈ staged, IsTemporaryIn start.tree file.temporary)
    (hstart : Underway output planned artifacts start published disk.now)
    (h : (storage.discardAll staged).run disk = ((), after)) :
    Throughout (Underway output planned artifacts start published) disk after := by
  induction staged generalizing disk with
  | nil =>
    obtain ⟨-, rfl⟩ := Prod.mk.inj h
    exact .refl hstart
  | cons file staged ih =>
    obtain ⟨htemporary, htemporaries⟩ := List.forall_mem_cons.mp htemporaries
    simp only [Storage.discardAll, run_bind] at h
    rcases hdiscard : (storage.discard file.temporary).run disk with ⟨_, middle⟩
    obtain ⟨succeeded, hpast, htree⟩ := run_discard hdiscard
    rw [hdiscard] at h
    have hfirst := Throughout.step rfl hpast (hstart.discard hsource trivial htemporary htree)
    exact hfirst.trans (ih htemporaries hfirst.now h)

/-- While artifacts are staged nothing is published, and all of them are staged in temporary
files. -/
theorem throughout_stageAll {staged : List (Staged Location)} {others : List Artifact}
    {result : Except Failure (List (Staged Location))} (hplanned : artifacts ⊆ planned)
    (hothers : others ⊆ artifacts) (hsource : ∀ artifact ∈ artifacts, artifact.NamesSource)
    (htemporaries : ∀ file ∈ staged, IsTemporaryIn start.tree file.temporary)
    (hstart : Underway output planned artifacts start [] disk.now)
    (h : (storage.stageAll output staged others).run disk = (result, after)) :
    Throughout (Underway output planned artifacts start []) disk after ∧
      ∀ files, result = .ok files → ∀ file ∈ files, IsTemporaryIn start.tree file.temporary := by
  induction others generalizing disk staged with
  | nil =>
    obtain ⟨rfl, rfl⟩ := Prod.mk.inj h
    exact ⟨.refl hstart, fun files hfiles => Except.ok.inj hfiles ▸ htemporaries⟩
  | cons artifact others ih =>
    obtain ⟨hartifact, hothers⟩ := List.cons_subset.mp hothers
    obtain ⟨next, middle, hstage, h⟩ | ⟨failure, middle, hstage, hdiscard, rfl⟩ := stageAll_cons h
    · obtain ⟨hfirst, htemporary⟩ :=
        throughout_stage hplanned hartifact (hsource artifact hartifact) hstart hstage
      have hfiles : ∀ file ∈ staged ++ [next], IsTemporaryIn start.tree file.temporary :=
        List.forall_mem_append.mpr
          ⟨htemporaries, List.forall_mem_singleton.mpr (htemporary next rfl)⟩
      obtain ⟨hrest, hall⟩ := ih hothers hfiles hfirst.now h
      exact ⟨hfirst.trans hrest, hall⟩
    · have hfirst :=
        (throughout_stage hplanned hartifact (hsource artifact hartifact) hstart hstage).1
      exact ⟨hfirst.trans (throughout_discardAll (List.forall_mem_nil _) htemporaries hfirst.now
        hdiscard), by simp⟩

/-! ## Publishing -/

/-- While published artifacts are withdrawn they stand whole or are gone. -/
theorem throughout_withdrawAll {published withdrawn : List Artifact}
    (hplanned : published ⊆ planned) (hwithdrawn : withdrawn ⊆ published)
    (hsource : ∀ artifact ∈ published, artifact.NamesSource)
    (hrolls : RollsBack output artifacts disk.past)
    (hstart : Underway output planned artifacts start published disk.now)
    (h : (storage.withdrawAll (withdrawn.map (·.destination output))).run disk = ((), after)) :
    Throughout (Underway output planned artifacts start published) disk after := by
  induction withdrawn generalizing disk with
  | nil =>
    obtain ⟨-, rfl⟩ := Prod.mk.inj h
    exact .refl hstart
  | cons artifact withdrawn ih =>
    obtain ⟨hartifact, hwithdrawn⟩ := List.cons_subset.mp hwithdrawn
    simp only [List.map_cons, Storage.withdrawAll, run_bind] at h
    rcases hwithdraw : (storage.withdraw (artifact.destination output)).run disk with ⟨_, middle⟩
    obtain ⟨succeeded, hpast, htree⟩ := run_withdraw hwithdraw
    rw [hwithdraw] at h
    have hfirst := Throughout.step rfl hpast
      (hstart.withdraw hsource ⟨artifact, hplanned hartifact, rfl⟩ hartifact hrolls htree)
    have hlater : disk.past ⊆ middle.past := hpast ▸ List.subset_cons_self _ _
    exact hfirst.trans (ih hwithdrawn (hrolls.mono hlater) hfirst.now h)

/-- Once one artifact cannot be published, those published so far are withdrawn and the temporary
files are discarded. -/
theorem throughout_takeBack {middle : Disk} {published : List Artifact}
    {files : List StagedArtifact} (hplanned : published ⊆ planned)
    (hsource : ∀ artifact ∈ published, artifact.NamesSource)
    (htemporaries : ∀ file ∈ files, IsTemporaryIn start.tree file.temporary)
    (hrolls : RollsBack output artifacts disk.past)
    (hstart : Underway output planned artifacts start published disk.now)
    (hwithdraw : (storage.withdrawAll (published.map (·.destination output))).run disk =
      ((), middle))
    (hdiscard : (storage.discardAll (files.map (StagedArtifact.staged output))).run middle =
      ((), after)) :
    Throughout (Underway output planned artifacts start published) disk after := by
  have hwithdrawn := throughout_withdrawAll hplanned (List.Subset.refl _) hsource hrolls hstart
    hwithdraw
  have hdiscarded : ∀ staged ∈ files.map (StagedArtifact.staged output),
      IsTemporaryIn start.tree staged.temporary := List.forall_mem_map.mpr htemporaries
  exact hwithdrawn.trans (throughout_discardAll hsource hdiscarded hwithdrawn.now hdiscard)

/-- While staged artifacts are published, and those published so far are withdrawn if one cannot be,
they are underway. Before the first one is published, all of them are staged. If no step fails, all
of them are published in the end. -/
theorem throughout_publishAll {published : List Artifact} {files : List StagedArtifact}
    {result : Except Failure (List Path)} (hplanned : artifacts ⊆ planned)
    (hartifacts : published ++ files.map StagedArtifact.artifact = artifacts)
    (htemporaries : ∀ file ∈ files, IsTemporaryIn start.tree file.temporary)
    (hfiles : Publishing output (OnTheWay output artifacts) start.tree disk.tree published files)
    (hstaged : published = [] ∧ Prepared output start.tree disk.tree files ∨
      WasStaged output start.tree artifacts disk.past)
    (hstart : Underway output planned artifacts start published disk.now)
    (h : (storage.publishAll (published.map (·.destination output))
      (files.map (StagedArtifact.staged output))).run disk = (result, after)) :
    Throughout (IsUnderway output planned artifacts start) disk after ∧
      ∀ written, result = .ok written →
        Underway output planned artifacts start artifacts after.now := by
  induction files generalizing published disk with
  | nil =>
    obtain ⟨rfl, rfl⟩ := Prod.mk.inj h
    obtain rfl : published = artifacts := by simpa using hartifacts
    exact ⟨.refl ⟨published, hstart⟩, fun _ _ => hstart⟩
  | cons file files ih =>
    have hartifact : file.artifact ∈ artifacts := by simp [← hartifacts]
    have hserves : Step.Serves output planned
        (.publish file.temporary (file.artifact.destination output)) :=
      ⟨file.artifact, hplanned hartifact, rfl⟩
    obtain ⟨middle, hpublish, h⟩ | ⟨reason, middle, last, hpublish, hwithdraw, hdiscard, rfl⟩ :=
      publishAll_cons h
    · have hpast := (run_publish hpublish).1
      have hnext := (next_of_publish hfiles hpublish).2
      -- All artifacts were staged before the first of them was published.
      have hready : WasStaged output start.tree artifacts middle.past := by
        obtain ⟨rfl, hprepared⟩ | hready := hstaged
        · exact ⟨_, hpast ▸ List.mem_cons_self, file :: files, hartifacts, hprepared⟩
        · exact hready.mono (hpast ▸ List.subset_cons_self _ _)
      have hrest := fun other hother => htemporaries other (List.mem_cons_of_mem _ hother)
      have hfirst := Throughout.step rfl hpast
        (hstart.publish hserves hartifact hrest hnext (hpast ▸ hready))
      obtain ⟨hothers, hall⟩ :=
        ih (by simpa using hartifacts) hrest hnext (.inr hready) hfirst.now h
      exact ⟨(hfirst.mono fun _ hnow => ⟨_, hnow⟩).trans hothers, hall⟩
    · obtain ⟨hpast, hsame⟩ := run_publish hpublish
      have hsource : ∀ artifact ∈ published, artifact.NamesSource :=
        fun artifact hmem => hfiles.source artifact (List.mem_append_left _ hmem)
      have hfirst : Throughout (Underway output planned artifacts start published) disk middle := by
        refine .step rfl hpast ?_
        rw [hsame]
        exact hstart.unchanged hserves
      have hrolls : RollsBack output artifacts middle.past :=
        ⟨_, hpast ▸ List.mem_cons_self, rfl, file.artifact, hartifact, _, rfl⟩
      have hback := throughout_takeBack (List.Subset.trans hstart.subset hplanned) hsource
        htemporaries hrolls hfirst.now hwithdraw hdiscard
      exact ⟨(hfirst.trans hback).mono fun _ hnow => ⟨published, hnow⟩, by simp⟩

/-- While the artifacts of an entity are written, they are underway. If no step fails, all of them
are published in the end. -/
theorem throughout_writeArtifacts {result : Except Failure (List Path)}
    (hplanned : artifacts ⊆ planned) (hsource : ∀ artifact ∈ artifacts, artifact.NamesSource)
    (hplaces : (artifacts.map (·.placeBelow output)).Nodup)
    (hserves : ∀ event ∈ disk.past, event.step.Serves output planned)
    (h : (storage.writeArtifacts output artifacts).run disk = (result, after)) :
    Throughout (IsUnderway output planned artifacts disk.now) disk after ∧
      ∀ written, result = .ok written →
        Underway output planned artifacts disk.now artifacts after.now := by
  have hstart : Underway output planned artifacts disk.now [] disk.now := .refl hserves artifacts
  have hstaging {staged : Except Failure (List (Staged Location))} {middle : Disk}
      (hstage : (storage.stageAll output [] artifacts).run disk = (staged, middle)) :=
    throughout_stageAll hplanned (List.Subset.refl _) hsource (List.forall_mem_nil _) hstart hstage
  have hunderway (moment : Moment) (hnow : Underway output planned artifacts disk.now [] moment) :
      IsUnderway output planned artifacts disk.now moment := ⟨[], hnow⟩
  obtain ⟨files, middle, -, hstage, hpublish, rfl, hprepared, -⟩ |
    ⟨path, reason, -, hstage, rfl, -⟩ := writeArtifacts_cases hsource h
  · obtain ⟨hfirst, htemporaries⟩ := hstaging hstage
    have hfiles : ∀ file ∈ files, IsTemporaryIn disk.tree file.temporary :=
      fun file hfile => htemporaries _ rfl _ (List.mem_map_of_mem hfile)
    obtain ⟨hpublishing, hall⟩ := throughout_publishAll hplanned rfl hfiles
      (.of_prepared hprepared hsource hplaces) (.inl ⟨rfl, hprepared⟩) hfirst.now hpublish
    exact ⟨(hfirst.mono hunderway).trans hpublishing, hall⟩
  · exact ⟨(hstaging hstage).1.mono hunderway, by simp⟩

end Disk

end PersistenceLayer
