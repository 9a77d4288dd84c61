import PersistenceLayer.Proofs.Staging

/-!
# Publishing artifacts

The artifacts of one entity are published one after the other once all of them
are staged. If one of them cannot be published, those before it are withdrawn
and the others discarded, so that only a file that one of the withdrawn ones
replaced is lost.
-/

namespace PersistenceLayer

/-- Published artifacts stand at their destinations, and nothing but these and directories on the
way there was changed. -/
structure Published (output : Path) (before after : FileTree) (artifacts : List Artifact) :
    Prop where
  written : ∀ artifact ∈ artifacts,
    after.entry? (artifact.placeBelow output) = some (.file artifact.contents)
  keeps : FileTree.KeepsOutside (artifacts.map (·.placeBelow output)) (OnTheWay output artifacts)
    before after

namespace Published

variable {output : Path} {before middle after : FileTree} {artifacts others : List Artifact}

theorem nil (output : Path) (tree : FileTree) : Published output tree tree [] where
  written := by simp
  keeps := .refl _ _ _

/-- Artifacts that are published later at other places leave the earlier ones where they are. -/
theorem append (h : Published output before middle artifacts)
    (hothers : Published output middle after others)
    (hapart : ∀ artifact ∈ artifacts,
      artifact.placeBelow output ∉ others.map (·.placeBelow output)) :
    Published output before after (artifacts ++ others) := by
  constructor
  · intro artifact hmem
    rcases List.mem_append.mp hmem with hmem | hmem
    · exact hothers.keeps.entry?_eq_some (hapart artifact hmem) (h.written artifact hmem)
    · exact hothers.written artifact hmem
  · rw [List.map_append]
    exact h.keeps.append hothers.keeps

end Published

/-- Some artifacts of an entity are published and the others still stand in temporary files. -/
structure Publishing (output : Path) (isMade : Location → Prop) (before after : FileTree)
    (published : List Artifact) (files : List StagedArtifact) : Prop where
  source : ∀ artifact ∈ published ++ files.map StagedArtifact.artifact, artifact.NamesSource
  places : ((published ++ files.map StagedArtifact.artifact).map (·.placeBelow output)).Nodup
  written : ∀ artifact ∈ published,
    after.entry? (artifact.placeBelow output) = some (.file artifact.contents)
  filled : ∀ file ∈ files, after.entry? file.temporary = some (.file file.artifact.contents)
  fresh : FreshIn before files
  distinct : (files.map StagedArtifact.temporary).Nodup
  keeps : FileTree.KeepsOutside
    (files.map StagedArtifact.temporary ++ published.map (·.placeBelow output)) isMade before after

namespace Publishing

variable {output : Path} {isMade : Location → Prop} {before after : FileTree}
  {published : List Artifact} {file : StagedArtifact} {files : List StagedArtifact}

/-- Once all artifacts are staged, publishing can begin. -/
theorem of_prepared (h : Prepared output before after files)
    (hsource : ∀ artifact ∈ files.map StagedArtifact.artifact, artifact.NamesSource)
    (hplaces : ((files.map StagedArtifact.artifact).map (·.placeBelow output)).Nodup) :
    Publishing output (OnTheWay output (files.map StagedArtifact.artifact)) before after []
      files where
  source := hsource
  places := hplaces
  written := by simp
  filled := h.filled
  fresh := h.fresh
  distinct := h.distinct
  keeps := by simpa using h.keeps

/-- No artifact is published at the place of a temporary file. -/
theorem placeBelow_ne (h : Publishing output isMade before after published files)
    {artifact : Artifact} (hartifact : artifact ∈ published ++ files.map StagedArtifact.artifact)
    (hfile : file ∈ files) : artifact.placeBelow output ≠ file.temporary := by
  obtain ⟨c, hne, hends⟩ := (h.source artifact hartifact).placeBelow_endsIn output
  exact hends.ne (h.fresh file hfile).2 hne

/-- When a file is moved to its destination, nothing changes but there: its temporary file is gone
again. -/
theorem keeps_publish (h : Publishing output isMade before after published (file :: files)) :
    FileTree.KeepsOutside
      (files.map StagedArtifact.temporary ++
        (published ++ [file.artifact]).map (·.placeBelow output)) isMade before
      ((after.erase file.temporary).put (file.artifact.placeBelow output)
        (.file file.artifact.contents)) := by
  have htemporary : file.temporary ≠ file.artifact.placeBelow output :=
    (h.placeBelow_ne (by simp) List.mem_cons_self).symm
  have hchanged : FileTree.KeepsOutside ([file.temporary] ++
      (files.map StagedArtifact.temporary ++
        (published ++ [file.artifact]).map (·.placeBelow output))) isMade before
      ((after.erase file.temporary).put (file.artifact.placeBelow output)
        (.file file.artifact.contents)) := by
    refine (h.keeps.mono ?_ fun _ => id).trans ((FileTree.KeepsOutside.erase ?_).trans
      (FileTree.KeepsOutside.put ?_ _))
    · rw [List.map_cons, List.map_append, ← List.append_assoc, ← List.append_assoc]
      exact List.subset_append_left _ _
    · simp
    · simp
  refine hchanged.release [file.temporary] ?_
  intro location hlocation
  obtain rfl := List.mem_singleton.mp hlocation
  obtain ⟨hnone, hends⟩ := h.fresh file List.mem_cons_self
  rw [FileTree.entry?_put_of_ne htemporary, FileTree.entry?_erase_self hends.names_ne_nil, hnone]

/-- A file that is moved to its destination is published. -/
theorem publish (h : Publishing output isMade before after published (file :: files)) :
    Publishing output isMade before
      ((after.erase file.temporary).put (file.artifact.placeBelow output)
        (.file file.artifact.contents))
      (published ++ [file.artifact]) files := by
  have hartifact : file.artifact ∈ published ++ (file :: files).map StagedArtifact.artifact := by
    simp
  have hplaces := h.places
  rw [List.map_cons, List.map_append, List.map_cons, List.nodup_append] at hplaces
  have hdistinct := h.distinct
  rw [List.map_cons, List.nodup_cons] at hdistinct
  refine ⟨?_, ?_, ?_, ?_, ?_, hdistinct.2, h.keeps_publish⟩
  · simpa using h.source
  · simpa using h.places
  · intro artifact hmem
    rcases List.mem_append.mp hmem with hmem | hmem
    · have hplace : artifact.placeBelow output ≠ file.artifact.placeBelow output :=
        hplaces.2.2 _ (List.mem_map_of_mem hmem) _ List.mem_cons_self
      rw [FileTree.entry?_put_of_ne hplace, FileTree.entry?_erase_of_ne
        (h.placeBelow_ne (List.mem_append_left _ hmem) List.mem_cons_self)]
      exact h.written artifact hmem
    · rw [List.mem_singleton.mp hmem]
      obtain ⟨c, -, hends⟩ := (h.source file.artifact hartifact).placeBelow_endsIn output
      exact FileTree.entry?_put_self hends.names_ne_nil
  · intro other hother
    have hne : other.temporary ≠ file.temporary := by
      intro hsame
      exact hdistinct.1 (hsame ▸ List.mem_map_of_mem hother)
    rw [FileTree.entry?_put_of_ne
      (h.placeBelow_ne hartifact (List.mem_cons_of_mem _ hother)).symm,
      FileTree.entry?_erase_of_ne hne]
    exact h.filled other (List.mem_cons_of_mem _ hother)
  · exact fun other hother => h.fresh other (List.mem_cons_of_mem _ hother)

/-- What is withdrawn and discarded is gone, and nothing else but directories was changed. -/
theorem withdraw (h : Publishing output isMade before after published files) {undone : FileTree}
    (hundone : undone = after.eraseAll
      (published.map (·.placeBelow output) ++ files.map StagedArtifact.temporary)) :
    (∀ artifact ∈ published, undone.entry? (artifact.placeBelow output) = none) ∧
      FileTree.KeepsOutside (published.map (·.placeBelow output)) isMade before undone := by
  rw [hundone]
  constructor
  · intro artifact hmem
    obtain ⟨c, -, hends⟩ :=
      (h.source artifact (List.mem_append_left _ hmem)).placeBelow_endsIn output
    exact FileTree.entry?_eraseAll_of_mem hends.names_ne_nil
      (List.mem_append_left _ (List.mem_map_of_mem hmem))
  · rw [FileTree.eraseAll_append]
    refine FileTree.KeepsOutside.eraseAll_release ?_ h.fresh.names_ne_nil
    exact h.keeps.trans (.eraseAll (List.subset_append_right _ _))

end Publishing

/-- What some steps leave behind if publishing an artifact failed in one of them: those published
before it are gone. -/
structure PublishingFailed (output : Path) (isMade : Location → Prop) (before after : FileTree)
    (withdrawn : List Artifact) (artifact : Artifact) (events : List Event) : Prop where
  gone : ∀ artifact ∈ withdrawn, after.entry? (artifact.placeBelow output) = none
  keeps : FileTree.KeepsOutside (withdrawn.map (·.placeBelow output)) isMade before after
  failed : Disk.FailsOnlyAt events
    fun step => ∃ temporary, step = .publish temporary (artifact.destination output)

/-- What some steps leave behind if writing the artifacts of an entity failed in one of them. -/
def WritingFailed (output : Path) (artifacts : List Artifact) (before after : FileTree)
    (events : List Event) : Prop :=
  StagingFailed output artifacts before after events ∨
    ∃ earlier artifact later, artifacts = earlier ++ artifact :: later ∧
      PublishingFailed output (OnTheWay output artifacts) before after earlier artifact events

/-- Where every step succeeded, writing did not fail. -/
theorem WritingFailed.not_allSucceed {output : Path} {artifacts : List Artifact}
    {before after : FileTree} {events : List Event}
    (h : WritingFailed output artifacts before after events) : ¬ Disk.AllSucceed events := by
  intro hsucceeded
  have hfailed : ∃ event ∈ events, event.succeeded = false := by
    rcases h with h | ⟨_, _, _, -, h⟩
    · exact h.failed.1
    · exact h.failed.1
  obtain ⟨event, hmem, hfailed⟩ := hfailed
  rw [hsucceeded event hmem] at hfailed
  cases hfailed

namespace Disk

variable {disk after : Disk} {output : Path} {isMade : Location → Prop} {start : FileTree}

/-- Withdrawing artifacts erases what stands at their places. -/
theorem erases_withdrawAll (paths : List Path) :
    Erases (storage.withdrawAll paths) (paths.map Path.place) := by
  induction paths with
  | nil => exact erases_pure
  | cons path paths ih => exact (erases_withdraw path).bind ih

/-- Once a file is published the others are; if it cannot be, those published before are withdrawn,
and it and the others are discarded. -/
theorem publishAll_cons {published : List Artifact} {file : StagedArtifact}
    {files : List StagedArtifact} {result : Except Failure (List Path)}
    (h : (storage.publishAll (published.map (·.destination output))
      ((file :: files).map (StagedArtifact.staged output))).run disk = (result, after)) :
    (∃ middle, (storage.publish file.temporary (file.artifact.destination output)).run disk =
        (.ok (), middle) ∧
      (storage.publishAll ((published ++ [file.artifact]).map (·.destination output))
        (files.map (StagedArtifact.staged output))).run middle = (result, after)) ∨
    ∃ reason middle last,
      (storage.publish file.temporary (file.artifact.destination output)).run disk =
        (.error reason, middle) ∧
      (storage.withdrawAll (published.map (·.destination output))).run middle = ((), last) ∧
      (storage.discardAll ((file :: files).map (StagedArtifact.staged output))).run last =
        ((), after) ∧
      result = .error (.storage (file.artifact.destination output) reason) := by
  simp only [List.map_cons, Storage.publishAll, run_bind, StagedArtifact.staged] at h
  rcases hpublish : (storage.publish file.temporary (file.artifact.destination output)).run disk
    with ⟨outcome, middle⟩
  simp only [hpublish] at h
  cases outcome with
  | ok _ =>
    refine .inl ⟨middle, rfl, ?_⟩
    rw [List.map_append, List.map_singleton]
    exact h
  | error reason =>
    obtain ⟨rfl, rfl⟩ := Prod.mk.inj h
    exact .inr ⟨reason, middle, _, rfl, rfl, rfl, rfl⟩

/-- Publishing a staged file moves it to its destination. -/
theorem next_of_publish {published : List Artifact} {file : StagedArtifact}
    {files : List StagedArtifact}
    (hfiles : Publishing output isMade start disk.tree published (file :: files))
    (h : (storage.publish file.temporary (file.artifact.destination output)).run disk =
      (.ok (), after)) :
    after.tree = (disk.tree.erase file.temporary).put (file.artifact.placeBelow output)
        (.file file.artifact.contents) ∧
      Publishing output isMade start after.tree (published ++ [file.artifact]) files := by
  obtain ⟨-, entry, hentry, htree⟩ := run_publish h
  obtain rfl : entry = .file file.artifact.contents :=
    Option.some.inj (hentry.symm.trans (hfiles.filled file List.mem_cons_self))
  exact ⟨htree, htree ▸ hfiles.publish⟩

/-- Publishing artifacts puts all of them at their destinations, or, if one of them cannot be
published, none. -/
theorem run_publishAll (published : List Artifact) {files : List StagedArtifact}
    {result : Except Failure (List Path)}
    (hfiles : Publishing output isMade start disk.tree published files)
    (h : (storage.publishAll (published.map (·.destination output))
      (files.map (StagedArtifact.staged output))).run disk = (result, after)) :
    ∃ events, after.past = events ++ disk.past ∧
      ((result = .ok ((published ++ files.map StagedArtifact.artifact).map (·.destination output)) ∧
          Publishing output isMade start after.tree
            (published ++ files.map StagedArtifact.artifact) [] ∧ AllSucceed events) ∨
        ∃ earlier artifact later reason, files.map StagedArtifact.artifact =
            earlier ++ artifact :: later ∧
          result = .error (.storage (artifact.destination output) reason) ∧
          (after.UndoesAll → PublishingFailed output isMade start after.tree
            (published ++ earlier) artifact events)) := by
  induction files generalizing published disk with
  | nil =>
    obtain ⟨rfl, rfl⟩ := Prod.mk.inj h
    exact ⟨[], rfl, .inl ⟨by simp, by simpa using hfiles, by simp [AllSucceed]⟩⟩
  | cons file files ih =>
    obtain ⟨middle, hpublish, h⟩ | ⟨reason, middle, last, hpublish, hwithdraw, hdiscard, rfl⟩ :=
      publishAll_cons h
    · obtain ⟨events, hevents, hrest⟩ := ih _ (next_of_publish hfiles hpublish).2 h
      simp only [List.append_assoc, List.singleton_append] at hrest
      refine ⟨events ++ [_], by
        rw [hevents, (run_publish hpublish).1, List.append_assoc]; rfl, hrest.imp ?_ ?_⟩
      · rintro ⟨hresult, hall, hsucceeded⟩
        exact ⟨hresult, hall, hsucceeded.append (by simp [AllSucceed, Except.isOk, Except.toBool])⟩
      · rintro ⟨earlier, artifact, later, reason, hsplit, hresult, hfailed⟩
        refine ⟨file.artifact :: earlier, artifact, later, reason, by simp [hsplit], hresult, ?_⟩
        intro hundo
        refine ⟨(hfailed hundo).gone, (hfailed hundo).keeps, (hfailed hundo).failed.append ?_⟩
        simp [AllSucceed, Except.isOk, Except.toBool]
    · obtain ⟨hmiddle, hsame⟩ := run_publish hpublish
      obtain ⟨events, hevents, hundone⟩ :=
        (erases_withdrawAll (published.map (·.destination output))).bind
          (erases_discardAll ((file :: files).map (StagedArtifact.staged output)))
          (by rw [run_bind, hwithdraw, hdiscard])
      refine ⟨events ++ [_], hevents.trans (by rw [hmiddle, List.append_assoc]; rfl), .inr
        ⟨[], file.artifact, files.map StagedArtifact.artifact, reason, rfl, rfl, fun hundo => ?_⟩⟩
      obtain ⟨hsucceeded, htree⟩ := hundone hundo
      rw [hsame, List.map_map, List.map_map] at htree
      obtain ⟨hgone, hkeeps⟩ := hfiles.withdraw htree
      rw [List.append_nil]
      refine ⟨hgone, hkeeps, FailsOnlyAt.append_left ⟨?_, ?_⟩ hsucceeded⟩
      · exact ⟨_, List.mem_cons_self, rfl⟩
      · intro event hmem _
        rw [List.mem_singleton.mp hmem]
        exact ⟨_, rfl⟩

/-- Artifacts are published once all of them are staged; if they cannot be staged, nothing more is
done. -/
theorem writeArtifacts_cases {artifacts : List Artifact} {result : Except Failure (List Path)}
    (hsource : ∀ artifact ∈ artifacts, artifact.NamesSource)
    (h : (storage.writeArtifacts output artifacts).run disk = (result, after)) :
    (∃ files middle events, (storage.stageAll output [] artifacts).run disk =
        (.ok (files.map (StagedArtifact.staged output)), middle) ∧
      (storage.publishAll [] (files.map (StagedArtifact.staged output))).run middle =
        (result, after) ∧
      files.map StagedArtifact.artifact = artifacts ∧
      Prepared output disk.tree middle.tree files ∧
      middle.past = events ++ disk.past ∧ AllSucceed events) ∨
    ∃ path reason events, (storage.stageAll output [] artifacts).run disk =
        (.error (.storage path reason), after) ∧
      result = .error (.storage path reason) ∧ after.past = events ++ disk.past ∧
      (after.UndoesAll → StagingFailed output artifacts disk.tree after.tree events) := by
  simp only [Storage.writeArtifacts, run_bind] at h
  rcases hstage : (storage.stageAll output [] artifacts).run disk with ⟨outcome, middle⟩
  simp only [hstage] at h
  obtain ⟨events, hpast, ⟨files, rfl, hartifacts, hprepared, hsucceeded⟩ |
    ⟨⟨path, reason, rfl⟩, hfailed⟩⟩ := run_stageAll hsource (.nil output disk.tree) hstage
  · exact .inl ⟨files, middle, events, rfl, h, hartifacts, hprepared, hpast, hsucceeded⟩
  · obtain ⟨rfl, rfl⟩ := Prod.mk.inj h
    exact .inr ⟨path, reason, events, rfl, rfl, hpast, hfailed⟩

/-- Writing the artifacts of an entity publishes all of them, or fails in one of its steps and
undoes what it did before. -/
theorem run_writeArtifacts {artifacts : List Artifact} {result : Except Failure (List Path)}
    (hsource : ∀ artifact ∈ artifacts, artifact.NamesSource)
    (hplaces : (artifacts.map (·.placeBelow output)).Nodup)
    (h : (storage.writeArtifacts output artifacts).run disk = (result, after)) :
    ∃ events, after.past = events ++ disk.past ∧
      ((result = .ok (artifacts.map (·.destination output)) ∧
          Published output disk.tree after.tree artifacts ∧ AllSucceed events) ∨
        (∃ path reason, result = .error (.storage path reason)) ∧
          (after.UndoesAll → WritingFailed output artifacts disk.tree after.tree events)) := by
  obtain ⟨files, middle, first, -, hpublish, rfl, hprepared, hfirst, hsucceeded⟩ |
    ⟨path, reason, events, -, rfl, hpast, hfailed⟩ := writeArtifacts_cases hsource h
  · obtain ⟨second, hsecond, ⟨hresult, hpublished, hsucceeded'⟩ |
      ⟨earlier, artifact, later, reason, hsplit, hresult, hfailed⟩⟩ :=
      run_publishAll [] (.of_prepared hprepared hsource hplaces) hpublish
    · refine ⟨second ++ first, by rw [hsecond, hfirst, List.append_assoc], .inl ⟨hresult, ?_, ?_⟩⟩
      · exact ⟨hpublished.written, hpublished.keeps⟩
      · exact hsucceeded'.append hsucceeded
    · refine ⟨second ++ first, by rw [hsecond, hfirst, List.append_assoc],
        .inr ⟨⟨_, _, hresult⟩, ?_⟩⟩
      intro hundo
      obtain ⟨hgone, hkeeps, hfailed⟩ := hfailed hundo
      exact .inr ⟨earlier, artifact, later, hsplit, hgone, hkeeps, hfailed.append hsucceeded⟩
  · exact ⟨events, hpast, .inr ⟨⟨_, _, rfl⟩, fun hundo => .inl (hfailed hundo)⟩⟩

end Disk

end PersistenceLayer
