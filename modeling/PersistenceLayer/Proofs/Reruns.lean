import PersistenceLayer.Proofs.Conflicts

/-!
# Reruns

After a run that succeeds, all directories on the way to its destinations are
there and each destination holds what was published there last. The same run
finds nothing in its way, makes no directory, and publishes the same contents at
the same places, so it leaves the tree as it was.
-/

namespace PersistenceLayer

variable {output : Path} {set : EntitySet} {options : Options} {artifacts : List Artifact}

/-- Nothing is in the way of artifacts where they have been written already. -/
theorem Overwritten.unobstructed {before after : FileTree}
    (h : Overwritten output before after artifacts) : Unobstructed output after artifacts where
  clear :=
    { ways := fun location contents hway hfile => by
        cases hfile.symm.trans (h.entry?_of_onTheWay hway)
      destinations := fun artifact hmem hdirectory => by
        obtain ⟨last, -, hfile⟩ := h.exists_file (List.mem_map_of_mem hmem)
        cases hdirectory.symm.trans hfile }
  apart := fun artifact hmem hway => by
    obtain ⟨last, -, hfile⟩ := h.exists_file (List.mem_map_of_mem hmem)
    cases hfile.symm.trans (h.entry?_of_onTheWay hway)
  fresh := fun location htemporary hway => by
    cases htemporary.free.symm.trans (h.entry?_of_onTheWay hway)

namespace Disk

/-! ## Disks that refuse nothing -/

/-- Whether a disk breaks no step off. -/
def IsReliable (disk : Disk) : Prop :=
  ∀ count step, disk.breaksOff count step = none

variable {disk : Disk} {path : Path}

/-- On a reliable disk a step succeeds if its change does. -/
theorem IsReliable.exists_take (h : disk.IsReliable) {α : Type} (step : Step)
    (change : FileTree → FileTree × Except Obstruction α) {tree : FileTree} {value : α}
    (hchange : change disk.tree = (tree, .ok value)) :
    ∃ after, (take step change).run disk = (.ok value, after) ∧ after.tree = tree ∧
      after.IsReliable := by
  refine ⟨{ disk with tree := tree, past := ⟨step, disk.tree, true⟩ :: disk.past }, ?_, rfl, h⟩
  change take step change disk = _
  simp [take, h disk.past.length step, hchange, Except.mapError, Except.isOk, Except.toBool]

/-- On a reliable disk nothing has to be made for a directory that is there. -/
theorem IsReliable.exists_makeDirectories (h : disk.IsReliable)
    (hmade : disk.tree.makeDirectories path = (disk.tree, .ok ())) :
    ∃ after, (storage.makeDirectories path).run disk = (.ok (), after) ∧ after.tree = disk.tree ∧
      after.IsReliable :=
  h.exists_take (.makeDirectories path) (fun tree => tree.makeDirectories path) hmade

/-- On a reliable disk a temporary file can be created in a directory that can be entered. -/
theorem IsReliable.exists_createTemporary (h : disk.IsReliable) {location : Location}
    (hentered : disk.tree.directoryAt path = .ok location) :
    ∃ temporary after, (storage.createTemporary path).run disk = (.ok temporary, after) ∧
      after.IsReliable := by
  have hcreate : newTemporary path disk.tree =
      (disk.tree.put (location.child disk.tree.freshName) (.file ""),
        .ok (location.child disk.tree.freshName)) := by
    simp [newTemporary, FileTree.createTemporary, hentered, bind, Except.bind, pure, Except.pure]
  obtain ⟨after, hrun, -, hafter⟩ := h.exists_take (.createTemporary path) _ hcreate
  exact ⟨_, after, hrun, hafter⟩

/-- On a reliable disk a temporary file can be filled. -/
theorem IsReliable.exists_fillTemporary (h : disk.IsReliable) (location : Location)
    (contents : String) :
    ∃ after, (storage.fillTemporary location contents).run disk = (.ok (), after) ∧
      after.IsReliable := by
  obtain ⟨after, hrun, -, hafter⟩ := h.exists_take (.fillTemporary location contents)
    (fun tree => (tree.put location (.file contents), .ok ())) rfl
  exact ⟨after, hrun, hafter⟩

/-- On a reliable disk a file can be moved to a place that can be found and is no directory. -/
theorem IsReliable.exists_publish (h : disk.IsReliable) {location place : Location}
    {entry : TreeEntry} (hentry : disk.tree.entry? location = some entry)
    (hplace : disk.tree.placeAt path = .ok place)
    (hfree : disk.tree.entry? place ≠ some .directory) :
    ∃ after, (storage.publish location path).run disk = (.ok (), after) ∧
      after.tree = (disk.tree.erase location).put place entry ∧ after.IsReliable := by
  have hrename : disk.tree.rename location path =
      .ok ((disk.tree.erase location).put place entry) := by
    simp only [FileTree.rename, hplace, hentry, bind, Except.bind]
  exact h.exists_take (.publish location path) (attempt fun tree => tree.rename location path)
    (by simp [attempt, hrename])

/-! ## Writing again -/

/-- On a reliable disk an artifact can be staged if the directory of its destination is there. -/
theorem IsReliable.exists_stage (h : disk.IsReliable) {artifact : Artifact}
    (hsource : artifact.NamesSource)
    (hdirectories : ∀ directory, (artifact.destination output).parent? = some directory →
      disk.tree.HasDirectory directory) :
    ∃ staged after, (storage.stage output artifact).run disk = (.ok staged, after) ∧
      after.IsReliable := by
  obtain ⟨directory, hdirectory, -⟩ := hsource.exists_directory output
  obtain ⟨hmade, location, hentered⟩ := hdirectories directory hdirectory
  obtain ⟨first, hmake, hsame, hfirst⟩ := h.exists_makeDirectories hmade
  obtain ⟨temporary, second, hcreate, hsecond⟩ :=
    hfirst.exists_createTemporary (hsame ▸ hentered)
  obtain ⟨third, hfill, hthird⟩ := hsecond.exists_fillTemporary temporary artifact.contents
  refine ⟨⟨temporary, artifact.destination output⟩, third, ?_, hthird⟩
  simp only [Storage.stage, run_bind, Artifact.join_path, hdirectory, Option.getD_some, hmake,
    hcreate, hfill]
  rfl

/-- On a reliable disk artifacts can be staged if the directories of their destinations are
there. -/
theorem IsReliable.exists_stageAll (h : disk.IsReliable)
    (hsource : ∀ artifact ∈ artifacts, artifact.NamesSource)
    (hdirectories : ∀ artifact ∈ artifacts, ∀ directory,
      (artifact.destination output).parent? = some directory → disk.tree.HasDirectory directory)
    (staged : List (Staged Location)) :
    ∃ files after, (storage.stageAll output staged artifacts).run disk = (.ok files, after) ∧
      after.IsReliable := by
  induction artifacts generalizing disk staged with
  | nil => exact ⟨staged, disk, rfl, h⟩
  | cons artifact artifacts ih =>
    obtain ⟨hartifact, hsource⟩ := List.forall_mem_cons.mp hsource
    obtain ⟨hdirectory, hdirectories⟩ := List.forall_mem_cons.mp hdirectories
    obtain ⟨next, middle, hstage, hmiddle⟩ := h.exists_stage hartifact hdirectory
    have hkeeps := (hasDirectory_of_stage hartifact hstage).1
    obtain ⟨files, after, hrest, hafter⟩ := ih hmiddle hsource
      (fun other hother directory hparent =>
        (hdirectories other hother directory hparent).of_keepsDirectories hkeeps) (staged ++ [next])
    refine ⟨files, after, ?_, hafter⟩
    simp only [Storage.stageAll, run_bind, hstage, hrest]

/-- On a reliable disk staged artifacts can be published if their destinations can be found and hold
no directory. -/
theorem IsReliable.exists_publishAll (h : disk.IsReliable) {isMade : Location → Prop}
    {start : FileTree} {published : List Artifact} {files : List StagedArtifact}
    (hfiles : Publishing output isMade start disk.tree published files)
    (hfound : ∀ artifact ∈ files.map StagedArtifact.artifact,
      disk.tree.placeAt (artifact.destination output) = .ok (artifact.placeBelow output))
    (hfree : ∀ artifact ∈ files.map StagedArtifact.artifact,
      disk.tree.entry? (artifact.placeBelow output) ≠ some .directory) :
    ∃ written after, (storage.publishAll (published.map (·.destination output))
        (files.map (StagedArtifact.staged output))).run disk = (.ok written, after) ∧
      after.IsReliable := by
  induction files generalizing disk published with
  | nil => exact ⟨_, disk, rfl, h⟩
  | cons file files ih =>
    obtain ⟨hplace, hfound⟩ := List.forall_mem_cons.mp hfound
    obtain ⟨hown, hfree⟩ := List.forall_mem_cons.mp hfree
    have hfilled := hfiles.filled file List.mem_cons_self
    obtain ⟨middle, hpublish, htree, hmiddle⟩ := h.exists_publish hfilled hplace hown
    have hkeeps : disk.tree.KeepsDirectories middle.tree := htree ▸ .move hfilled hown _
    have hothers : ∀ artifact ∈ files.map StagedArtifact.artifact,
        middle.tree.entry? (artifact.placeBelow output) ≠ some .directory := by
      intro artifact hmem
      have hplaces := hfiles.places
      rw [List.map_append, List.map_cons, List.map_cons, List.nodup_append, List.nodup_cons]
        at hplaces
      have hne : artifact.placeBelow output ≠ file.artifact.placeBelow output :=
        fun hsame => hplaces.2.1.1 (hsame ▸ List.mem_map_of_mem hmem)
      have hdestined : artifact ∈ published ++ (file :: files).map StagedArtifact.artifact := by
        simp [hmem]
      have hapart := hfiles.placeBelow_ne hdestined List.mem_cons_self
      rw [htree, FileTree.entry?_put_of_ne hne, FileTree.entry?_erase_of_ne hapart]
      exact hfree artifact hmem
    obtain ⟨written, after, hrest, hafter⟩ := ih hmiddle (htree ▸ hfiles.publish)
      (fun artifact hmem => FileTree.placeAt_of_keepsDirectories hkeeps (hfound artifact hmem))
      hothers
    refine ⟨written, after, ?_, hafter⟩
    rw [List.map_append, List.map_singleton] at hrest
    simp only [List.map_cons, Storage.publishAll, run_bind, StagedArtifact.staged, hpublish]
    exact hrest

/-- Whether artifacts can be written to a tree without changing its directories: their destinations
are accessible and hold no directory. -/
structure Admits (output : Path) (tree : FileTree) (artifacts : List Artifact) : Prop where
  accessible : ∀ artifact ∈ artifacts, tree.Accessible (artifact.destination output)
  free : ∀ artifact ∈ artifacts, tree.entry? (artifact.placeBelow output) ≠ some .directory

theorem Admits.mono {tree : FileTree} {others : List Artifact} (h : Admits output tree artifacts)
    (hsubset : others ⊆ artifacts) : Admits output tree others where
  accessible := fun artifact hmem => h.accessible artifact (hsubset hmem)
  free := fun artifact hmem => h.free artifact (hsubset hmem)

/-- What artifacts can be written to holds no directory at another destination if only directories
on the way to them are made. -/
theorem Admits.entry?_ne {before after : FileTree} {places : List Location} {own : List Artifact}
    (h : Admits output before artifacts) (hown : own ⊆ artifacts)
    (hkeeps : FileTree.KeepsOutside places (OnTheWay output own) before after)
    {artifact : Artifact} (hmem : artifact ∈ artifacts)
    (hplace : artifact.placeBelow output ∉ places) :
    after.entry? (artifact.placeBelow output) ≠ some .directory := by
  intro hdirectory
  obtain hsame | ⟨hnone, -, other, hother, hthrough⟩ := hkeeps _ hplace
  · exact h.free artifact hmem (hsame ▸ hdirectory)
  · have hway := FileTree.entry?_of_leadsThrough (h.accessible other (hown hother)).found hthrough
    cases hway.symm.trans hnone

/-- On a reliable disk artifacts can be written to a tree that admits them. -/
theorem IsReliable.exists_writeArtifacts (h : disk.IsReliable)
    (hsource : ∀ artifact ∈ artifacts, artifact.NamesSource)
    (hplaces : (artifacts.map (·.placeBelow output)).Nodup)
    (hadmits : Admits output disk.tree artifacts) :
    ∃ written after, (storage.writeArtifacts output artifacts).run disk = (.ok written, after) ∧
      after.IsReliable := by
  obtain ⟨staged, middle, hstage, hmiddle⟩ := h.exists_stageAll hsource
    (fun artifact hmem => (hadmits.accessible artifact hmem).directory) []
  have hkeeps := (hasDirectory_of_stageAll hsource hstage).1
  obtain ⟨-, -, ⟨files, hfiles, hartifacts, hprepared, -⟩ | ⟨⟨_, _, hfailed⟩, -⟩⟩ :=
    run_stageAll hsource (.nil output disk.tree) hstage
  · obtain rfl := Except.ok.inj hfiles
    obtain rfl : files.map StagedArtifact.artifact = artifacts := by simpa using hartifacts
    have hfree : ∀ artifact ∈ files.map StagedArtifact.artifact,
        middle.tree.entry? (artifact.placeBelow output) ≠ some .directory := by
      intro artifact hmem
      refine hadmits.entry?_ne (List.Subset.refl _) hprepared.keeps hmem fun hfresh => ?_
      obtain ⟨file, hfile, hplace⟩ := List.mem_map.mp hfresh
      exact (hsource artifact hmem).not_endsIn output (hplace ▸ (hprepared.fresh file hfile).2)
    have hfound : ∀ artifact ∈ files.map StagedArtifact.artifact,
        middle.tree.placeAt (artifact.destination output) = .ok (artifact.placeBelow output) :=
      fun artifact hmem =>
        FileTree.placeAt_of_keepsDirectories hkeeps (hadmits.accessible artifact hmem).found
    obtain ⟨written, after, hpublish, hafter⟩ :=
      hmiddle.exists_publishAll (.of_prepared hprepared hsource hplaces) hfound hfree
    refine ⟨written, after, ?_, hafter⟩
    simp only [Storage.writeArtifacts, run_bind, hstage]
    exact hpublish
  · cases hfailed

/-- On a reliable disk a run can be written to a tree that admits its artifacts. -/
theorem IsReliable.exists_generateFrom {claimed : ClaimedPaths} {entities : List Entity}
    (h : disk.IsReliable) (hrender : set.renderFrom options claimed entities = .ok artifacts)
    (hadmits : Admits output disk.tree artifacts) :
    ∃ written after, (storage.generateFrom output set options claimed entities).run disk =
      (.ok written, after) := by
  induction entities generalizing disk claimed artifacts with
  | nil => exact ⟨[], disk, rfl⟩
  | cons entity entities ih =>
    obtain ⟨own, others, hprepare, hothers, rfl⟩ := EntitySet.renderFrom_cons_eq_ok hrender
    have hrendered := (EntitySet.prepare_eq_ok hprepare).1
    have hsource : ∀ artifact ∈ own, artifact.NamesSource :=
      fun artifact => namesSource_of_mem_renderEntity hrendered
    have hplaces := EntitySet.nodup_places_of_renderEntity hrendered output
    obtain ⟨first, middle, hwrite, hmiddle⟩ := h.exists_writeArtifacts hsource hplaces
      (hadmits.mono (List.subset_append_left _ _))
    obtain ⟨-, hover⟩ := overwritten_of_writeArtifacts hsource hplaces hwrite
    have hrest : Admits output middle.tree others := by
      refine ⟨fun artifact hmem => (hadmits.accessible artifact
        (List.mem_append_right _ hmem)).of_keepsDirectories hover.directories,
        fun artifact hmem => ?_⟩
      by_cases hplace : artifact.placeBelow output ∈ own.map (·.placeBelow output)
      · obtain ⟨last, -, hfile⟩ := hover.exists_file hplace
        simp [hfile]
      · exact hadmits.entry?_ne (List.subset_append_left _ _) hover.keeps
          (List.mem_append_right _ hmem) hplace
    obtain ⟨later, after, hrun⟩ := ih hmiddle hothers hrest
    refine ⟨first ++ later, after, ?_⟩
    rw [Storage.generateFrom, hprepare]
    simp only [run_bind, hwrite, hrun]
    rfl

/-! ## Running again -/

/-- If a run succeeds, the same run succeeds on the tree that it leaves, returns the same paths and
leaves every place as it was: on a disk that breaks nothing off, and on every disk on which no step
fails but those that conflict with the tree. -/
theorem generateAll_again {breaksOff : Nat → Step → Option Nat} {tree : FileTree}
    {written : List Path} {after : Disk}
    (h : (storage.generateAll output set options).run (unreliable breaksOff tree) =
      (.ok written, after)) :
    (∃ again, (storage.generateAll output set options).run (ofTree after.tree) =
        (.ok written, again) ∧
      ∀ location, again.tree.entry? location = after.tree.entry? location) ∧
    ∀ (breaksOff' : Nat → Step → Option Nat) (result : Except Failure (List Path)) (again : Disk),
      (storage.generateAll output set options).run (unreliable breaksOff' after.tree) =
          (result, again) →
        (∀ event ∈ again.past, event.succeeded = false → event.step.Conflicts event.before) →
        result = .ok written ∧
          ∀ location, again.tree.entry? location = after.tree.entry? location := by
  obtain ⟨-, ⟨artifacts, hwritten, hdone⟩ | ⟨failure, hfailed, -⟩⟩ := midway_of_generateAll h
  · obtain rfl := Except.ok.inj hwritten
    have hover : Overwritten output tree after.tree artifacts := hdone.overwritten
    constructor
    · have hadmits : Admits output after.tree artifacts :=
        ⟨hover.accessible, hover.unobstructed.clear.destinations⟩
      have hreliable : (ofTree after.tree).IsReliable := fun _ _ => rfl
      obtain ⟨others, again, hrun⟩ := hreliable.exists_generateFrom hdone.rendered hadmits
      obtain ⟨-, ⟨rendered, hothers, hagain⟩ | ⟨failure, hfailed, -⟩⟩ := midway_of_generateAll hrun
      · obtain rfl := Except.ok.inj hothers
        obtain rfl := Except.ok.inj (hdone.rendered.symm.trans hagain.rendered)
        exact ⟨again, hrun, hover.entry?_eq_of_again hagain.overwritten⟩
      · cases hfailed
    · intro breaksOff' result again hrun hconflicts
      obtain ⟨hresult, hagain⟩ :=
        generateAll_of_unobstructed hdone.rendered hover.unobstructed hrun hconflicts
      exact ⟨hresult, hover.entry?_eq_of_again hagain⟩
  · cases hfailed

/-- A tree in which an older contract of the user stands and another file beside it. -/
def staleTree : FileTree :=
  ⟨[(⟨.aboveHome 0, ["out"]⟩, .directory), (⟨.aboveHome 0, ["out", "p"]⟩, .directory),
    (⟨.aboveHome 0, ["out", "p", "IUser.kt"]⟩, .file "interface IUser"),
    (⟨.aboveHome 0, ["out", "p", "Notes.kt"]⟩, .file "// keep")]⟩

/-- The run that generates the client-facing data of the user and the group there. -/
def staleRun : Except Failure (List Path) × Disk :=
  (storage.generateAll ⟨"out"⟩ userAndGroup { onlyData := true }).run (ofTree staleTree)

/-- The same run on what it leaves. -/
def againRun : Except Failure (List Path) × Disk :=
  (storage.generateAll ⟨"out"⟩ userAndGroup { onlyData := true }).run (ofTree staleRun.2.tree)

/-- The older contract is replaced once, and the second run changes nothing. -/
theorem generateAll_again_staleRun :
    ∃ written, staleRun.1 = .ok written ∧
      staleRun.2.tree.contents? ⟨.aboveHome 0, ["out", "p", "IUser.kt"]⟩ ≠
        some "interface IUser" ∧
      AllSucceed againRun.2.past ∧ againRun.1 = .ok written ∧
      ∀ location, againRun.2.tree.entry? location = staleRun.2.tree.entry? location := by
  have hok : staleRun.1.isOk = true := by decide +kernel
  have hreplaced : staleRun.2.tree.contents? ⟨.aboveHome 0, ["out", "p", "IUser.kt"]⟩ ≠
      some "interface IUser" := by decide +kernel
  have hsucceeded : AllSucceed againRun.2.past := by
    unfold AllSucceed
    decide +kernel
  cases hwritten : staleRun.1 with
  | error failure =>
    rw [hwritten] at hok
    cases hok
  | ok written =>
    have hrun : staleRun = (.ok written, staleRun.2) := by
      rw [← hwritten, Prod.eta]
    have hagain : (storage.generateAll ⟨"out"⟩ userAndGroup { onlyData := true }).run
        (unreliable (fun _ _ => none) staleRun.2.tree) = (againRun.1, againRun.2) :=
      (Prod.eta againRun).symm
    obtain ⟨hresult, hsame⟩ := (generateAll_again hrun).2 _ _ _ hagain
      fun event hmem hfailed => absurd (hsucceeded event hmem) (by simp [hfailed])
    exact ⟨written, rfl, hreplaced, hsucceeded, hresult, hsame⟩

end Disk

end PersistenceLayer
