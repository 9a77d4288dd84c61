import PersistenceLayer.Proofs.RunMoments

/-!
# Conflicts in a tree

A step conflicts with a tree if a file stands where it needs a directory, or a
directory where it puts or removes a file. Where nothing is in the way of the
artifacts of a run, and they are not in the way of each other, none of its steps
conflicts with the tree that it finds. So a disk that refuses nothing but
conflicts lets the whole run succeed.
-/

namespace PersistenceLayer

/-- Whether something in a tree is in the way of a step. -/
def Step.Conflicts (tree : FileTree) : Step → Prop
  | .makeDirectories path | .createTemporary path =>
    ∃ location contents, path.LeadsAlong location ∧ tree.entry? location = some (.file contents)
  | .publish _ path | .withdraw path =>
    (∃ location contents, path.LeadsThrough location ∧
        tree.entry? location = some (.file contents)) ∨
      tree.entry? path.place = some .directory
  | .fillTemporary _ _ | .discard _ => False

/-- Whether nothing in a tree is in the way of artifacts: no file on the way to a destination, and
no directory at one. -/
structure IsClear (output : Path) (tree : FileTree) (artifacts : List Artifact) : Prop where
  ways : ∀ location contents, OnTheWay output artifacts location →
    tree.entry? location ≠ some (.file contents)
  destinations : ∀ artifact ∈ artifacts, tree.entry? (artifact.placeBelow output) ≠ some .directory

/-- No step that serves artifacts conflicts with a tree that is clear for them. -/
theorem IsClear.not_conflicts {output : Path} {tree : FileTree} {artifacts : List Artifact}
    (h : IsClear output tree artifacts) (hsource : ∀ artifact ∈ artifacts, artifact.NamesSource)
    {step : Step} (hserves : step.Serves output artifacts) : ¬ step.Conflicts tree := by
  have hways : ∀ artifact ∈ artifacts, ∀ path, (artifact.destination output).parent? = some path →
      ¬ ∃ location contents, path.LeadsAlong location ∧
        tree.entry? location = some (.file contents) := by
    rintro artifact hmem path hparent ⟨location, contents, halong, hfile⟩
    obtain ⟨directory, hdirectory, hthrough⟩ := (hsource artifact hmem).exists_directory output
    obtain rfl := Option.some.inj (hparent.symm.trans hdirectory)
    exact h.ways location contents ⟨artifact, hmem, hthrough location halong⟩ hfile
  have hdestinations : ∀ artifact ∈ artifacts, ¬ ((∃ location contents,
      (artifact.destination output).LeadsThrough location ∧
        tree.entry? location = some (.file contents)) ∨
      tree.entry? (artifact.destination output).place = some .directory) := by
    rintro artifact hmem (⟨location, contents, hthrough, hfile⟩ | hdirectory)
    · exact h.ways location contents ⟨artifact, hmem, hthrough⟩ hfile
    · exact h.destinations artifact hmem hdirectory
  cases step with
  | makeDirectories path | createTemporary path =>
    obtain ⟨artifact, hmem, hparent⟩ := hserves
    exact hways artifact hmem path hparent
  | publish _ path | withdraw path =>
    obtain ⟨artifact, hmem, rfl⟩ := hserves
    exact hdestinations artifact hmem
  | fillTemporary _ _ | discard _ => exact id

/-- Whether nothing in a tree is in the way of artifacts, nor will be while they are written: no
destination and no temporary file lies on the way to a destination. -/
structure Unobstructed (output : Path) (tree : FileTree) (artifacts : List Artifact) : Prop where
  clear : IsClear output tree artifacts
  apart : ∀ artifact ∈ artifacts, ¬ OnTheWay output artifacts (artifact.placeBelow output)
  fresh : ∀ location, IsTemporaryIn tree location → ¬ OnTheWay output artifacts location

variable {output : Path} {set : EntitySet} {options : Options} {initial : FileTree}
  {artifacts : List Artifact}

/-- A tree stays clear at all moments of a run. -/
theorem Midway.isClear {moment : Moment}
    (h : Midway output set options initial set.entities moment)
    (hrender : set.renderAll options = .ok artifacts)
    (hclear : Unobstructed output initial artifacts) : IsClear output moment.tree artifacts := by
  obtain ⟨before, current, earlier, own, start, hstarts, hwritten, hrendered, published,
    hunderway⟩ := h
  obtain ⟨others, rfl⟩ := EntitySet.exists_others_of_prefix hstarts hrendered hrender
  have hpublished : published.map (·.placeBelow output) ⊆ own.map (·.placeBelow output) :=
    List.map_subset _ hunderway.subset
  constructor
  · intro location contents hway hfile
    have hplace : location ∉ (earlier ++ own ++ others).map (·.placeBelow output) := by
      intro hmem
      obtain ⟨artifact, hartifact, rfl⟩ := List.mem_map.mp hmem
      exact hclear.apart artifact hartifact hway
    simp only [List.map_append, List.mem_append, not_or] at hplace
    obtain hsame | ⟨-, hdirectory, -⟩ := hwritten.isKept hunderway hplace.1.1
      (fun hmem => hplace.1.2 (hpublished hmem)) fun htemporary => hclear.fresh _ htemporary hway
    · exact hclear.clear.ways location contents hway (hsame ▸ hfile)
    · cases hdirectory.symm.trans hfile
  · intro artifact hartifact hdirectory
    have hends := (namesSource_of_renderFrom hrender artifact hartifact).not_endsIn output
    by_cases hown : artifact.placeBelow output ∈ published.map (·.placeBelow output)
    · obtain ⟨other, hother, hplace⟩ := List.mem_map.mp hown
      rw [← hplace] at hdirectory
      obtain hfile | ⟨hnone, -⟩ := hunderway.standing other hother
      · cases hdirectory.symm.trans hfile
      · cases hdirectory.symm.trans hnone
    · by_cases hearlier : artifact.placeBelow output ∈ earlier.map (·.placeBelow output)
      · obtain ⟨temporaries, htemporaries, hkeeps⟩ := hunderway.keeps
        obtain ⟨last, -, hfile⟩ := hwritten.overwritten.exists_file hearlier
        have hfresh : artifact.placeBelow output ∉ temporaries :=
          fun hmem => hends (htemporaries _ hmem).endsIn
        cases hdirectory.symm.trans (hkeeps.entry?_eq_some (by simp [hfresh, hown]) hfile)
      · obtain hsame | ⟨-, -, hway⟩ := hwritten.isKept hunderway hearlier hown
          fun htemporary => hends htemporary.endsIn
        · exact hclear.clear.destinations artifact hartifact (hsame ▸ hdirectory)
        · exact hclear.apart artifact hartifact (hway.mono (List.subset_append_left _ _))

namespace Disk

/-- Where nothing is in the way of the artifacts of a run, none of its steps conflicts with the tree
that it finds. -/
theorem not_conflicts_of_generateAll {breaksOff : Nat → Step → Option Nat}
    {result : Except Failure (List Path)} {after : Disk}
    (hrender : set.renderAll options = .ok artifacts)
    (hclear : Unobstructed output initial artifacts)
    (h : (storage.generateAll output set options).run (unreliable breaksOff initial) =
      (result, after)) :
    ∀ event ∈ after.past, ¬ event.step.Conflicts event.before := by
  intro event hevent
  have hmoments := (midway_of_generateAll h).1
  obtain ⟨later, earlier, hpast⟩ := List.append_of_mem hevent
  have hbefore := (hmoments _ (List.mem_cons_of_mem _ (mem_momentsBefore hpast))).isClear hrender
    hclear
  refine hbefore.not_conflicts (namesSource_of_renderFrom hrender) ?_
  obtain ⟨before, current, written, own, start, hstarts, -, hrendered, published, hunderway⟩ :=
    hmoments after.now List.mem_cons_self
  obtain ⟨others, rfl⟩ := EntitySet.exists_others_of_prefix hstarts hrendered hrender
  exact (hunderway.serves event hevent).mono (List.subset_append_left _ _)

/-- Where nothing is in the way of the artifacts of a run, a disk that refuses nothing but conflicts
lets it write all of them. -/
theorem generateAll_of_unobstructed {breaksOff : Nat → Step → Option Nat}
    {result : Except Failure (List Path)} {after : Disk}
    (hrender : set.renderAll options = .ok artifacts)
    (hclear : Unobstructed output initial artifacts)
    (h : (storage.generateAll output set options).run (unreliable breaksOff initial) =
      (result, after))
    (hconflicts : ∀ event ∈ after.past, event.succeeded = false →
      event.step.Conflicts event.before) :
    result = .ok (artifacts.map (·.destination output)) ∧
      Overwritten output initial after.tree artifacts := by
  have hsucceeded : AllSucceed after.past := by
    intro event hevent
    refine Bool.eq_true_of_not_eq_false fun hfailed => ?_
    exact not_conflicts_of_generateAll hrender hclear h event hevent
      (hconflicts event hevent hfailed)
  exact generateAll_of_allSucceed hrender h hsucceeded

end Disk

end PersistenceLayer
