import PersistenceLayer.Proofs.ArtifactPaths

/-!
# Rolling back

A run that fails while it writes an entity leaves the earlier entities written,
and of this one at most that earlier contents of its files are lost: those which
were replaced before the step that failed. A directory that was made on the way
to the destinations stays, and if the output directory steps upwards this can be
in the place of a file.
-/

namespace PersistenceLayer.Disk

variable {output : Path} {set : EntitySet} {options : Options} {claimed : ClaimedPaths}
  {disk middle after : Disk}

/-- What is withdrawn and kept of the artifacts of an entity when a step fails that writes them. -/
structure RolledBack (output : Path) (before after : FileTree) (failing : Step)
    (withdrawn kept : List Artifact) : Prop where
  /-- Nothing is withdrawn unless an artifact could not be published, and then those before it. -/
  failing : failing.isStaging = true ∧ withdrawn = [] ∨
    ∃ artifact others temporary, kept = artifact :: others ∧
      failing = .publish temporary (artifact.destination output)
  gone : ∀ artifact ∈ withdrawn, after.entry? (artifact.placeBelow output) = none
  untouched : ∀ artifact ∈ kept,
    after.entry? (artifact.placeBelow output) = before.entry? (artifact.placeBelow output) ∨
      .parent ∈ output.components ∧ before.entry? (artifact.placeBelow output) = none ∧
        after.entry? (artifact.placeBelow output) = some .directory
  keeps : FileTree.KeepsOutside (withdrawn.map (·.placeBelow output))
    (OnTheWay output (withdrawn ++ kept)) before after

/-- The places of the artifacts of an entity lie on the way to each other only if the output
directory steps upwards. -/
theorem parent_mem_of_onTheWay {entities : List Entity} {entity : Entity}
    {artifacts : List Artifact} {artifact : Artifact} (hnormal : NormalPaths options entities)
    (hentity : entity ∈ entities) (hrender : set.renderEntity options entity = .ok artifacts)
    (hmem : artifact ∈ artifacts) (hway : OnTheWay output artifacts (artifact.placeBelow output)) :
    .parent ∈ output.components := by
  obtain ⟨other, hother, hthrough⟩ := hway
  obtain ⟨kind, hkind, hpath⟩ := EntitySet.exists_kind_of_mem_renderEntity hrender hmem
  obtain ⟨otherKind, hotherKind, hotherPath⟩ :=
    EntitySet.exists_kind_of_mem_renderEntity hrender hother
  unfold Artifact.placeBelow Artifact.destination at hthrough
  rw [hpath, hotherPath] at hthrough
  refine Decidable.byContradiction fun hparent => ?_
  exact not_leadsThrough hparent (hnormal entity hentity kind hkind)
    (hnormal entity hentity otherKind hotherKind) hthrough

/-- The steps that write an entity withdraw and keep its artifacts as one of them fails. -/
theorem exists_rolledBack {entities : List Entity} {entity : Entity} {artifacts : List Artifact}
    {claimed' : ClaimedPaths} {before after : FileTree} {events : List Event} {failing : Event}
    (hnormal : NormalPaths options entities) (hentity : entity ∈ entities)
    (hprepare : Storage.prepare set options claimed entity = .ok (artifacts, claimed'))
    (hwriting : WritingFailed output artifacts before after events)
    (hfailing : failing ∈ events) (hfailed : failing.succeeded = false) :
    ∃ withdrawn kept, artifacts = withdrawn ++ kept ∧
      RolledBack output before after failing.step withdrawn kept := by
  obtain ⟨hrender, -, hclaims, -⟩ := EntitySet.prepare_eq_ok hprepare
  have hplaces : (artifacts.map (·.placeBelow output)).Nodup :=
    nodup_places (fun artifact => hnormal.isNormal hentity hrender) hclaims
  have huntouched : ∀ withdrawn kept : List Artifact, artifacts = withdrawn ++ kept →
      FileTree.KeepsOutside (withdrawn.map (·.placeBelow output)) (OnTheWay output artifacts)
        before after → ∀ artifact ∈ kept,
      after.entry? (artifact.placeBelow output) = before.entry? (artifact.placeBelow output) ∨
        .parent ∈ output.components ∧ before.entry? (artifact.placeBelow output) = none ∧
          after.entry? (artifact.placeBelow output) = some .directory := by
    rintro withdrawn kept rfl hkeeps artifact hmem
    rw [List.map_append, List.nodup_append] at hplaces
    have hapart : artifact.placeBelow output ∉ withdrawn.map (·.placeBelow output) :=
      fun hwithdrawn => hplaces.2.2 _ hwithdrawn _ (List.mem_map_of_mem hmem) rfl
    refine (hkeeps _ hapart).imp_right ?_
    rintro ⟨hnone, hdirectory, hway⟩
    exact ⟨parent_mem_of_onTheWay hnormal hentity hrender (List.mem_append_right _ hmem) hway,
      hnone, hdirectory⟩
  rcases hwriting with ⟨hkeeps, -, hstaging⟩ |
    ⟨withdrawn, artifact, others, hsplit, hgone, hkeeps, -, hpublish⟩
  · refine ⟨[], artifacts, rfl, .inl ⟨hstaging failing hfailing hfailed, rfl⟩, by simp, ?_, hkeeps⟩
    exact huntouched [] artifacts rfl hkeeps
  · obtain ⟨temporary, hstep⟩ := hpublish failing hfailing hfailed
    refine ⟨withdrawn, artifact :: others, hsplit, .inr ⟨artifact, others, temporary, rfl, hstep⟩,
      hgone, huntouched _ _ hsplit hkeeps, hsplit ▸ hkeeps⟩

/-- If a step fails and everything is undone that can be, then the run ends with an error of the
storage at the entity that the step belongs to. The artifacts of all entities before it stay where
they are, those of its own are withdrawn or kept back, and nothing else is changed since. -/
theorem generateAll_rolls_back {breaksOff : Nat → Step → Option Nat} {tree : FileTree}
    {result : Except Failure (List Path)} {failing : Event}
    (hnormal : NormalPaths options set.entities)
    (h : (storage.generateAll output set options).run (unreliable breaksOff tree) = (result, after))
    (hundo : after.UndoesAll) (hfailing : failing ∈ after.past)
    (hfailed : failing.succeeded = false) :
    ∃ earlier entity later published middle withdrawn kept,
      set.entities = earlier ++ entity :: later ∧
      GetsThrough output set options [] earlier published (unreliable breaksOff tree) middle ∧
      set.renderEntity options entity = .ok (withdrawn ++ kept) ∧
      (∃ path reason, result = .error (.storage path reason)) ∧
      (∀ artifact ∈ published,
        after.tree.contents? (artifact.placeBelow output) = some artifact.contents) ∧
      RolledBack output middle.tree after.tree failing.step withdrawn kept := by
  obtain ⟨earlier, rest, published, middle, failure, hsplit, hthrough, hends, rfl⟩ :=
    run_generateFrom hnormal h
  obtain ⟨past, hpast, hsucceeded⟩ := hthrough.past
  have hmiddle : failing ∉ middle.past := by
    intro hmem
    rw [hpast, show (unreliable breaksOff tree).past = [] from rfl, List.append_nil] at hmem
    rw [hsucceeded failing hmem] at hfailed
    cases hfailed
  cases hends with
  | finished => exact absurd hfailing hmiddle
  | refused => exact absurd hfailing hmiddle
  | @broken entity later artifacts claimed' path reason _ events hprepare hevents hwriting =>
    have hmem : failing ∈ events :=
      (List.mem_append.mp (hevents ▸ hfailing)).resolve_right hmiddle
    have hentity : entity ∈ set.entities := by simp [hsplit]
    obtain ⟨withdrawn, kept, rfl, hrolled⟩ :=
      exists_rolledBack hnormal hentity hprepare (hwriting hundo) hmem hfailed
    obtain ⟨hrender, -, -, hfree⟩ := EntitySet.prepare_eq_ok hprepare
    refine ⟨earlier, entity, later, published, middle, withdrawn, kept, hsplit, hthrough, hrender,
      ⟨path, reason, rfl⟩, ?_, hrolled⟩
    intro artifact hartifact
    rw [FileTree.contents?_eq_some_iff]
    refine hrolled.keeps.entry?_eq_some ?_ (hthrough.published.written artifact hartifact)
    refine placeBelow_notMem (NormalPaths.isNormal_of_renderFrom ?_ hthrough.rendered hartifact)
      (fun other hother => hnormal.isNormal hentity hrender (List.mem_append_left _ hother)) ?_
    · exact fun other hother => hnormal other (hsplit ▸ List.mem_append_left _ hother)
    · intro hclaimed
      refine hfree artifact.path.components ?_ ?_
      · rw [claimsOf, List.map_append]
        exact List.mem_append_left _ hclaimed
      · exact List.mem_append_left _ (List.mem_reverse.mpr (List.mem_map_of_mem hartifact))

/-- A tree with a directory where the data holder of the group would be published. -/
def blockedTree : FileTree :=
  ⟨[(⟨.aboveHome 0, ["out"]⟩, .directory), (⟨.aboveHome 0, ["out", "p"]⟩, .directory),
    (⟨.aboveHome 0, ["out", "p", "GroupData.kt"]⟩, .directory)]⟩

/-- The run that tries to generate the client-facing data of both of them there. -/
def blockedRun : Except Failure (List Path) × Disk :=
  (storage.generateAll ⟨"out"⟩ userAndGroup { onlyData := true }).run (ofTree blockedTree)

/-- The group cannot be written: its contract is withdrawn, and the user stays written. -/
theorem generateAll_rolls_back_blockedRun :
    ∃ failing ∈ blockedRun.2.past, failing.succeeded = false ∧
      ∃ earlier entity later published middle withdrawn kept,
      userAndGroup.entities = earlier ++ entity :: later ∧
      GetsThrough ⟨"out"⟩ userAndGroup { onlyData := true } [] earlier published
        (ofTree blockedTree) middle ∧
      userAndGroup.renderEntity { onlyData := true } entity = .ok (withdrawn ++ kept) ∧
      (∃ path reason, blockedRun.1 = .error (.storage path reason)) ∧
      (∀ artifact ∈ published,
        blockedRun.2.tree.contents? (artifact.placeBelow ⟨"out"⟩) = some artifact.contents) ∧
      RolledBack ⟨"out"⟩ middle.tree blockedRun.2.tree failing.step withdrawn kept := by
  have hnormal : NormalPaths { onlyData := true } userAndGroup.entities := by
    unfold NormalPaths
    decide +kernel
  have hundo : blockedRun.2.UndoesAll := by
    unfold UndoesAll
    decide +kernel
  obtain ⟨failing, hfailing, hfailed⟩ :
      ∃ failing ∈ blockedRun.2.past, failing.succeeded = false := by
    decide +kernel
  exact ⟨failing, hfailing, hfailed,
    generateAll_rolls_back hnormal (Prod.eta blockedRun).symm hundo hfailing hfailed⟩

/-- A user without a package. -/
def loneUser : EntitySet where
  entities := [{ name := "user" }]
  names_nodup := by decide
  attributes_nodup := by decide

/-- The run that generates its client-facing data where a step upwards takes back a directory that
has the name of the contract. -/
def detourRun : Except Failure (List Path) × Disk :=
  (storage.generateAll ⟨"IUser.kt/.."⟩ loneUser { onlyData := true }).run (ofTree .empty)

/-- The directory is in the way of the contract: where nothing stood before it still stands after
everything else is undone. -/
theorem directory_stays_after_detourRun :
    NormalPaths { onlyData := true } loneUser.entities ∧ detourRun.2.UndoesAll ∧
      (∃ failing ∈ detourRun.2.past, failing.succeeded = false ∧
        failing.step = .publish ⟨.aboveHome 0, [".tmp000000000"]⟩ ⟨"IUser.kt/../IUser.kt"⟩) ∧
      FileTree.empty.entry? (Path.place ⟨"IUser.kt/../IUser.kt"⟩) = none ∧
      detourRun.2.tree.entry? (Path.place ⟨"IUser.kt/../IUser.kt"⟩) = some .directory := by
  unfold NormalPaths UndoesAll
  decide +kernel

end PersistenceLayer.Disk
