import PersistenceLayer.Proofs.RollBack
import PersistenceLayer.Proofs.RunMoments

/-!
# What destinations hold

Wherever a run is cut off, no destination holds a part of an artifact: it holds
what it held before, the whole artifact, or nothing while its entity is taken
back. It changes only once all artifacts of its entity are staged and those of
all entities before it are in place. Where nothing stood, though, a directory can
have been made on the way to another destination.
-/

namespace PersistenceLayer

variable {output : Path} {set : EntitySet} {options : Options} {initial : FileTree}

/-- Whether an entity can be published: its artifacts are staged in temporary files of their own,
those of the entities before it are in place, and its destinations are kept. -/
structure IsReady (output : Path) (initial : FileTree) (earlier artifacts : List Artifact)
    (tree : FileTree) : Prop where
  staged : ∃ files : List StagedArtifact, files.map StagedArtifact.artifact = artifacts ∧
    (files.map StagedArtifact.temporary).Nodup ∧
      ∀ file ∈ files, tree.entry? file.temporary = some (.file file.artifact.contents)
  inPlace : ∀ artifact ∈ earlier,
    tree.entry? (artifact.placeBelow output) = some (.file artifact.contents)
  kept : ∀ artifact ∈ artifacts,
    IsKept output initial (earlier ++ artifacts) tree (artifact.placeBelow output)

/-- What the destination of an artifact of an entity can hold at a moment of a run. -/
inductive DestinationHolds (output : Path) (initial : FileTree) (earlier artifacts : List Artifact)
    (moment : Moment) (artifact : Artifact) : Prop
  /-- What it held before. -/
  | before (h : moment.tree.entry? (artifact.placeBelow output) =
      initial.entry? (artifact.placeBelow output))
  /-- A directory on the way to a destination of this entity or one before it, where nothing stood
  before. -/
  | passage (hnone : initial.entry? (artifact.placeBelow output) = none)
      (hdirectory : moment.tree.entry? (artifact.placeBelow output) = some .directory)
      (hway : OnTheWay output (earlier ++ artifacts) (artifact.placeBelow output))
  /-- The whole artifact, once its entity has been ready. -/
  | whole
      (hready : ∃ event ∈ moment.past, IsReady output initial earlier artifacts event.before)
      (hfile : moment.tree.entry? (artifact.placeBelow output) = some (.file artifact.contents))
  /-- Nothing, once its entity has been ready and one of its artifacts could not be published. -/
  | withdrawn
      (hready : ∃ event ∈ moment.past, IsReady output initial earlier artifacts event.before)
      (hnone : moment.tree.entry? (artifact.placeBelow output) = none)
      (hfailed : RollsBack output artifacts moment.past)

theorem IsKept.holds {earlier artifacts : List Artifact} {moment : Moment} {artifact : Artifact}
    (h : IsKept output initial (earlier ++ artifacts) moment.tree (artifact.placeBelow output)) :
    DestinationHolds output initial earlier artifacts moment artifact := by
  obtain hsame | ⟨hnone, hdirectory, hway⟩ := h
  · exact .before hsame
  · exact .passage hnone hdirectory hway

/-! ## Places of a run -/

/-- The artifacts of a run with normal paths are published at different places. -/
theorem NormalPaths.nodup_places {entities : List Entity} {artifacts : List Artifact}
    (hnormal : NormalPaths options entities)
    (h : set.renderFrom options [] entities = .ok artifacts) :
    (artifacts.map (·.placeBelow output)).Nodup :=
  PersistenceLayer.nodup_places (fun _ => hnormal.isNormal_of_renderFrom h)
    (EntitySet.nodup_claimsOf_of_renderFrom h)

/-- Entities that are ready have been so before some step. -/
theorem WasReady.exists_isReady {earlier artifacts : List Artifact} {past : List Event}
    (h : WasReady output initial earlier artifacts past)
    (hsource : ∀ artifact ∈ earlier ++ artifacts, artifact.NamesSource)
    (hplaces : ((earlier ++ artifacts).map (·.placeBelow output)).Nodup) :
    ∃ event ∈ past, IsReady output initial earlier artifacts event.before := by
  obtain ⟨start, hstart, event, hevent, files, rfl, hprepared⟩ := h
  rw [List.map_append, List.nodup_append] at hplaces
  have hfresh : ∀ artifact ∈ earlier ++ files.map StagedArtifact.artifact,
      artifact.placeBelow output ∉ files.map StagedArtifact.temporary :=
    fun artifact hmem hfresh => by
      obtain ⟨file, hfile, hplace⟩ := List.mem_map.mp hfresh
      exact (hsource artifact hmem).not_endsIn output (hplace ▸ (hprepared.fresh file hfile).2)
  refine ⟨event, hevent, ⟨files, rfl, hprepared.distinct, hprepared.filled⟩, ?_, ?_⟩
  · intro artifact hmem
    exact hprepared.keeps.entry?_eq_some (hfresh artifact (List.mem_append_left _ hmem))
      (hstart.entry?_of_mem hplaces.1 hmem)
  · intro artifact hmem
    refine hstart.keeps.append hprepared.keeps _ ?_
    rw [List.mem_append, not_or]
    refine ⟨fun hearlier => ?_, hfresh artifact (List.mem_append_right _ hmem)⟩
    exact hplaces.2.2 _ hearlier _ (List.mem_map_of_mem hmem) rfl

/-- At a moment of a run an entity has been written, is the current one, or has not been begun. -/
theorem prefix_cases {before first later : List Entity} {current : Option Entity} {entity : Entity}
    (h : before ++ current.toList <+: first ++ entity :: later) :
    (∃ rest, before = first ++ entity :: rest) ∨ (before = first ∧ current = some entity) ∨
      before ++ current.toList <+: first := by
  have hbefore : before <+: first ++ entity :: later := (List.prefix_append _ _).trans h
  have hfirst : first <+: first ++ entity :: later := List.prefix_append _ _
  rcases Nat.lt_trichotomy before.length first.length with hlength | hlength | hlength
  · refine .inr (.inr (List.prefix_of_prefix_length_le h hfirst ?_))
    cases current <;> simp <;> omega
  · obtain rfl : before = first :=
      (List.prefix_of_prefix_length_le hbefore hfirst hlength.le).eq_of_length hlength
    cases current with
    | none => exact .inr (.inr (by simp))
    | some current =>
      have hsame := (List.prefix_append_right_inj _).mp h
      exact .inr (.inl ⟨rfl, congrArg some (List.cons_prefix_cons.mp hsame).1⟩)
  · obtain ⟨rest, rfl⟩ := List.prefix_of_prefix_length_le hfirst hbefore hlength.le
    cases rest with
    | nil => simp at hlength
    | cons other rest =>
      have hsame := (List.prefix_append_right_inj _).mp hbefore
      exact .inl ⟨rest, by rw [(List.cons_prefix_cons.mp hsame).1]⟩

/-! ## Moments -/

section Moments

variable {entities : List Entity} {earlier artifacts published : List Artifact}
  {start moment : Moment}

/-- What has been written stays in place while another entity is underway. -/
theorem HasWritten.entry?_eq (h : HasWritten output set options initial entities earlier start)
    {planned : List Artifact} (hunderway : Underway output planned artifacts start published moment)
    (hplaces : ((earlier ++ artifacts).map (·.placeBelow output)).Nodup) {artifact : Artifact}
    (hmem : artifact ∈ earlier) :
    moment.tree.entry? (artifact.placeBelow output) = some (.file artifact.contents) := by
  rw [List.map_append, List.nodup_append] at hplaces
  obtain ⟨temporaries, htemporaries, hkeeps⟩ := hunderway.keeps
  refine hkeeps.entry?_eq_some ?_ (h.overwritten.entry?_of_mem hplaces.1 hmem)
  rw [List.mem_append, not_or]
  refine ⟨fun hfresh => ?_, fun hpublished => ?_⟩
  · exact (namesSource_of_renderFrom h.rendered artifact hmem).not_endsIn output
      (htemporaries _ hfresh).endsIn
  · exact hplaces.2.2 _ (List.mem_map_of_mem hmem) _
      (List.map_subset _ hunderway.subset hpublished) rfl

/-- The destinations of an entity that has been written hold its artifacts. -/
theorem HasWritten.destinationHolds {first rest : List Entity} {entity : Entity}
    {written planned own : List Artifact}
    (h : HasWritten output set options initial (first ++ entity :: rest) written start)
    (hunderway : Underway output planned own start published moment)
    (hplaces : ((written ++ own).map (·.placeBelow output)).Nodup)
    (hfirst : set.renderFrom options [] first = .ok earlier)
    (hown : set.renderFrom options [] (first ++ [entity]) = .ok (earlier ++ artifacts))
    {artifact : Artifact} (hmem : artifact ∈ artifacts) :
    DestinationHolds output initial earlier artifacts moment artifact := by
  obtain ⟨earlier', artifacts', hearlier, hartifacts, hready⟩ := h.ready first entity rest rfl
  obtain rfl := Except.ok.inj (hfirst.symm.trans hearlier)
  obtain rfl := List.append_cancel_left (Except.ok.inj (hown.symm.trans hartifacts))
  obtain ⟨others, rfl⟩ := EntitySet.exists_others_of_prefix (by simp) hown h.rendered
  have hfile := h.entry?_eq hunderway hplaces
    (List.mem_append_left others (List.mem_append_right earlier hmem))
  rw [List.append_assoc, List.map_append] at hplaces
  exact .whole ((hready.mono hunderway.since).exists_isReady (namesSource_of_renderFrom hown)
    (List.nodup_append.mp hplaces).1) hfile

/-- While an entity is underway, its destinations are kept, or hold its artifacts, or nothing if it
is taken back. -/
theorem Underway.destinationHolds {entities : List Entity} {planned : List Artifact}
    (h : Underway output planned artifacts start published moment)
    (hwritten : HasWritten output set options initial entities earlier start)
    (hsource : ∀ artifact ∈ earlier ++ artifacts, artifact.NamesSource)
    (hplaces : ((earlier ++ artifacts).map (·.placeBelow output)).Nodup) {artifact : Artifact}
    (hmem : artifact ∈ artifacts) :
    DestinationHolds output initial earlier artifacts moment artifact := by
  obtain ⟨-, hown, hapart⟩ := List.nodup_append.mp (List.map_append ▸ hplaces)
  by_cases hpublished : artifact.placeBelow output ∈ published.map (·.placeBelow output)
  · obtain ⟨other, hother, hplace⟩ := List.mem_map.mp hpublished
    obtain rfl : other = artifact :=
      List.inj_on_of_nodup_map hown (h.subset hother) hmem hplace
    have hready : WasReady output initial earlier artifacts moment.past :=
      ⟨start.tree, hwritten.overwritten, h.staged (List.ne_nil_of_mem hother)⟩
    obtain hfile | ⟨hnone, hfailed⟩ := h.standing other hother
    · exact .whole (hready.exists_isReady hsource hplaces) hfile
    · exact .withdrawn (hready.exists_isReady hsource hplaces) hnone hfailed
  · refine (hwritten.isKept h (fun hearlier => ?_) hpublished fun htemporary => ?_).holds
    · exact hapart _ hearlier _ (List.mem_map_of_mem hmem) rfl
    · exact (hsource artifact (List.mem_append_right _ hmem)).not_endsIn output htemporary.endsIn

/-- The destinations of an entity that has not been begun are kept. -/
theorem Underway.destinationHolds_of_later {entities : List Entity}
    {planned own others : List Artifact} (h : Underway output planned own start published moment)
    (hwritten : HasWritten output set options initial entities earlier start)
    (hplaces : ((earlier ++ own ++ others ++ artifacts).map (·.placeBelow output)).Nodup)
    {artifact : Artifact} (hsource : artifact.NamesSource) (hmem : artifact ∈ artifacts) :
    DestinationHolds output initial (earlier ++ own ++ others) artifacts moment artifact := by
  rw [List.map_append] at hplaces
  have hapart : artifact.placeBelow output ∉ (earlier ++ own ++ others).map (·.placeBelow output) :=
    fun hearlier =>
      (List.nodup_append.mp hplaces).2.2 _ hearlier _ (List.mem_map_of_mem hmem) rfl
  simp only [List.map_append, List.mem_append, not_or] at hapart
  have hkept : IsKept output initial (earlier ++ own) moment.tree (artifact.placeBelow output) :=
    hwritten.isKept h hapart.1.1
      (fun hpublished => hapart.1.2 (List.map_subset _ h.subset hpublished))
      fun htemporary => hsource.not_endsIn output htemporary.endsIn
  refine (hkept.mono ?_).holds
  rw [List.append_assoc]
  exact List.subset_append_left _ _

/-- At a moment of a run each destination of an entity holds what it can hold. -/
theorem Midway.destinationHolds (h : Midway output set options initial set.entities moment)
    (hnormal : NormalPaths options set.entities) {first later : List Entity} {entity : Entity}
    (hentities : set.entities = first ++ entity :: later)
    (hfirst : set.renderFrom options [] first = .ok earlier)
    (hown : set.renderFrom options [] (first ++ [entity]) = .ok (earlier ++ artifacts))
    {artifact : Artifact} (hmem : artifact ∈ artifacts) :
    DestinationHolds output initial earlier artifacts moment artifact := by
  have hnodup : ∀ {entities : List Entity} {all : List Artifact}, entities <+: set.entities →
      set.renderFrom options [] entities = .ok all → (all.map (·.placeBelow output)).Nodup :=
    fun hstarts => NormalPaths.nodup_places fun other hother =>
      hnormal other (hstarts.subset hother)
  have hsource := namesSource_of_renderFrom hown
  have hplaces := hnodup (by simp [hentities]) hown
  obtain ⟨before, current, written, own, start, hstarts, hwritten, hrendered, published,
    hunderway⟩ := h
  have hall := hnodup hstarts hrendered
  rw [hentities] at hstarts
  obtain ⟨rest, rfl⟩ | ⟨rfl, rfl⟩ | hbefore := prefix_cases hstarts
  · exact hwritten.destinationHolds hunderway hall hfirst hown hmem
  · obtain rfl := Except.ok.inj (hfirst.symm.trans hwritten.rendered)
    obtain rfl := List.append_cancel_left (Except.ok.inj (hown.symm.trans hrendered))
    exact hunderway.destinationHolds hwritten hsource hplaces hmem
  · obtain ⟨others, rfl⟩ := EntitySet.exists_others_of_prefix hbefore hrendered hfirst
    exact hunderway.destinationHolds_of_later hwritten hplaces
      (hsource artifact (List.mem_append_right _ hmem)) hmem

end Moments

namespace Disk

/-- If the paths of all artifacts are normal, each destination of a run holds at every moment what
it held before, the whole artifact, or nothing as its entity is taken back; only a directory on the
way to a destination of this entity or one before it can stand where nothing stood. No destination
changes before its entity is ready to be published. A place that is no destination of the entities
that the run has come to is kept, unless it is a temporary file's. -/
theorem destinations_hold_whole_artifacts {breaksOff : Nat → Step → Option Nat}
    {result : Except Failure (List Path)} {after : Disk}
    (hnormal : NormalPaths options set.entities)
    (h : (storage.generateAll output set options).run (unreliable breaksOff initial) =
      (result, after)) :
    ∀ moment ∈ after.moments,
      (∀ (before : List Entity) (entity : Entity) (later : List Entity)
          (earlier artifacts : List Artifact),
        set.entities = before ++ entity :: later →
        set.renderFrom options [] before = .ok earlier →
        set.renderFrom options [] (before ++ [entity]) = .ok (earlier ++ artifacts) →
        ∀ artifact ∈ artifacts,
          DestinationHolds output initial earlier artifacts moment artifact) ∧
      ∃ reached artifacts, reached <+: set.entities ∧
        set.renderFrom options [] reached = .ok artifacts ∧
        ∀ location ∉ artifacts.map (·.placeBelow output), ¬ IsTemporaryIn initial location →
          IsKept output initial artifacts moment.tree location := by
  intro moment hmoment
  have hmidway := (midway_of_generateAll h).1 moment hmoment
  constructor
  · intro before entity later earlier artifacts hentities hearlier hown artifact hmem
    exact hmidway.destinationHolds hnormal hentities hearlier hown hmem
  · obtain ⟨before, current, earlier, artifacts, start, hstarts, hwritten, hrendered, published,
      hunderway⟩ := hmidway
    refine ⟨before ++ current.toList, earlier ++ artifacts, hstarts, hrendered, ?_⟩
    intro location hlocation htemporary
    rw [List.map_append, List.mem_append, not_or] at hlocation
    exact hwritten.isKept hunderway hlocation.1
      (fun hpublished => hlocation.2 (List.map_subset _ hunderway.subset hpublished)) htemporary

/-- The run for which there is a directory in the way: at each of its moments the destinations of
the group hold what they can hold, also after its contract has been published and withdrawn. -/
theorem destinations_hold_whole_artifacts_blockedRun :
    NormalPaths { onlyData := true } userAndGroup.entities ∧
    ∃ user group earlier artifacts, userAndGroup.entities = [user] ++ [group] ∧
      userAndGroup.renderFrom { onlyData := true } [] [user] = .ok earlier ∧
      userAndGroup.renderFrom { onlyData := true } [] ([user] ++ [group]) =
        .ok (earlier ++ artifacts) ∧
      (∃ event ∈ blockedRun.2.past, event.step = .withdraw ⟨"out/p/IGroup.kt"⟩) ∧
      ∀ moment ∈ blockedRun.2.moments, ∀ artifact ∈ artifacts,
        DestinationHolds ⟨"out"⟩ blockedTree earlier artifacts moment artifact := by
  have hnormal : NormalPaths { onlyData := true } userAndGroup.entities := by
    unfold NormalPaths
    decide +kernel
  have hwithdraw : ∃ event ∈ blockedRun.2.past, event.step = .withdraw ⟨"out/p/IGroup.kt"⟩ := by
    decide +kernel
  obtain ⟨user, group, hentities⟩ :
      ∃ user group, userAndGroup.entities = [user] ++ [group] := ⟨_, _, rfl⟩
  have hrenders : (userAndGroup.renderAll { onlyData := true }).isOk = true := by decide +kernel
  cases hall : userAndGroup.renderAll { onlyData := true } with
  | error failure =>
    rw [hall] at hrenders
    cases hrenders
  | ok all =>
    unfold EntitySet.renderAll at hall
    rw [hentities] at hall
    cases hearlier : userAndGroup.renderFrom { onlyData := true } [] [user] with
    | error failure =>
      rw [EntitySet.renderFrom_append_of_error hearlier] at hall
      cases hall
    | ok earlier =>
      obtain ⟨artifacts, rfl⟩ :=
        EntitySet.exists_others_of_prefix (List.prefix_append _ _) hearlier hall
      refine ⟨hnormal, user, group, earlier, artifacts, hentities, hearlier, hall, hwithdraw, ?_⟩
      intro moment hmoment
      exact (destinations_hold_whole_artifacts hnormal (Prod.eta blockedRun).symm moment
        hmoment).1 [user] group [] earlier artifacts hentities hearlier hall

/-- A group in a package of its own. -/
def loneGroup : EntitySet where
  entities := [{ name := "group", packageName := "p" }]
  names_nodup := by decide
  attributes_nodup := by decide

/-- The run that generates its client-facing data where steps upwards take back directories that
have the names of the package and of the contract. -/
def detourGroupRun : Except Failure (List Path) × Disk :=
  (storage.generateAll ⟨"p/IGroup.kt/../.."⟩ loneGroup { onlyData := true }).run (ofTree .empty)

/-- A user, and an entity whose files lie in directories that have the names of the user's. -/
def userBelowUser : EntitySet where
  entities := [{ name := "IUser.kt/x", packageName := "p" }, { name := "user", packageName := "p" }]
  names_nodup := by decide
  attributes_nodup := by decide

/-- The run that generates the client-facing data of both of them where nothing stands. -/
def userBelowUserRun : Except Failure (List Path) × Disk :=
  (storage.generateAll ⟨"out"⟩ userBelowUser { onlyData := true }).run (ofTree .empty)

/-- A destination where nothing stood holds a directory in the end: one that was made on the way to
this very destination, or on the way to that of an entity before it. -/
theorem directory_stands_at_destination :
    (NormalPaths { onlyData := true } loneGroup.entities ∧
      FileTree.empty.entry? (Path.place ⟨"p/IGroup.kt/../../p/IGroup.kt"⟩) = none ∧
      detourGroupRun.2.tree.entry? (Path.place ⟨"p/IGroup.kt/../../p/IGroup.kt"⟩) =
        some .directory) ∧
    NormalPaths { onlyData := true } userBelowUser.entities ∧
      FileTree.empty.entry? (Path.place ⟨"out/p/IUser.kt"⟩) = none ∧
      userBelowUserRun.2.tree.entry? (Path.place ⟨"out/p/IUser.kt"⟩) = some .directory := by
  unfold NormalPaths
  decide +kernel

end Disk

end PersistenceLayer
