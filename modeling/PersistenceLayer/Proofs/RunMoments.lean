import PersistenceLayer.Proofs.Collisions
import PersistenceLayer.Proofs.Overwriting
import PersistenceLayer.Proofs.WritingMoments

/-!
# Moments of a whole run

At every moment of a run some entities are written completely, the artifacts of
at most one more are underway, and nothing has happened to the others yet. What
is remembered of a written entity is the moment at which its artifacts were all
staged and those of the entities before it all written.
-/

namespace PersistenceLayer

variable {output : Path} {set : EntitySet} {options : Options} {initial : FileTree}

/-! ## Artifacts of a run -/

/-- The artifacts of a run are source files. -/
theorem namesSource_of_renderFrom {entities : List Entity} {artifacts : List Artifact}
    (h : set.renderFrom options [] entities = .ok artifacts) :
    ∀ artifact ∈ artifacts, artifact.NamesSource := by
  intro artifact hmem
  obtain ⟨entity, -, rendered, hrender, hrendered⟩ :=
    EntitySet.exists_entity_of_mem_renderFrom h hmem
  exact namesSource_of_mem_renderEntity hrender hrendered

/-- No artifact is published at a place that is named as temporary files are. -/
theorem Artifact.NamesSource.not_endsIn {artifact : Artifact} (h : artifact.NamesSource)
    (output : Path) : ¬ (artifact.placeBelow output).EndsIn '0' := by
  obtain ⟨c, hne, hends⟩ := h.placeBelow_endsIn output
  exact fun hzero => hends.ne hzero hne rfl

/-- What a run in memory renders of some entities comes first in what it renders of more. -/
theorem EntitySet.exists_others_of_prefix {before entities : List Entity}
    {earlier artifacts : List Artifact} (hstarts : before <+: entities)
    (hbefore : set.renderFrom options [] before = .ok earlier)
    (h : set.renderFrom options [] entities = .ok artifacts) :
    ∃ others, artifacts = earlier ++ others := by
  obtain ⟨rest, rfl⟩ := hstarts
  rw [renderFrom_append hbefore] at h
  cases hrest : set.renderFrom options ((claimsOf earlier).reverse ++ []) rest with
  | error failure =>
    rw [hrest] at h
    cases h
  | ok others =>
    rw [hrest] at h
    exact ⟨others, (Except.ok.inj h).symm⟩

/-! ## Entities that are written -/

/-- Whether there was a moment in a record at which earlier artifacts were written, those of an
entity were staged, and nothing else had happened but that directories were made. -/
def WasReady (output : Path) (initial : FileTree) (earlier artifacts : List Artifact)
    (past : List Event) : Prop :=
  ∃ start, Overwritten output initial start earlier ∧ WasStaged output start artifacts past

theorem WasReady.mono {earlier artifacts : List Artifact} {past later : List Event}
    (h : WasReady output initial earlier artifacts past) (hpast : past ⊆ later) :
    WasReady output initial earlier artifacts later := by
  obtain ⟨start, hstart, hstaged⟩ := h
  exact ⟨start, hstart, hstaged.mono hpast⟩

/-- A moment at which a run has written some entities, each of them once it was ready. -/
structure HasWritten (output : Path) (set : EntitySet) (options : Options) (initial : FileTree)
    (entities : List Entity) (artifacts : List Artifact) (moment : Moment) : Prop where
  rendered : set.renderFrom options [] entities = .ok artifacts
  overwritten : Overwritten output initial moment.tree artifacts
  serves : ∀ event ∈ moment.past, event.step.Serves output artifacts
  ready : ∀ before entity later, entities = before ++ entity :: later → ∃ earlier own,
    set.renderFrom options [] before = .ok earlier ∧
      set.renderFrom options [] (before ++ [entity]) = .ok (earlier ++ own) ∧
      WasReady output initial earlier own moment.past

namespace HasWritten

theorem nil (output : Path) (set : EntitySet) (options : Options) (initial : FileTree) :
    HasWritten output set options initial [] [] ⟨[], initial⟩ where
  rendered := rfl
  overwritten := .nil _ _
  serves := by simp
  ready := by simp

/-- Once its artifacts are published, one more entity is written. -/
theorem concat {entities : List Entity} {entity : Entity} {earlier artifacts : List Artifact}
    {start moment : Moment} (h : HasWritten output set options initial entities earlier start)
    (hrendered : set.renderFrom options [] (entities ++ [entity]) = .ok (earlier ++ artifacts))
    (hne : artifacts ≠ []) (hwritten : Overwritten output start.tree moment.tree artifacts)
    (hunderway : Underway output (earlier ++ artifacts) artifacts start artifacts moment) :
    HasWritten output set options initial (entities ++ [entity]) (earlier ++ artifacts) moment where
  rendered := hrendered
  overwritten := h.overwritten.append hwritten
  serves := hunderway.serves
  ready := by
    intro before other later hsplit
    rcases later.eq_nil_or_concat with rfl | ⟨later, last, rfl⟩
    · obtain ⟨rfl, hlast⟩ := List.append_inj' hsplit rfl
      obtain rfl : entity = other := by simpa using hlast
      exact ⟨earlier, artifacts, h.rendered, hrendered, start.tree, h.overwritten,
        hunderway.staged hne⟩
    · rw [List.concat_eq_append, ← List.cons_append, ← List.append_assoc] at hsplit
      obtain ⟨hentities, -⟩ := List.append_inj' hsplit rfl
      obtain ⟨first, own, hfirst, hown, hready⟩ := h.ready before other later hentities
      exact ⟨first, own, hfirst, hown, hready.mono hunderway.since⟩

end HasWritten

/-- A moment of a run: some entities are written, and of the next one, if it is not the last, the
artifacts are underway. -/
structure MidwayAt (output : Path) (set : EntitySet) (options : Options) (initial : FileTree)
    (before : List Entity) (current : Option Entity) (earlier artifacts : List Artifact)
    (start moment : Moment) : Prop where
  written : HasWritten output set options initial before earlier start
  rendered : set.renderFrom options [] (before ++ current.toList) = .ok (earlier ++ artifacts)
  underway : IsUnderway output (earlier ++ artifacts) artifacts start moment

/-- A moment of a run over some entities. -/
def Midway (output : Path) (set : EntitySet) (options : Options) (initial : FileTree)
    (entities : List Entity) (moment : Moment) : Prop :=
  ∃ before current earlier artifacts start, before ++ current.toList <+: entities ∧
    MidwayAt output set options initial before current earlier artifacts start moment

theorem Midway.mono {entities others : List Entity} {moment : Moment}
    (h : Midway output set options initial entities moment) (hstarts : entities <+: others) :
    Midway output set options initial others moment := by
  obtain ⟨before, current, earlier, artifacts, start, hentities, hmoment⟩ := h
  exact ⟨before, current, earlier, artifacts, start, hentities.trans hstarts, hmoment⟩

/-- Between two entities nothing is underway. -/
theorem HasWritten.midway {before entities : List Entity} {earlier : List Artifact}
    {moment : Moment} (h : HasWritten output set options initial before earlier moment)
    (hstarts : before <+: entities) : Midway output set options initial entities moment := by
  refine ⟨before, none, earlier, [], moment, by simpa using hstarts, h, ?_, [], ?_⟩
  · simpa using h.rendered
  · rw [List.append_nil]
    exact .refl h.serves []

/-! ## Places that are kept -/

/-- Whether a place holds what it held before or, if that was nothing, at most a directory that was
made on the way to the destinations of some artifacts. -/
def IsKept (output : Path) (initial : FileTree) (artifacts : List Artifact) (tree : FileTree)
    (location : Location) : Prop :=
  tree.entry? location = initial.entry? location ∨
    initial.entry? location = none ∧ tree.entry? location = some .directory ∧
      OnTheWay output artifacts location

theorem IsKept.mono {artifacts others : List Artifact} {tree : FileTree} {location : Location}
    (h : IsKept output initial artifacts tree location) (hsubset : artifacts ⊆ others) :
    IsKept output initial others tree location := by
  refine h.imp_right ?_
  rintro ⟨hnone, hdirectory, hway⟩
  exact ⟨hnone, hdirectory, hway.mono hsubset⟩

section

variable {entities : List Entity} {earlier artifacts published : List Artifact}
  {start moment : Moment}

/-- Places that were kept before an entity was begun are kept unless one of its artifacts has been
published there. -/
theorem HasWritten.isKept (h : HasWritten output set options initial entities earlier start)
    {planned : List Artifact} (hunderway : Underway output planned artifacts start published moment)
    {location : Location} (hearlier : location ∉ earlier.map (·.placeBelow output))
    (hpublished : location ∉ published.map (·.placeBelow output))
    (htemporary : ¬ IsTemporaryIn initial location) :
    IsKept output initial (earlier ++ artifacts) moment.tree location := by
  obtain ⟨temporaries, htemporaries, hkeeps⟩ := hunderway.keeps
  have hfresh : location ∉ temporaries := by
    intro hmem
    obtain ⟨hfree, hends, hdotted⟩ := htemporaries location hmem
    exact htemporary ⟨h.overwritten.keeps.entry?_eq_none hearlier hfree, hends, hdotted⟩
  refine h.overwritten.keeps.append hkeeps location ?_
  simp only [List.mem_append, not_or]
  exact ⟨hearlier, hfresh, hpublished⟩

end

/-! ## Runs -/

namespace Disk

variable {disk after : Disk}

/-- Writing that ends with an error has failed in some step. -/
theorem not_allSucceed_of_writeArtifacts {artifacts : List Artifact} {failure : Failure}
    (hsource : ∀ artifact ∈ artifacts, artifact.NamesSource)
    (hplaces : (artifacts.map (·.placeBelow output)).Nodup)
    (h : (storage.writeArtifacts output artifacts).run disk = (.error failure, after)) :
    ¬ AllSucceed after.past := by
  intro hsucceeded
  obtain ⟨events, hpast, ⟨hresult, -⟩ | ⟨-, hfailed⟩⟩ := run_writeArtifacts hsource hplaces h
  · cases hresult
  · refine (hfailed fun event hmem _ => hsucceeded event hmem).not_allSucceed fun event hmem => ?_
    exact hsucceeded event (hpast ▸ List.mem_append_left _ hmem)

/-- A run that writes the artifacts of the next entity is midway at all moments. In the end the
entity is written, or one of the steps has failed. -/
theorem throughout_nextEntity {before : List Entity} {entity : Entity}
    {earlier artifacts : List Artifact} {claimed : ClaimedPaths}
    {result : Except Failure (List Path)}
    (hwritten : HasWritten output set options initial before earlier disk.now)
    (hprepare : Storage.prepare set options (claimsOf earlier).reverse entity =
      .ok (artifacts, claimed))
    (h : (storage.writeArtifacts output artifacts).run disk = (result, after)) :
    Throughout (Midway output set options initial (before ++ [entity])) disk after ∧
      ((result = .ok (artifacts.map (·.destination output)) ∧
          HasWritten output set options initial (before ++ [entity]) (earlier ++ artifacts)
            after.now) ∨
        ∃ failure, result = .error failure ∧ ¬ AllSucceed after.past) := by
  obtain ⟨hrendered, rfl, -⟩ := EntitySet.prepare_eq_ok hprepare
  have hall : set.renderFrom options [] (before ++ [entity]) = .ok (earlier ++ artifacts) := by
    rw [EntitySet.renderFrom_append hwritten.rendered, List.append_nil, EntitySet.renderFrom_cons,
      hprepare]
    simp [EntitySet.renderFrom, Except.map]
  have hsource : ∀ artifact ∈ artifacts, artifact.NamesSource :=
    fun artifact => namesSource_of_mem_renderEntity hrendered
  have hplaces := EntitySet.nodup_places_of_renderEntity hrendered output
  obtain ⟨hunderway, hend⟩ := throughout_writeArtifacts (List.subset_append_right earlier _) hsource
    hplaces (fun event hmem => (hwritten.serves event hmem).mono (List.subset_append_left _ _)) h
  refine ⟨hunderway.mono fun moment hmoment => ?_, ?_⟩
  · exact ⟨before, some entity, earlier, artifacts, disk.now, List.prefix_rfl, hwritten, hall,
      hmoment⟩
  · cases result with
    | ok written =>
      obtain ⟨rfl, hover⟩ := overwritten_of_writeArtifacts hsource hplaces h
      exact .inl ⟨rfl, hwritten.concat hall (EntitySet.ne_nil_of_renderEntity hrendered) hover
        (hend _ rfl)⟩
    | error failure =>
      exact .inr ⟨failure, rfl, not_allSucceed_of_writeArtifacts hsource hplaces h⟩

/-- A run that has written some entities is midway until it has written the others, or fails at one
that cannot be prepared or written. -/
theorem throughout_generateFrom {before entities : List Entity} {earlier : List Artifact}
    {result : Except Failure (List Path)}
    (hwritten : HasWritten output set options initial before earlier disk.now)
    (h : (storage.generateFrom output set options (claimsOf earlier).reverse entities).run disk =
      (result, after)) :
    Throughout (Midway output set options initial (before ++ entities)) disk after ∧
      ((∃ artifacts, result = .ok (artifacts.map (·.destination output)) ∧
          HasWritten output set options initial (before ++ entities) (earlier ++ artifacts)
            after.now) ∨
        ∃ failure, result = .error failure ∧
          (set.renderFrom options [] (before ++ entities) = .error failure ∨
            ¬ AllSucceed after.past)) := by
  have hstart : Midway output set options initial (before ++ entities) disk.now :=
    hwritten.midway (List.prefix_append _ _)
  induction entities generalizing before earlier disk result with
  | nil =>
    obtain ⟨rfl, rfl⟩ := Prod.mk.inj h
    exact ⟨.refl hstart, .inl ⟨[], rfl, by simpa using hwritten⟩⟩
  | cons entity entities ih =>
    obtain ⟨failure, hprepare, rfl, rfl⟩ | ⟨artifacts, claimed, hprepare, h⟩ := generateFrom_cons h
    · refine ⟨.refl hstart, .inr ⟨failure, rfl, .inl ?_⟩⟩
      rw [EntitySet.renderFrom_append hwritten.rendered, List.append_nil,
        EntitySet.renderFrom_cons, hprepare]
      rfl
    obtain ⟨-, rfl, -⟩ := EntitySet.prepare_eq_ok hprepare
    have hstarts : before ++ [entity] <+: before ++ entity :: entities := by simp
    obtain ⟨failure, hwrite, rfl⟩ | ⟨written, middle, others, hwrite, hrest, rfl⟩ := h
    · obtain ⟨hone, ⟨hresult, -⟩ | ⟨_, -, hfailed⟩⟩ := throughout_nextEntity hwritten hprepare hwrite
      · cases hresult
      · exact ⟨hone.mono fun _ hmoment => hmoment.mono hstarts, .inr ⟨failure, rfl, .inr hfailed⟩⟩
    · obtain ⟨hone, ⟨hresult, hnext⟩ | ⟨_, hfailure, -⟩⟩ :=
        throughout_nextEntity hwritten hprepare hwrite
      · obtain rfl := Except.ok.inj hresult
        -- What the next entities find claimed are the paths of all artifacts written so far.
        rw [← reverse_claimsOf_append] at hrest
        obtain ⟨hothers, hresult⟩ := ih hnext hrest (hnext.midway (List.prefix_append _ _))
        simp only [List.append_assoc, List.singleton_append] at hothers hresult
        refine ⟨(hone.mono fun _ hmoment => hmoment.mono hstarts).trans hothers, ?_⟩
        obtain ⟨later, rfl, hlast⟩ | ⟨failure, rfl, hfailed⟩ := hresult
        · exact .inl ⟨artifacts ++ later, by simp [Except.map], hlast⟩
        · exact .inr ⟨failure, rfl, hfailed⟩
      · cases hfailure

/-- A run is midway at all of its moments. In the end it has written all entities, or it fails as
the run in memory does, or one of its steps has failed. -/
theorem midway_of_generateAll {breaksOff : Nat → Step → Option Nat}
    {result : Except Failure (List Path)}
    (h : (storage.generateAll output set options).run (unreliable breaksOff initial) =
      (result, after)) :
    (∀ moment ∈ after.moments, Midway output set options initial set.entities moment) ∧
      ((∃ artifacts, result = .ok (artifacts.map (·.destination output)) ∧
          HasWritten output set options initial set.entities artifacts after.now) ∨
        ∃ failure, result = .error failure ∧
          (set.renderAll options = .error failure ∨ ¬ AllSucceed after.past)) := by
  have hnothing : HasWritten output set options initial [] [] (unreliable breaksOff initial).now :=
    .nil output set options initial
  obtain ⟨hmoments, hresult⟩ := throughout_generateFrom hnothing h
  refine ⟨hmoments.forall_moments rfl (hnothing.midway (List.nil_prefix)), ?_⟩
  simpa [EntitySet.renderAll] using hresult

/-- A run on which no step fails writes what a run in memory renders. -/
theorem generateAll_of_allSucceed {breaksOff : Nat → Step → Option Nat}
    {result : Except Failure (List Path)} {artifacts : List Artifact}
    (hrender : set.renderAll options = .ok artifacts)
    (h : (storage.generateAll output set options).run (unreliable breaksOff initial) =
      (result, after))
    (hsucceeded : AllSucceed after.past) :
    result = .ok (artifacts.map (·.destination output)) ∧
      Overwritten output initial after.tree artifacts := by
  obtain ⟨-, ⟨written, rfl, hwritten⟩ | ⟨failure, -, hfailed | hfailed⟩⟩ := midway_of_generateAll h
  · obtain rfl := Except.ok.inj (hrender.symm.trans hwritten.rendered)
    exact ⟨rfl, hwritten.overwritten⟩
  · cases hrender.symm.trans hfailed
  · exact absurd hsucceeded hfailed

end Disk

end PersistenceLayer
