import PersistenceLayer.Proofs.Publishing

/-!
# Moments of a run

A run can be cut off after any of its steps. The record of a disk shows every
moment at which this could happen: the steps up to then and the tree that they
have led to. While the artifacts of an entity are written, each moment falls into
one of three phases, and `Underway` holds in all of them: nothing is published
while artifacts are staged, those published so far stand whole at their
destinations, and once one cannot be published those before it may be gone.
-/

namespace PersistenceLayer

/-- A moment of a run: the steps so far, the latest first, and the tree that they have led to. -/
structure Moment where
  past : List Event
  tree : FileTree

namespace Disk

/-- The moment at which a disk is. -/
def now (disk : Disk) : Moment := ⟨disk.past, disk.tree⟩

/-- The moments before each of some steps, the latest first. -/
def momentsBefore : List Event → List Moment
  | [] => []
  | event :: past => ⟨past, event.before⟩ :: momentsBefore past

/-- The moments that a disk has come through, the latest first. -/
def moments (disk : Disk) : List Moment := disk.now :: momentsBefore disk.past

/-- Whether something holds of the moment at which a disk is, and held of all of its moments that an
earlier disk had not come through. -/
structure Throughout (holds : Moment → Prop) (disk after : Disk) : Prop where
  now : holds after.now
  each : ∀ moment ∈ after.moments, moment ∈ disk.moments ∨ holds moment

namespace Throughout

variable {holds others : Moment → Prop} {disk middle after : Disk}

/-- What holds now has held throughout a run without steps. -/
theorem refl (h : holds disk.now) : Throughout holds disk disk where
  now := h
  each := fun _ => .inl

/-- A single step leads from one moment to the next. -/
theorem step {event : Event} (hbefore : event.before = disk.tree)
    (hpast : after.past = event :: disk.past) (h : holds ⟨event :: disk.past, after.tree⟩) :
    Throughout holds disk after := by
  have hnow : holds after.now := by rwa [Disk.now, hpast]
  refine ⟨hnow, fun moment hmem => ?_⟩
  rcases List.mem_cons.mp hmem with rfl | hmem
  · exact .inr hnow
  · rw [hpast, momentsBefore, hbefore] at hmem
    exact .inl hmem

/-- What holds throughout two runs holds throughout the one after the other. -/
theorem trans (h : Throughout holds disk middle) (h' : Throughout holds middle after) :
    Throughout holds disk after where
  now := h'.now
  each := fun moment hmem => (h'.each moment hmem).elim (h.each moment) .inr

/-- What follows from something that holds throughout a run holds throughout it. -/
theorem mono (h : Throughout holds disk after) (himp : ∀ moment, holds moment → others moment) :
    Throughout others disk after where
  now := himp _ h.now
  each := fun moment hmem => (h.each moment hmem).imp_right (himp moment)

/-- If something held already where the earlier disk was, it has held of all moments. -/
theorem forall_moments (h : Throughout holds disk after) (hpast : disk.past = [])
    (hnow : holds disk.now) : ∀ moment ∈ after.moments, holds moment := by
  intro moment hmem
  refine (h.each moment hmem).elim (fun hearlier => ?_) id
  rw [moments, hpast, momentsBefore, List.mem_singleton] at hearlier
  exact hearlier ▸ hnow

end Throughout

/-- The moment before a step is one that the disk has come through. -/
theorem mem_momentsBefore {past earlier : List Event} {event : Event} {later : List Event}
    (h : past = later ++ event :: earlier) : ⟨earlier, event.before⟩ ∈ momentsBefore past := by
  subst h
  induction later with
  | nil => exact List.mem_cons_self
  | cons other later ih => exact List.mem_cons_of_mem _ ih

end Disk

/-! ## Steps that write artifacts -/

/-- Whether a step belongs to writing one of some artifacts: it makes or uses the directory of one,
moves a file to its destination or takes one away from there, or touches a temporary file only. -/
def Step.Serves (output : Path) (artifacts : List Artifact) : Step → Prop
  | .makeDirectories path | .createTemporary path =>
    ∃ artifact ∈ artifacts, (artifact.destination output).parent? = some path
  | .publish _ path | .withdraw path => ∃ artifact ∈ artifacts, path = artifact.destination output
  | .fillTemporary _ _ | .discard _ => True

/-- What serves some artifacts serves more of them. -/
theorem Step.Serves.mono {output : Path} {artifacts others : List Artifact} {step : Step}
    (h : step.Serves output artifacts) (hsubset : artifacts ⊆ others) :
    step.Serves output others := by
  cases step with
  | makeDirectories | createTemporary | publish | withdraw =>
    obtain ⟨artifact, hmem, hpath⟩ := h
    exact ⟨artifact, hsubset hmem, hpath⟩
  | fillTemporary | discard => trivial

/-- Whether a place has a dot in its last name, as source files and temporary files have. -/
def Location.IsDotted (location : Location) : Prop :=
  ∃ name, location.names.getLast? = some name ∧ '.' ∈ name.toList

/-- Whether nothing stands at a place in a tree and its name is that of a temporary file. -/
structure IsTemporaryIn (tree : FileTree) (location : Location) : Prop where
  free : tree.entry? location = none
  endsIn : location.EndsIn '0'
  dotted : location.IsDotted

namespace FileTree

/-- A new temporary file has a name with a dot in it. -/
theorem isTemporaryIn_of_createTemporary {tree changed : FileTree} {path : Path}
    {location : Location} (h : tree.createTemporary path = .ok (changed, location)) :
    IsTemporaryIn tree location := by
  obtain ⟨hfree, hends, -⟩ := createTemporary_eq_ok h
  refine ⟨hfree, hends, ?_⟩
  simp only [createTemporary, bind, Except.bind] at h
  split at h
  · cases h
  · cases h
    exact ⟨tree.freshName, by simp [Location.child], by simp [freshName]⟩

end FileTree

namespace Disk

variable {disk after : Disk} {path : Path} {location : Location}

/-- Discarding a temporary file erases it or changes nothing. -/
theorem run_discard (h : (storage.discard location).run disk = ((), after)) :
    ∃ succeeded, after.past = ⟨.discard location, disk.tree, succeeded⟩ :: disk.past ∧
      (after.tree = disk.tree ∨ after.tree = disk.tree.erase location) := by
  obtain ⟨result, htake⟩ := exists_run_of_ignored _ h
  obtain ⟨hpast, ⟨parts, _, -, htree⟩ | ⟨outcome, hchange, -⟩⟩ := run_take _ _ htake
  · exact ⟨_, hpast, .inl htree⟩
  · exact ⟨_, hpast, .inr (congrArg Prod.fst hchange).symm⟩

/-- Withdrawing a published file erases what stands at its place or changes nothing. -/
theorem run_withdraw (h : (storage.withdraw path).run disk = ((), after)) :
    ∃ succeeded, after.past = ⟨.withdraw path, disk.tree, succeeded⟩ :: disk.past ∧
      (after.tree = disk.tree ∨ after.tree = disk.tree.erase path.place) := by
  obtain ⟨result, htake⟩ := exists_run_of_ignored _ h
  obtain ⟨hpast, ⟨parts, _, -, htree⟩ | ⟨outcome, hchange, -⟩⟩ := run_take _ _ htake
  · exact ⟨_, hpast, .inl htree⟩
  · refine ⟨_, hpast, ?_⟩
    unfold attempt at hchange
    split at hchange
    · next changed hremove =>
      obtain ⟨rfl, -⟩ := Prod.mk.inj hchange
      exact .inr (FileTree.remove_eq_ok hremove)
    · exact .inl (congrArg Prod.fst hchange).symm

end Disk

/-! ## While an entity is written -/

/-- Whether publishing one of some artifacts has failed in a record, so that they are taken back. -/
def RollsBack (output : Path) (artifacts : List Artifact) (past : List Event) : Prop :=
  ∃ event ∈ past, event.succeeded = false ∧ ∃ artifact ∈ artifacts, ∃ temporary,
    event.step = .publish temporary (artifact.destination output)

/-- That publishing has failed stays true while a run goes on. -/
theorem RollsBack.mono {output : Path} {artifacts : List Artifact} {past later : List Event}
    (h : RollsBack output artifacts past) (hpast : past ⊆ later) :
    RollsBack output artifacts later := by
  obtain ⟨event, hevent, hfailed⟩ := h
  exact ⟨event, hpast hevent, hfailed⟩

/-- Whether there was a moment in a record at which all of some artifacts were staged and nothing
else was changed since a start, but directories on the way to their destinations. -/
def WasStaged (output : Path) (start : FileTree) (artifacts : List Artifact) (past : List Event) :
    Prop :=
  ∃ event ∈ past, ∃ files : List StagedArtifact, files.map StagedArtifact.artifact = artifacts ∧
    Prepared output start event.before files

/-- That everything was once staged stays true while a run goes on. -/
theorem WasStaged.mono {output : Path} {start : FileTree} {artifacts : List Artifact}
    {past later : List Event} (h : WasStaged output start artifacts past) (hpast : past ⊆ later) :
    WasStaged output start artifacts later := by
  obtain ⟨event, hevent, hfiles⟩ := h
  exact ⟨event, hpast hevent, hfiles⟩

/-- A moment while the artifacts of an entity are written, of which some have been published. -/
structure Underway (output : Path) (planned artifacts : List Artifact) (start : Moment)
    (published : List Artifact) (moment : Moment) : Prop where
  subset : published ⊆ artifacts
  since : start.past ⊆ moment.past
  serves : ∀ event ∈ moment.past, event.step.Serves output planned
  /-- Nothing has changed but temporary files, places of published artifacts and directories. -/
  keeps : ∃ temporaries, (∀ location ∈ temporaries, IsTemporaryIn start.tree location) ∧
    FileTree.KeepsOutside (temporaries ++ published.map (·.placeBelow output))
      (OnTheWay output artifacts) start.tree moment.tree
  /-- What has been published stands whole, unless it may have been taken back. -/
  standing : ∀ artifact ∈ published,
    moment.tree.entry? (artifact.placeBelow output) = some (.file artifact.contents) ∨
      moment.tree.entry? (artifact.placeBelow output) = none ∧
        RollsBack output artifacts moment.past
  staged : published ≠ [] → WasStaged output start.tree artifacts moment.past

namespace Underway

variable {output : Path} {planned artifacts published : List Artifact} {start moment : Moment}
  {event : Event} {tree : FileTree}

/-- Before the first step nothing is published. -/
theorem refl (hserves : ∀ event ∈ start.past, event.step.Serves output planned)
    (artifacts : List Artifact) : Underway output planned artifacts start [] start where
  subset := List.nil_subset _
  since := List.Subset.refl _
  serves := hserves
  keeps := ⟨[], by simp, .refl _ _ _⟩
  standing := by simp
  staged := fun h => absurd rfl h

/-- A step that stages something makes directories on the way and changes temporary files. -/
theorem stage (h : Underway output planned artifacts start [] moment)
    (hserves : event.step.Serves output planned) {temporaries : List Location}
    (htemporaries : ∀ location ∈ temporaries, IsTemporaryIn start.tree location)
    (hkeeps : FileTree.KeepsOutside temporaries (OnTheWay output artifacts) moment.tree tree) :
    Underway output planned artifacts start [] ⟨event :: moment.past, tree⟩ where
  subset := List.nil_subset _
  since := List.Subset.trans h.since (List.subset_cons_self _ _)
  serves := List.forall_mem_cons.mpr ⟨hserves, h.serves⟩
  keeps := by
    obtain ⟨others, hothers, hbefore⟩ := h.keeps
    rw [List.map_nil, List.append_nil] at hbefore
    refine ⟨others ++ temporaries, List.forall_mem_append.mpr ⟨hothers, htemporaries⟩, ?_⟩
    rw [List.map_nil, List.append_nil]
    exact (hbefore.mono (List.subset_append_left _ _) fun _ => id).trans
      (hkeeps.mono (List.subset_append_right _ _) fun _ => id)
  standing := by simp
  staged := fun h => absurd rfl h

/-- A place that is free, but for temporary files, was free at the start. -/
theorem isTemporaryIn (h : Underway output planned artifacts start [] moment) {location : Location}
    (hlocation : IsTemporaryIn moment.tree location) : IsTemporaryIn start.tree location := by
  obtain ⟨temporaries, htemporaries, hkeeps⟩ := h.keeps
  by_cases hmem : location ∈ temporaries
  · exact htemporaries location hmem
  · exact ⟨hkeeps.entry?_eq_none (by simpa using hmem) hlocation.free, hlocation.endsIn,
      hlocation.dotted⟩

/-- What is published stays so when the record grows and other places change. -/
theorem standing_cons (h : Underway output planned artifacts start published moment)
    {artifact : Artifact} (hmem : artifact ∈ published)
    (hsame : tree.entry? (artifact.placeBelow output) =
      moment.tree.entry? (artifact.placeBelow output)) :
    tree.entry? (artifact.placeBelow output) = some (.file artifact.contents) ∨
      tree.entry? (artifact.placeBelow output) = none ∧
        RollsBack output artifacts (event :: moment.past) := by
  rw [hsame]
  exact (h.standing artifact hmem).imp_right
    (And.imp_right fun hrolls => hrolls.mono (List.subset_cons_self _ _))

/-- Once a file is published, everything has been staged, and a step more does not change this. -/
theorem staged_cons (h : Underway output planned artifacts start published moment)
    (hne : published ≠ []) : WasStaged output start.tree artifacts (event :: moment.past) :=
  (h.staged hne).mono (List.subset_cons_self _ _)

/-- A step that changes nothing leaves the entity as it is. -/
theorem unchanged (h : Underway output planned artifacts start published moment)
    (hserves : event.step.Serves output planned) :
    Underway output planned artifacts start published ⟨event :: moment.past, moment.tree⟩ where
  subset := h.subset
  since := List.Subset.trans h.since (List.subset_cons_self _ _)
  serves := List.forall_mem_cons.mpr ⟨hserves, h.serves⟩
  keeps := h.keeps
  standing := fun _ hmem => h.standing_cons hmem rfl
  staged := h.staged_cons

/-- Discarding a temporary file touches nothing that is published. -/
theorem discard (h : Underway output planned artifacts start published moment)
    (hsource : ∀ artifact ∈ published, artifact.NamesSource)
    (hserves : event.step.Serves output planned) {location : Location}
    (hlocation : IsTemporaryIn start.tree location)
    (htree : tree = moment.tree ∨ tree = moment.tree.erase location) :
    Underway output planned artifacts start published ⟨event :: moment.past, tree⟩ := by
  rcases htree with rfl | rfl
  · exact h.unchanged hserves
  refine ⟨h.subset, List.Subset.trans h.since (List.subset_cons_self _ _),
    List.forall_mem_cons.mpr ⟨hserves, h.serves⟩, ?_, fun artifact hmem => ?_, h.staged_cons⟩
  · obtain ⟨temporaries, htemporaries, hkeeps⟩ := h.keeps
    refine ⟨location :: temporaries, List.forall_mem_cons.mpr ⟨hlocation, htemporaries⟩, ?_⟩
    exact (hkeeps.mono (List.subset_cons_self _ _) fun _ => id).trans (.erase List.mem_cons_self)
  · obtain ⟨c, hne, hends⟩ := (hsource artifact hmem).placeBelow_endsIn output
    exact h.standing_cons hmem (FileTree.entry?_erase_of_ne (hends.ne hlocation.endsIn hne))

/-- Withdrawing a published artifact takes it away or leaves it. -/
theorem withdraw (h : Underway output planned artifacts start published moment)
    (hsource : ∀ artifact ∈ published, artifact.NamesSource)
    (hserves : event.step.Serves output planned) {artifact : Artifact} (hmem : artifact ∈ published)
    (hrolls : RollsBack output artifacts moment.past)
    (htree : tree = moment.tree ∨ tree = moment.tree.erase (artifact.placeBelow output)) :
    Underway output planned artifacts start published ⟨event :: moment.past, tree⟩ := by
  rcases htree with rfl | rfl
  · exact h.unchanged hserves
  refine ⟨h.subset, List.Subset.trans h.since (List.subset_cons_self _ _),
    List.forall_mem_cons.mpr ⟨hserves, h.serves⟩, ?_, fun other hother => ?_, h.staged_cons⟩
  · obtain ⟨temporaries, htemporaries, hkeeps⟩ := h.keeps
    exact ⟨temporaries, htemporaries,
      hkeeps.trans (.erase (List.mem_append_right _ (List.mem_map_of_mem hmem)))⟩
  · by_cases hplace : other.placeBelow output = artifact.placeBelow output
    · obtain ⟨c, -, hends⟩ := (hsource other hother).placeBelow_endsIn output
      exact .inr ⟨hplace ▸ FileTree.entry?_erase_self hends.names_ne_nil,
        hrolls.mono (List.subset_cons_self _ _)⟩
    · exact h.standing_cons hother (FileTree.entry?_erase_of_ne hplace)

/-- Once one more artifact is published, all of those published so far stand whole. -/
theorem publish (h : Underway output planned artifacts start published moment)
    (hserves : event.step.Serves output planned) {artifact : Artifact}
    (hartifact : artifact ∈ artifacts) {files : List StagedArtifact}
    (htemporaries : ∀ file ∈ files, IsTemporaryIn start.tree file.temporary)
    (hfiles : Publishing output (OnTheWay output artifacts) start.tree tree
      (published ++ [artifact]) files)
    (hstaged : WasStaged output start.tree artifacts (event :: moment.past)) :
    Underway output planned artifacts start (published ++ [artifact])
      ⟨event :: moment.past, tree⟩ where
  subset := List.append_subset.mpr ⟨h.subset, List.cons_subset.mpr ⟨hartifact, List.nil_subset _⟩⟩
  since := List.Subset.trans h.since (List.subset_cons_self _ _)
  serves := List.forall_mem_cons.mpr ⟨hserves, h.serves⟩
  keeps := ⟨files.map StagedArtifact.temporary, List.forall_mem_map.mpr htemporaries, hfiles.keeps⟩
  standing := fun artifact hmem => .inl (hfiles.written artifact hmem)
  staged := fun _ => hstaged

end Underway

/-- Whether the artifacts of an entity are underway, however many of them are published. -/
def IsUnderway (output : Path) (planned artifacts : List Artifact) (start moment : Moment) : Prop :=
  ∃ published, Underway output planned artifacts start published moment

end PersistenceLayer
