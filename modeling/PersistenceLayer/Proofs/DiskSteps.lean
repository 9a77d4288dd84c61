import PersistenceLayer.Proofs.TreeChanges
import PersistenceLayer.Run.Storage

/-!
# What steps do to a disk

Every operation of a disk is one step: it leaves one more event in the record
and changes the tree as the operation of the tree does, or breaks off. Each
lemma of this file reads off one operation what the event and the trees before
and after it are; runs of many steps are put together from them.
-/

namespace PersistenceLayer.Disk

/-- One action after another runs on the disk that the first one leaves. -/
theorem run_bind {α β : Type} (action : StateM Disk α) (next : α → StateM Disk β) (disk : Disk) :
    (action >>= next).run disk = (next (action.run disk).1).run (action.run disk).2 := rfl

/-- An error keeps being one when it is put in other words. -/
theorem isOk_mapError {ε ε' α : Type} (words : ε → ε') (result : Except ε α) :
    (result.mapError words).isOk = result.isOk := by
  cases result <;> rfl

/-- A step is recorded, and either it is broken off and fails or its change is made. -/
theorem run_take {α : Type} (step : Step) (change : FileTree → FileTree × Except Obstruction α)
    {disk after : Disk} {result : Except String α}
    (h : (take step change).run disk = (result, after)) :
    after.past = ⟨step, disk.tree, result.isOk⟩ :: disk.past ∧
      ((∃ parts reason, result = .error reason ∧ after.tree = step.partly parts disk.tree) ∨
        ∃ outcome, change disk.tree = (after.tree, outcome) ∧
          result = outcome.mapError Obstruction.message) := by
  have hrun : (result, after) = take step change disk := h.symm
  unfold take at hrun
  cases hbreak : disk.breaksOff disk.past.length step with
  | some parts =>
    simp only [hbreak, Prod.mk.injEq] at hrun
    obtain ⟨rfl, rfl⟩ := hrun
    exact ⟨rfl, .inl ⟨parts, _, rfl, rfl⟩⟩
  | none =>
    simp only [hbreak, Prod.mk.injEq] at hrun
    obtain ⟨rfl, rfl⟩ := hrun
    refine ⟨?_, .inr ⟨_, rfl, rfl⟩⟩
    rw [isOk_mapError]

/-- A step that succeeds makes its change. -/
theorem change_of_run_take {α : Type} (step : Step)
    (change : FileTree → FileTree × Except Obstruction α) {disk after : Disk} {value : α}
    (h : (take step change).run disk = (.ok value, after)) :
    change disk.tree = (after.tree, .ok value) := by
  obtain ⟨-, ⟨_, _, hresult, -⟩ | ⟨outcome, hchange, hresult⟩⟩ := run_take step change h
  · cases hresult
  · cases outcome with
    | error obstruction => cases hresult
    | ok made =>
      obtain rfl : value = made := Except.ok.inj hresult
      exact hchange

variable {disk after : Disk} {path : Path} {location : Location}

/-- A disk makes directories as its tree does. -/
theorem makeDirectories_of_run (h : (storage.makeDirectories path).run disk = (.ok (), after)) :
    disk.tree.makeDirectories path = (after.tree, .ok ()) :=
  change_of_run_take (.makeDirectories path) (fun tree => tree.makeDirectories path) h

/-- A disk creates a temporary file as its tree does. -/
theorem createTemporary_of_run
    (h : (storage.createTemporary path).run disk = (.ok location, after)) :
    disk.tree.createTemporary path = .ok (after.tree, location) := by
  have hchange := change_of_run_take _ _ h
  unfold newTemporary at hchange
  split at hchange
  · next changed temporary hcreate =>
    obtain ⟨rfl, hresult⟩ := Prod.mk.inj hchange
    obtain rfl := Except.ok.inj hresult
    exact hcreate
  · cases (Prod.mk.inj hchange).2

/-- A disk moves a temporary file as its tree does. -/
theorem rename_of_run (h : (storage.publish location path).run disk = (.ok (), after)) :
    disk.tree.rename location path = .ok after.tree := by
  have hchange := change_of_run_take _ _ h
  unfold attempt at hchange
  split at hchange
  · next changed hrename =>
    obtain ⟨rfl, -⟩ := Prod.mk.inj hchange
    exact hrename
  · cases (Prod.mk.inj hchange).2

/-- Making directories puts directories where nothing stood, and may do so even if it fails. -/
theorem run_makeDirectories {result : Except String Unit}
    (h : (storage.makeDirectories path).run disk = (result, after)) :
    after.past = ⟨.makeDirectories path, disk.tree, result.isOk⟩ :: disk.past ∧
      FileTree.KeepsOutside [] path.LeadsAlong disk.tree after.tree := by
  obtain ⟨hpast, ⟨parts, reason, -, htree⟩ | ⟨outcome, hchange, -⟩⟩ :=
    run_take (.makeDirectories path) (fun tree => tree.makeDirectories path) h
  · refine ⟨hpast, ?_⟩
    rw [htree]
    exact FileTree.keepsOutside_makeDirectoriesFrom_of_prefix (List.take_prefix _ _) disk.tree
  · refine ⟨hpast, ?_⟩
    have hmade := FileTree.keepsOutside_makeDirectories disk.tree path
    rwa [hchange] at hmade

/-- A temporary file is created where nothing stood, or nothing changes. -/
theorem run_createTemporary {result : Except String Location}
    (h : (storage.createTemporary path).run disk = (result, after)) :
    after.past = ⟨.createTemporary path, disk.tree, result.isOk⟩ :: disk.past ∧
      match result with
      | .ok temporary => disk.tree.entry? temporary = none ∧ temporary.EndsIn '0' ∧
          after.tree = disk.tree.put temporary (.file "")
      | .error _ => after.tree = disk.tree := by
  obtain ⟨hpast, ⟨parts, reason, rfl, htree⟩ | ⟨outcome, hchange, rfl⟩⟩ := run_take _ _ h
  · exact ⟨hpast, htree⟩
  · refine ⟨hpast, ?_⟩
    unfold newTemporary at hchange
    split at hchange
    · next changed temporary hcreate =>
      obtain ⟨rfl, rfl⟩ := Prod.mk.inj hchange
      exact FileTree.createTemporary_eq_ok hcreate
    · obtain ⟨htree, rfl⟩ := Prod.mk.inj hchange
      exact htree.symm

/-- Filling a temporary file puts something in its place: the contents, unless it fails. -/
theorem run_fillTemporary {contents : String} {result : Except String Unit}
    (h : (storage.fillTemporary location contents).run disk = (result, after)) :
    after.past = ⟨.fillTemporary location contents, disk.tree, result.isOk⟩ :: disk.past ∧
      ∃ written, after.tree = disk.tree.put location (.file written) ∧
        (result = .ok () → written = contents) := by
  obtain ⟨hpast, ⟨parts, reason, rfl, htree⟩ | ⟨outcome, hchange, -⟩⟩ :=
    run_take (.fillTemporary location contents)
      (fun tree => (tree.put location (.file contents), .ok ())) h
  · exact ⟨hpast, _, htree, by simp⟩
  · exact ⟨hpast, contents, (congrArg Prod.fst hchange).symm, fun _ => rfl⟩

/-- Publishing moves a temporary file to where the path leads, or nothing changes. -/
theorem run_publish {result : Except String Unit}
    (h : (storage.publish location path).run disk = (result, after)) :
    after.past = ⟨.publish location path, disk.tree, result.isOk⟩ :: disk.past ∧
      match result with
      | .ok () => ∃ entry, disk.tree.entry? location = some entry ∧
          after.tree = (disk.tree.erase location).put path.place entry
      | .error _ => after.tree = disk.tree := by
  obtain ⟨hpast, ⟨parts, reason, rfl, htree⟩ | ⟨outcome, hchange, rfl⟩⟩ := run_take _ _ h
  · exact ⟨hpast, htree⟩
  · refine ⟨hpast, ?_⟩
    unfold attempt at hchange
    split at hchange
    · next changed hrename =>
      obtain ⟨rfl, rfl⟩ := Prod.mk.inj hchange
      exact FileTree.rename_eq_ok hrename
    · obtain ⟨htree, rfl⟩ := Prod.mk.inj hchange
      exact htree.symm

/-- An action whose result is ignored leaves the disk that it leaves on its own. -/
theorem exists_run_of_ignored {α : Type} (action : StateM Disk α)
    (h : (do let _ ← action : StateM Disk Unit).run disk = ((), after)) :
    ∃ result, action.run disk = (result, after) := by
  have hafter : (action.run disk).2 = after := congrArg Prod.snd h
  exact ⟨(action.run disk).1, Prod.ext rfl hafter⟩

/-- Whether all steps of a record succeeded. -/
def AllSucceed (events : List Event) : Prop :=
  ∀ event ∈ events, event.succeeded = true

theorem AllSucceed.append {events others : List Event} (h : AllSucceed events)
    (hothers : AllSucceed others) : AllSucceed (events ++ others) := by
  intro event hmem
  exact (List.mem_append.mp hmem).elim (h event) (hothers event)

/-- Whether some step of a record failed, and every one that failed is of some kind. -/
def FailsOnlyAt (events : List Event) (isAt : Step → Prop) : Prop :=
  (∃ event ∈ events, event.succeeded = false) ∧
    ∀ event ∈ events, event.succeeded = false → isAt event.step

/-- Earlier steps that succeeded do not change which ones failed. -/
theorem FailsOnlyAt.append {isAt : Step → Prop} {events earlier : List Event}
    (h : FailsOnlyAt events isAt) (hearlier : AllSucceed earlier) :
    FailsOnlyAt (events ++ earlier) isAt := by
  obtain ⟨⟨event, hmem, hfailed⟩, hall⟩ := h
  refine ⟨⟨event, List.mem_append_left _ hmem, hfailed⟩, ?_⟩
  intro event hmem hfailed
  rcases List.mem_append.mp hmem with hmem | hmem
  · exact hall event hmem hfailed
  · rw [hearlier event hmem] at hfailed
    cases hfailed

/-- Later steps that succeeded do not change which ones failed. -/
theorem FailsOnlyAt.append_left {isAt : Step → Prop} {events later : List Event}
    (h : FailsOnlyAt events isAt) (hlater : AllSucceed later) :
    FailsOnlyAt (later ++ events) isAt := by
  obtain ⟨⟨event, hmem, hfailed⟩, hall⟩ := h
  refine ⟨⟨event, List.mem_append_right _ hmem, hfailed⟩, ?_⟩
  intro event hmem hfailed
  rcases List.mem_append.mp hmem with hmem | hmem
  · rw [hlater event hmem] at hfailed
    cases hfailed
  · exact hall event hmem hfailed

/-- Whether every step that takes something back has succeeded. -/
def UndoesAll (disk : Disk) : Prop :=
  ∀ event ∈ disk.past, event.step.isUndoing = true → event.succeeded = true

/-- What holds of a record holds of its beginning. -/
theorem UndoesAll.of_append {events : List Event} (h : after.UndoesAll)
    (hpast : after.past = events ++ disk.past) : disk.UndoesAll := by
  intro event hmem
  exact h event (hpast ▸ List.mem_append_right _ hmem)

/-- Where everything is undone, the latest step has succeeded if it took something back. -/
theorem UndoesAll.eq_true {step : Step} {tree : FileTree} {succeeded : Bool} {past : List Event}
    (h : after.UndoesAll) (hpast : after.past = ⟨step, tree, succeeded⟩ :: past)
    (hundoing : step.isUndoing = true) : succeeded = true :=
  h _ (hpast ▸ List.mem_cons_self) hundoing

/-- Whether an action that takes things back erases some places and does nothing else, provided that
each of its steps succeeds. -/
def Erases (action : StateM Disk Unit) (places : List Location) : Prop :=
  ∀ ⦃disk after : Disk⦄ ⦃value : Unit⦄, action.run disk = (value, after) →
    ∃ events, after.past = events ++ disk.past ∧
      (after.UndoesAll → AllSucceed events ∧ after.tree = disk.tree.eraseAll places)

theorem erases_pure : Erases (pure ()) [] := by
  intro disk after _ h
  obtain ⟨-, rfl⟩ := Prod.mk.inj h
  exact ⟨[], rfl, fun _ => ⟨by simp [AllSucceed], rfl⟩⟩

/-- What two actions erase one after the other adds up. -/
theorem Erases.bind {first second : StateM Disk Unit} {places others : List Location}
    (hfirst : Erases first places) (hsecond : Erases second others) :
    Erases (first >>= fun _ => second) (places ++ others) := by
  intro disk after _ h
  rw [run_bind] at h
  rcases hrun : first.run disk with ⟨_, middle⟩
  rw [hrun] at h
  obtain ⟨earlier, hearlier, herased⟩ := hfirst hrun
  obtain ⟨later, hlater, herased'⟩ := hsecond h
  refine ⟨later ++ earlier, by rw [hlater, hearlier, List.append_assoc], fun hundo => ?_⟩
  obtain ⟨hevents, htree⟩ := herased (hundo.of_append hlater)
  obtain ⟨hevents', htree'⟩ := herased' hundo
  refine ⟨hevents'.append hevents, ?_⟩
  rw [htree', htree, FileTree.eraseAll_append]

/-- A temporary file that is discarded is gone. -/
theorem erases_discard (location : Location) : Erases (storage.discard location) [location] := by
  intro disk after _ h
  obtain ⟨result, htake⟩ := exists_run_of_ignored _ h
  obtain ⟨hpast, hchange⟩ := run_take _ _ htake
  refine ⟨[_], hpast, fun hundo => ?_⟩
  have hok := hundo.eq_true hpast rfl
  refine ⟨by simp [AllSucceed, hok], ?_⟩
  rcases hchange with ⟨parts, reason, rfl, -⟩ | ⟨outcome, hchange, -⟩
  · cases hok
  · exact (congrArg Prod.fst hchange).symm

/-- A published file that is withdrawn is gone. -/
theorem erases_withdraw (path : Path) : Erases (storage.withdraw path) [path.place] := by
  intro disk after _ h
  obtain ⟨result, htake⟩ := exists_run_of_ignored _ h
  obtain ⟨hpast, hchange⟩ := run_take _ _ htake
  refine ⟨[_], hpast, fun hundo => ?_⟩
  have hok := hundo.eq_true hpast rfl
  refine ⟨by simp [AllSucceed, hok], ?_⟩
  rcases hchange with ⟨parts, reason, rfl, -⟩ | ⟨outcome, hchange, rfl⟩
  · cases hok
  · unfold attempt at hchange
    split at hchange
    · next changed hremove =>
      obtain ⟨rfl, -⟩ := Prod.mk.inj hchange
      exact FileTree.remove_eq_ok hremove
    · obtain ⟨-, rfl⟩ := Prod.mk.inj hchange
      cases hok

end PersistenceLayer.Disk
