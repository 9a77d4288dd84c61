import PersistenceLayer.Proofs.Runs

/-!
# Writing what is rendered

Where no step of a run fails, a run that writes does what a run in memory
describes: it ends with the same failure or returns the paths of the same
artifacts, and it publishes all of them, or those of the entities before the one
that both runs fail at.
-/

namespace PersistenceLayer.Disk

variable {output : Path} {set : EntitySet} {options : Options} {disk after : Disk}

/-- A run on which no step fails refines the run in memory. If that one renders all entities, their
artifacts are published and their paths returned. If it fails, so does this one, and the artifacts
of the entities before the first one that cannot be prepared are published, and no others. -/
theorem generateAll_refines_renderAll {breaksOff : Nat → Step → Option Nat} {tree : FileTree}
    {result : Except Failure (List Path)} (hnormal : NormalPaths options set.entities)
    (h : (storage.generateAll output set options).run (unreliable breaksOff tree) = (result, after))
    (hsucceeded : AllSucceed after.past) :
    (∀ artifacts, set.renderAll options = .ok artifacts →
      result = .ok (artifacts.map fun artifact => output.join artifact.path) ∧
        Published output tree after.tree artifacts) ∧
    ∀ failure, set.renderAll options = .error failure →
      result = .error failure ∧
        ∃ earlier entity later published, set.entities = earlier ++ entity :: later ∧
          set.renderFrom options [] earlier = .ok published ∧
          set.renderFrom options [] (earlier ++ [entity]) = .error failure ∧
          Published output tree after.tree published := by
  obtain ⟨earlier, rest, published, middle, failure, hsplit, ⟨hrendered, -, -, hpublished⟩, hends,
    rfl⟩ := run_generateFrom hnormal h
  have hrender : ∀ others, set.renderFrom options [] (earlier ++ others) =
      (set.renderFrom options ((claimsOf published).reverse ++ []) others).map (published ++ ·) :=
    EntitySet.renderFrom_append hrendered
  unfold EntitySet.renderAll
  rw [hsplit, hrender]
  cases hends with
  | finished =>
    constructor
    · rintro artifacts hartifacts
      obtain rfl : published = artifacts := by
        simpa [EntitySet.renderFrom, Except.map] using hartifacts
      exact ⟨rfl, hpublished⟩
    · rintro failure hfailure
      cases hfailure
  | @refused entity later cause hprepare =>
    have hrefused : ∀ others, set.renderFrom options ((claimsOf published).reverse ++ [])
        (entity :: others) = .error cause := by
      intro others
      rw [EntitySet.renderFrom_cons, hprepare]
    rw [hrefused]
    constructor
    · rintro artifacts hartifacts
      cases hartifacts
    · rintro failure hfailure
      obtain rfl : cause = failure := by simpa [Except.map] using hfailure
      exact ⟨rfl, earlier, entity, later, published, rfl, hrendered, by rw [hrender, hrefused]; rfl,
        hpublished⟩
  | broken hprepare hpast hwriting =>
    have hundo : after.UndoesAll := fun event hmem _ => hsucceeded event hmem
    refine absurd ?_ (hwriting hundo).not_allSucceed
    exact fun event hmem => hsucceeded event (hpast ▸ List.mem_append_left _ hmem)

/-- The run that generates the client-facing data of a user and a group where nothing stands. -/
def plainRun : Except Failure (List Path) × Disk :=
  (storage.generateAll ⟨"out"⟩ userAndGroup { onlyData := true }).run (ofTree .empty)

/-- The run publishes what it renders. -/
theorem generateAll_refines_renderAll_plainRun :
    ∃ artifacts, userAndGroup.renderAll { onlyData := true } = .ok artifacts ∧
      plainRun.1 = .ok (artifacts.map fun artifact => Path.join ⟨"out"⟩ artifact.path) ∧
        Published ⟨"out"⟩ .empty plainRun.2.tree artifacts := by
  have hnormal : NormalPaths { onlyData := true } userAndGroup.entities := by
    unfold NormalPaths
    decide +kernel
  have hsucceeded : AllSucceed plainRun.2.past := by
    unfold AllSucceed
    decide +kernel
  obtain ⟨hok, -⟩ := generateAll_refines_renderAll hnormal (Prod.eta plainRun).symm hsucceeded
  cases hrender : userAndGroup.renderAll { onlyData := true } with
  | ok artifacts => exact ⟨artifacts, rfl, hok artifacts hrender⟩
  | error failure =>
    have hrenders : (userAndGroup.renderAll { onlyData := true }).isOk = true := by decide +kernel
    rw [hrender] at hrenders
    cases hrenders

end PersistenceLayer.Disk
