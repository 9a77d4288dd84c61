import PersistenceLayer.Proofs.GeneratedDeclarations

/-!
# Data-only runs

A run that is limited to client-facing data leaves out four kinds of artifacts.
It claims fewer paths than a full run does, so it succeeds whenever that does,
with the same contracts and data holders. Nothing that a full run finds wrong
with an entity is left out with the other kinds.
-/

namespace PersistenceLayer

/-- Whether an artifact is a contract or a data holder. -/
def Artifact.isClientFacing (artifact : Artifact) : Bool :=
  artifact.kind == .contract || artifact.kind == .dataHolder

namespace EntitySet

variable (set : EntitySet) (options : Options)

/-- Of the artifacts of an entity, those that are client-facing are rendered if a run is limited to
them. Whatever keeps the others from being rendered keeps these from it as well. -/
theorem renderEntity_onlyData (entity : Entity) :
    set.renderEntity { options with onlyData := true } entity =
      (set.renderEntity { options with onlyData := false } entity).map
        (List.filter Artifact.isClientFacing) := by
  rw [renderEntity_eq, renderEntity_eq]
  cases set.mapEntity entity <;> rfl

/-- The client-facing artifacts of an entity are one contract and one data holder. -/
theorem map_filter_isClientFacing {entity : Entity} {rendered : List Artifact}
    (h : set.renderEntity { options with onlyData := false } entity = .ok rendered) :
    (rendered.filter Artifact.isClientFacing).map (fun artifact => (artifact.entity, artifact.kind)) =
      [(entity.name, .contract), (entity.name, .dataHolder)] := by
  obtain ⟨attrs, -, rfl⟩ := renderEntity_eq_ok_iff.mp h
  rfl

/-- A data-only run is a full run without the artifacts that are not client-facing. It keeps two of
them for each entity, and for each entity both runs fail alike. -/
theorem renderAll_onlyData :
    (∀ artifacts, set.renderAll { options with onlyData := false } = .ok artifacts →
      set.renderAll { options with onlyData := true } =
        .ok (artifacts.filter Artifact.isClientFacing) ∧
      (artifacts.filter Artifact.isClientFacing).map
          (fun artifact => (artifact.entity, artifact.kind)) =
        set.entities.flatMap fun entity =>
          [(entity.name, .contract), (entity.name, .dataHolder)]) ∧
    ∀ entity cause,
      set.renderEntity { options with onlyData := true } entity = .error cause ↔
        set.renderEntity { options with onlyData := false } entity = .error cause := by
  constructor
  · intro artifacts hrender
    obtain ⟨filesOf, hfiles, rfl, hnodup⟩ := renderAll_eq_ok_iff.mp hrender
    refine ⟨renderAll_eq_ok_iff.mpr
      ⟨fun entity => (filesOf entity).filter Artifact.isClientFacing, ?_, ?_, ?_⟩, ?_⟩
    · intro entity hentity
      rw [renderEntity_onlyData, hfiles entity hentity]
      rfl
    · exact List.filter_flatMap
    · -- Paths that are not claimed cannot collide.
      exact hnodup.sublist (List.filter_sublist.map _)
    · rw [List.filter_flatMap, List.map_flatMap]
      exact List.flatMap_congr fun entity hentity =>
        map_filter_isClientFacing set options (hfiles entity hentity)
  · intro entity cause
    rw [renderEntity_onlyData]
    cases set.renderEntity { options with onlyData := false } entity <;> simp [Except.map]

/-- Team and member are rendered in full, and as client-facing data alone. -/
theorem renderAll_onlyData_teamAndMember :
    ∃ artifacts, teamAndMember.renderAll {} = .ok artifacts ∧
      teamAndMember.renderAll { onlyData := true } =
        .ok (artifacts.filter Artifact.isClientFacing) ∧
      (artifacts.filter Artifact.isClientFacing).map
          (fun artifact => (artifact.entity, artifact.kind)) =
        [("team", .contract), ("team", .dataHolder), ("Member", .contract),
          ("Member", .dataHolder)] := by
  obtain ⟨artifacts, hrender⟩ := teamAndMember.exists_renderAll
  exact ⟨artifacts, hrender, (renderAll_onlyData teamAndMember {}).1 artifacts hrender⟩

end EntitySet

end PersistenceLayer
