import PersistenceLayer.Proofs.Destinations
import PersistenceLayer.Proofs.Duplicates
import PersistenceLayer.Proofs.Locality
import PersistenceLayer.Proofs.Overwriting

/-!
# The order of declarations

Entities are found by name, and no two of them share one. So a list of entities
in another order renders each of them as before, with the same files, and no
path collides that did not. The destinations of a run are pairwise different,
which leaves no trace of the order in which they were written.
-/

namespace PersistenceLayer

variable {set permuted : EntitySet} {options : Options}

namespace EntitySet

/-- Entities in another order are accepted as well. -/
theorem exists_ofEntities_of_perm {others : List Entity} (hperm : set.entities.Perm others) :
    ∃ permuted, ofEntities others = .ok permuted := by
  have hnodup : (others.map Entity.name).Nodup :=
    (hperm.map Entity.name).nodup_iff.mp set.names_nodup
  have hattributes : ∀ entity ∈ others, entity.attributeNames.Nodup :=
    fun entity hmem => set.attributes_nodup entity (hperm.mem_iff.mpr hmem)
  exact exists_ofEntities_iff.mpr ⟨hnodup, hattributes⟩

/-- Sets of the same entities find the same entity under each name. -/
theorem get?_eq_of_mem_iff (h : ∀ entity, entity ∈ set.entities ↔ entity ∈ permuted.entities)
    (name : String) : set.get? name = permuted.get? name := by
  refine Option.ext fun entity => ?_
  rw [get?_eq_some_iff, get?_eq_some_iff, h]

/-- Sets of the same entities render every entity alike. -/
theorem renderEntity_eq_of_mem_iff
    (h : ∀ entity, entity ∈ set.entities ↔ entity ∈ permuted.entities) (entity : Entity) :
    set.renderEntity options entity = permuted.renderEntity options entity := by
  have hagree : ∀ name, set.AgreeAt permuted name := by
    intro name
    have hfound := get?_eq_of_mem_iff h name
    cases hget : set.get? name with
    | none => exact .inl ⟨hget, hfound.symm.trans hget⟩
    | some found =>
      exact .inr ⟨found, found, hget, hfound.symm.trans hget, .of_target?_eq rfl rfl⟩
  exact renderEntity_congr (fun _ _ name _ => hagree name) options

/-- The run over the same entities in another order puts the same files in that order. -/
theorem renderAll_of_perm (hperm : set.entities.Perm permuted.entities)
    {filesOf : Entity → List Artifact}
    (hfiles : ∀ entity ∈ set.entities, set.renderEntity options entity = .ok (filesOf entity))
    (h : set.renderAll options = .ok (set.entities.flatMap filesOf)) :
    permuted.renderAll options = .ok (permuted.entities.flatMap filesOf) := by
  obtain ⟨-, -, -, hnodup⟩ := renderAll_eq_ok_iff.mp h
  refine renderAll_eq_ok_iff.mpr ⟨filesOf, fun entity hentity => ?_, rfl, ?_⟩
  · rw [← renderEntity_eq_of_mem_iff fun entity => hperm.mem_iff]
    exact hfiles entity (hperm.mem_iff.mpr hentity)
  · have hclaims := (hperm.flatMap_right filesOf).map fun artifact => artifact.path.components
    exact hclaims.nodup_iff.mp hnodup

end EntitySet

/-! ## Trees -/

/-- What stands at a place does not depend on the order in which artifacts at different places were
written. -/
theorem Overwritten.entry?_eq_of_perm {output : Path} {before after other : FileTree}
    {artifacts rearranged : List Artifact} (hperm : artifacts.Perm rearranged)
    (hplaces : (artifacts.map (·.placeBelow output)).Nodup)
    (h : Overwritten output before after artifacts)
    (hother : Overwritten output before other rearranged) (location : Location) :
    other.entry? location = after.entry? location := by
  have hmap := hperm.map (·.placeBelow output)
  have hway : OnTheWay output artifacts location ↔ OnTheWay output rearranged location := by
    simp only [OnTheWay, hperm.mem_iff]
  by_cases hmem : location ∈ artifacts.map (·.placeBelow output)
  · obtain ⟨artifact, hartifact, rfl⟩ := List.mem_map.mp hmem
    rw [h.entry?_of_mem hplaces hartifact,
      hother.entry?_of_mem (hmap.nodup_iff.mp hplaces) (hperm.mem_iff.mp hartifact)]
  · by_cases hthrough : OnTheWay output artifacts location
    · rw [h.entry?_of_onTheWay hthrough, hother.entry?_of_onTheWay (hway.mp hthrough)]
    · have hsame := (h.keeps location hmem).resolve_right fun hmade => hthrough hmade.2.2
      have hsameOther := (hother.keeps location (hmap.mem_iff.not.mp hmem)).resolve_right
        fun hmade => hthrough (hway.mpr hmade.2.2)
      rw [hsame, hsameOther]

namespace Disk

/-- Entities that are accepted in one order are accepted in every other. Both orders are rendered or
none of them is, and each entity has the same files in both. If their paths are normal and no step
fails, both orders leave the same tree. -/
theorem declarationOrder_irrelevant {entities others : List Entity}
    (hset : EntitySet.ofEntities entities = .ok set) (hperm : entities.Perm others) :
    ∃ permuted, EntitySet.ofEntities others = .ok permuted ∧ ∀ options,
      ((∃ artifacts, set.renderAll options = .ok artifacts) ↔
        ∃ rearranged, permuted.renderAll options = .ok rearranged) ∧
      ∀ artifacts rearranged, set.renderAll options = .ok artifacts →
        permuted.renderAll options = .ok rearranged →
        (∃ filesOf : Entity → List Artifact,
          (∀ entity ∈ entities, set.renderEntity options entity = .ok (filesOf entity) ∧
            permuted.renderEntity options entity = .ok (filesOf entity)) ∧
          artifacts = entities.flatMap filesOf ∧ rearranged = others.flatMap filesOf) ∧
        (NormalPaths options entities →
          ∀ (output : Path) (tree : FileTree) (breaksOff breaksOff' : Nat → Step → Option Nat)
            (result result' : Except Failure (List Path)) (after after' : Disk),
            (storage.generateAll output set options).run (unreliable breaksOff tree) =
              (result, after) →
            (storage.generateAll output permuted options).run (unreliable breaksOff' tree) =
              (result', after') →
            AllSucceed after.past → AllSucceed after'.past →
            ∀ location, after'.tree.entry? location = after.tree.entry? location) := by
  obtain rfl := EntitySet.entities_of_ofEntities hset
  obtain ⟨permuted, hpermuted⟩ := EntitySet.exists_ofEntities_of_perm hperm
  obtain rfl := EntitySet.entities_of_ofEntities hpermuted
  refine ⟨permuted, hpermuted, fun options => ⟨⟨?_, ?_⟩, ?_⟩⟩
  · rintro ⟨artifacts, hrender⟩
    obtain ⟨filesOf, hfiles, rfl, -⟩ := EntitySet.renderAll_eq_ok_iff.mp hrender
    exact ⟨_, EntitySet.renderAll_of_perm hperm hfiles hrender⟩
  · rintro ⟨rearranged, hrender⟩
    obtain ⟨filesOf, hfiles, rfl, -⟩ := EntitySet.renderAll_eq_ok_iff.mp hrender
    exact ⟨_, EntitySet.renderAll_of_perm hperm.symm hfiles hrender⟩
  · intro artifacts rearranged hrender hrearranged
    obtain ⟨filesOf, hfiles, rfl, -⟩ := EntitySet.renderAll_eq_ok_iff.mp hrender
    obtain rfl := Except.ok.inj
      (hrearranged.symm.trans (EntitySet.renderAll_of_perm hperm hfiles hrender))
    refine ⟨⟨filesOf, fun entity hentity => ⟨hfiles entity hentity, ?_⟩, rfl, rfl⟩, ?_⟩
    · rw [← EntitySet.renderEntity_eq_of_mem_iff fun entity => hperm.mem_iff]
      exact hfiles entity hentity
    · intro hnormal output tree breaksOff breaksOff' result result' after after' hrun hrun'
        hsucceeded hsucceeded'
      exact (generateAll_of_allSucceed hrender hrun hsucceeded).2.entry?_eq_of_perm
        (hperm.flatMap_right filesOf) (hnormal.nodup_places hrender)
        (generateAll_of_allSucceed hrearranged hrun' hsucceeded').2

/-- The member before the team that it belongs to. -/
def memberAndTeam : EntitySet where
  entities := teamAndMember.entities.reverse
  names_nodup := by decide
  attributes_nodup := by decide

/-- The run that generates the client-facing data of a set where nothing stands. -/
def dataRun (set : EntitySet) : Except Failure (List Path) × Disk :=
  (storage.generateAll ⟨"out"⟩ set { onlyData := true }).run (ofTree .empty)

/-- Team and member have the same files in either order, and the runs that write them leave the same
tree. -/
theorem declarationOrder_irrelevant_memberAndTeam :
    ∃ artifacts rearranged, teamAndMember.renderAll { onlyData := true } = .ok artifacts ∧
      memberAndTeam.renderAll { onlyData := true } = .ok rearranged ∧
      (∃ teamFiles memberFiles, artifacts = teamFiles ++ memberFiles ∧
        rearranged = memberFiles ++ teamFiles) ∧
      AllSucceed (dataRun teamAndMember).2.past ∧ AllSucceed (dataRun memberAndTeam).2.past ∧
      ∀ location, (dataRun memberAndTeam).2.tree.entry? location =
        (dataRun teamAndMember).2.tree.entry? location := by
  have hset : EntitySet.ofEntities teamAndMember.entities = .ok teamAndMember :=
    EntitySet.ofEntities_entities _
  obtain ⟨permuted, hpermuted, hsame⟩ :=
    declarationOrder_irrelevant hset (List.reverse_perm teamAndMember.entities).symm
  obtain rfl := Except.ok.inj
    (hpermuted.symm.trans (EntitySet.ofEntities_entities memberAndTeam))
  obtain ⟨hrenders, hruns⟩ := hsame { onlyData := true }
  obtain ⟨artifacts, hrender⟩ : ∃ artifacts,
      teamAndMember.renderAll { onlyData := true } = .ok artifacts := by
    cases hrender : teamAndMember.renderAll { onlyData := true } with
    | ok artifacts => exact ⟨artifacts, rfl⟩
    | error failure =>
      have hok : (teamAndMember.renderAll { onlyData := true }).isOk = true := by decide +kernel
      rw [hrender] at hok
      cases hok
  obtain ⟨rearranged, hrearranged⟩ := hrenders.mp ⟨artifacts, hrender⟩
  obtain ⟨⟨files, -, hartifacts, hrearrangedFiles⟩, htrees⟩ :=
    hruns artifacts rearranged hrender hrearranged
  have hsucceeded : AllSucceed (dataRun teamAndMember).2.past := by
    unfold AllSucceed
    decide +kernel
  have hsucceeded' : AllSucceed (dataRun memberAndTeam).2.past := by
    unfold AllSucceed
    decide +kernel
  have hnormal : NormalPaths { onlyData := true } teamAndMember.entities := by
    unfold NormalPaths
    decide +kernel
  refine ⟨artifacts, rearranged, hrender, hrearranged, ?_, hsucceeded, hsucceeded', ?_⟩
  · simp only [teamAndMember, List.reverse_cons, List.reverse_nil, List.nil_append,
      List.singleton_append, List.flatMap_cons, List.flatMap_nil, List.append_nil]
      at hartifacts hrearrangedFiles
    exact ⟨_, _, hartifacts, hrearrangedFiles⟩
  · exact htrees hnormal _ _ _ _ _ _ _ _ (Prod.eta (dataRun teamAndMember)).symm
      (Prod.eta (dataRun memberAndTeam)).symm hsucceeded hsucceeded'

end Disk

end PersistenceLayer
