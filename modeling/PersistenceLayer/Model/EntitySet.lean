import PersistenceLayer.Model.Defect
import PersistenceLayer.Model.Entity

/-!
# Entity sets

A set of entities keeps them in the order of declaration. No two of its entities
share a name, and no two attributes of one entity do; a list of entities that
breaks this rule is refused at its first duplicate.
-/

namespace PersistenceLayer

/-- The first name of a list that occurs earlier in it or among the names already seen. -/
def repeatedName? (seen : List String) : List String → Option String
  | [] => none
  | name :: names => if name ∈ seen then some name else repeatedName? (name :: seen) names

/-- Without a repeated name the names are distinct, also from those already seen. -/
theorem nodup_of_repeatedName?_eq_none {seen names : List String}
    (h : repeatedName? seen names = none) : names.Nodup ∧ ∀ name ∈ names, name ∉ seen := by
  induction names generalizing seen with
  | nil => simp
  | cons name names ih =>
    rw [repeatedName?] at h
    split at h
    · cases h
    · next hname =>
      obtain ⟨hnodup, hseen⟩ := ih h
      refine ⟨List.nodup_cons.mpr ⟨fun hmem => hseen name hmem List.mem_cons_self, hnodup⟩, ?_⟩
      intro other hother
      rcases List.mem_cons.mp hother with rfl | hmem
      · exact hname
      · exact fun hin => hseen other hmem (List.mem_cons_of_mem _ hin)

/-- Distinct names, none of which was seen, have no repeated one. -/
theorem repeatedName?_eq_none {seen names : List String} (hnodup : names.Nodup)
    (hseen : ∀ name ∈ names, name ∉ seen) : repeatedName? seen names = none := by
  induction names generalizing seen with
  | nil => rfl
  | cons name names ih =>
    obtain ⟨hname, hnodup⟩ := List.nodup_cons.mp hnodup
    rw [repeatedName?, if_neg (hseen name List.mem_cons_self)]
    refine ih hnodup fun other hother hmem => ?_
    rcases List.mem_cons.mp hmem with rfl | hmem
    · exact hname hother
    · exact hseen other (List.mem_cons_of_mem _ hother) hmem

/-- The first duplicate of a list of entities, given the names of the entities before it. An entity
that repeats an attribute is found before its own name is looked at. -/
def firstDuplicate? (seen : List String) : List Entity → Option Defect
  | [] => none
  | entity :: entities =>
    match repeatedName? [] entity.attributeNames with
    | some attr => some (.duplicateAttribute entity.name attr)
    | none =>
      if entity.name ∈ seen then some (.duplicateEntity entity.name)
      else firstDuplicate? (entity.name :: seen) entities

/-- Without a duplicate the names of the entities are distinct, and so are the names of the
attributes within each of them. -/
theorem nodup_of_firstDuplicate?_eq_none {seen : List String} {entities : List Entity}
    (h : firstDuplicate? seen entities = none) :
    (entities.map Entity.name).Nodup ∧ (∀ entity ∈ entities, entity.name ∉ seen) ∧
      ∀ entity ∈ entities, entity.attributeNames.Nodup := by
  induction entities generalizing seen with
  | nil => simp
  | cons entity entities ih =>
    rw [firstDuplicate?] at h
    split at h
    · cases h
    · next hattributes =>
      split at h
      · cases h
      · next hname =>
        obtain ⟨hnodup, hseen, hnodups⟩ := ih h
        refine ⟨?_, ?_, ?_⟩
        · refine List.nodup_cons.mpr ⟨fun hmem => ?_, hnodup⟩
          obtain ⟨other, hother, heq⟩ := List.mem_map.mp hmem
          exact hseen other hother (heq ▸ List.mem_cons_self)
        · intro other hother
          rcases List.mem_cons.mp hother with rfl | hmem
          · exact hname
          · exact fun hin => hseen other hmem (List.mem_cons_of_mem _ hin)
        · intro other hother
          rcases List.mem_cons.mp hother with rfl | hmem
          · exact (nodup_of_repeatedName?_eq_none hattributes).1
          · exact hnodups other hmem

/-- Entities with distinct names, none of which was seen, and with distinct attributes have no
duplicate. -/
theorem firstDuplicate?_eq_none {seen : List String} {entities : List Entity}
    (hnodup : (entities.map Entity.name).Nodup)
    (hseen : ∀ entity ∈ entities, entity.name ∉ seen)
    (hattributes : ∀ entity ∈ entities, entity.attributeNames.Nodup) :
    firstDuplicate? seen entities = none := by
  induction entities generalizing seen with
  | nil => rfl
  | cons entity entities ih =>
    obtain ⟨hname, hnodup⟩ := List.nodup_cons.mp hnodup
    have hunrepeated : repeatedName? [] entity.attributeNames = none :=
      repeatedName?_eq_none (hattributes entity List.mem_cons_self) fun _ _ => List.not_mem_nil
    rw [firstDuplicate?, hunrepeated]
    simp only [if_neg (hseen entity List.mem_cons_self)]
    refine ih hnodup (fun other hother hmem => ?_) fun other hother =>
      hattributes other (List.mem_cons_of_mem _ hother)
    rcases List.mem_cons.mp hmem with heq | hmem
    · exact hname (heq ▸ List.mem_map_of_mem hother)
    · exact hseen other (List.mem_cons_of_mem _ hother) hmem

/-- Entities in the order of declaration, without duplicates. -/
structure EntitySet where
  entities : List Entity
  names_nodup : (entities.map Entity.name).Nodup
  attributes_nodup : ∀ entity ∈ entities, entity.attributeNames.Nodup

namespace EntitySet

/-- The set of some entities, or their first duplicate. -/
def ofEntities (entities : List Entity) : Except Defect EntitySet :=
  match h : firstDuplicate? [] entities with
  | some defect => .error defect
  | none =>
    .ok ⟨entities, (nodup_of_firstDuplicate?_eq_none h).1,
      (nodup_of_firstDuplicate?_eq_none h).2.2⟩

/-- A set is the set of its entities. -/
theorem ofEntities_entities (set : EntitySet) : ofEntities set.entities = .ok set := by
  have hnone : firstDuplicate? [] set.entities = none :=
    firstDuplicate?_eq_none set.names_nodup (fun _ _ => List.not_mem_nil) set.attributes_nodup
  rw [ofEntities]
  split
  · next hsome => cases hnone.symm.trans hsome
  · rfl

/-- The entity of exactly the given name. -/
def get? (set : EntitySet) (name : String) : Option Entity :=
  set.entities.find? fun entity => entity.name == name

/-- The number of entities. -/
def size (set : EntitySet) : Nat := set.entities.length

/-- Whether there are no entities. -/
def isEmpty (set : EntitySet) : Bool := set.entities.isEmpty

/-- The names of the entities, in the order of declaration. -/
def names (set : EntitySet) : List String := set.entities.map Entity.name

end EntitySet

end PersistenceLayer
