import PersistenceLayer.Artifact.Naming
import PersistenceLayer.Proofs.EagerValidation
import PersistenceLayer.Proofs.Tokens

/-!
# Names that are identifiers

If validation has nothing to say about the names of a set, then every name that
is formed from them is one word of the generated sources, however it is cased.
-/

namespace PersistenceLayer

namespace Text

/-! ## Casing of identifiers -/

/-- A character that may open an identifier is an ASCII character. -/
theorem toNat_lt_of_isIdentifierStart {c : Char} (h : isIdentifierStart c = true) :
    c.toNat < 128 := by
  have hval : c.toNat = c.val.toNat := rfl
  have hranges : (decide ('A'.val ≤ c.val ∧ c.val ≤ 'Z'.val) ||
      (decide ('a'.val ≤ c.val) && decide (c.val ≤ 'z'.val)) || c == '_') = true := h
  simp only [Bool.or_eq_true, Bool.and_eq_true, decide_eq_true_eq, beq_iff_eq,
    UInt32.le_iff_toNat_le] at hranges
  rcases hranges with (⟨-, h⟩ | ⟨-, h⟩) | rfl
  · exact hval ▸ h.trans_lt (by decide)
  · exact hval ▸ h.trans_lt (by decide)
  · decide

/-- What holds of every ASCII character that may open an identifier holds of all characters that
may. -/
@[elab_as_elim]
theorem ascii_of_isIdentifierStart {motive : Char → Prop} {c : Char}
    (h : isIdentifierStart c = true)
    (hascii : ∀ code < 128, isIdentifierStart (Char.ofNat code) = true →
      motive (Char.ofNat code)) : motive c := by
  have hcode := hascii c.toNat (toNat_lt_of_isIdentifierStart h)
  rw [Char.ofNat_toNat] at hcode
  exact hcode h

/-- An identifier is a character that may open one, and characters that may follow. -/
theorem isIdentifier_iff {name : String} :
    isIdentifier name = true ↔
      ∃ first rest, name.toList = first :: rest ∧ isIdentifierStart first = true ∧
        rest.all isIdentifierPart = true := by
  unfold isIdentifier
  cases name.toList <;> simp

/-- The cases of a character that may open an identifier are those of ASCII letters. -/
theorem cases_of_isIdentifierStart {c : Char} (h : isIdentifierStart c = true) :
    lowercase c = [c.toLower] ∧
      (if isLowercase c then titlecase c else [c]) = [c.toUpper] ∧
      c.toUpper.toLower = c.toLower ∧ c.toLower.toUpper = c.toUpper := by
  refine ascii_of_isIdentifierStart h ?_
  decide +kernel

/-- A character that may open an identifier may do so in both cases. -/
theorem isIdentifierStart_cases {c : Char} (h : isIdentifierStart c = true) :
    isIdentifierStart c.toLower = true ∧ isIdentifierStart c.toUpper = true := by
  refine ascii_of_isIdentifierStart h ?_
  decide +kernel

/-- The two ways in which an identifier is cased. -/
theorem exists_toList_of_isIdentifier {name : String} (h : isIdentifier name = true) :
    ∃ c rest, name.toList = c :: rest ∧ (decapitalized name).toList = c.toLower :: rest ∧
      (capitalized name).toList = c.toUpper :: rest ∧ c.toUpper.toLower = c.toLower ∧
      c.toLower.toUpper = c.toUpper := by
  obtain ⟨c, rest, hname, hstart, -⟩ := isIdentifier_iff.mp h
  obtain ⟨hlower, hupper, hcases⟩ := cases_of_isIdentifierStart hstart
  refine ⟨c, rest, hname, ?_, ?_, hcases⟩
  · simp [decapitalized, hname, hlower]
  · simp only [capitalized, hname]
    split at hupper
    · next hlowercase => simp [hlowercase, hupper]
    · next hlowercase =>
      rw [if_neg hlowercase, hname]
      exact congrArg (· :: rest) (List.cons.inj hupper).1

section Casing

variable {name : String} (h : isIdentifier name = true)

include h

/-- An identifier is one in both cases. -/
theorem isIdentifier_cased :
    isIdentifier (decapitalized name) = true ∧ isIdentifier (capitalized name) = true := by
  obtain ⟨first, rest, hname, hfirst, hrest⟩ := isIdentifier_iff.mp h
  obtain ⟨c, others, hcons, hlower, hupper, -⟩ := exists_toList_of_isIdentifier h
  obtain ⟨rfl, rfl⟩ := List.cons.inj (hname.symm.trans hcons)
  obtain ⟨hstartLower, hstartUpper⟩ := isIdentifierStart_cases hfirst
  exact ⟨isIdentifier_iff.mpr ⟨_, rest, hlower, hstartLower, hrest⟩,
    isIdentifier_iff.mpr ⟨_, rest, hupper, hstartUpper, hrest⟩⟩

/-- An identifier is one word. -/
theorem isWord_of_isIdentifier : isWord name = true := by
  obtain ⟨first, rest, hname, hfirst, hrest⟩ := isIdentifier_iff.mp h
  have hpart : isIdentifierPart first = true := by
    simp only [isIdentifierStart, Bool.or_eq_true] at hfirst
    simp only [isIdentifierPart, Char.isAlphanum, Bool.or_eq_true]
    exact hfirst.imp_left .inl
  rw [isWord_iff, hname]
  exact ⟨List.cons_ne_nil _ _, List.forall_mem_cons.mpr ⟨hpart, List.all_eq_true.mp hrest⟩⟩

end Casing

/-- A capitalized identifier is one word. -/
theorem isWord_capitalized {name : String} (h : isIdentifier name = true) :
    isWord (capitalized name) = true :=
  isWord_of_isIdentifier (isIdentifier_cased h).2

/-- A decapitalized identifier is one word. -/
theorem isWord_decapitalized {name : String} (h : isIdentifier name = true) :
    isWord (decapitalized name) = true :=
  isWord_of_isIdentifier (isIdentifier_cased h).1

/-! ## Cases of the first letter -/

/-- Whether two texts are the same up to the case of their first letter, which is an ASCII letter if
it has cases. -/
def SameUpToInitial (first second : String) : Prop :=
  ∃ c d rest, first.toList = c :: rest ∧ second.toList = d :: rest ∧ c.toLower = d.toLower

/-- Names are the same up to the case of the first letter if their first letters are in lower case,
and the rest as it is. -/
theorem sameUpToInitial_iff {first second : String} {c d : Char} {rest others : List Char}
    (hfirst : first.toList = c :: rest) (hsecond : second.toList = d :: others) :
    SameUpToInitial first second ↔ c.toLower = d.toLower ∧ rest = others := by
  simp only [SameUpToInitial, hfirst, hsecond, List.cons.injEq]
  constructor
  · rintro ⟨_, _, _, ⟨rfl, rfl⟩, ⟨rfl, rfl⟩, h⟩
    exact ⟨h, rfl⟩
  · rintro ⟨h, rfl⟩
    exact ⟨c, d, rest, ⟨rfl, rfl⟩, ⟨rfl, rfl⟩, h⟩

/-- An identifier goes on with any word. -/
theorem isIdentifier_append {first second : String} (hfirst : isIdentifier first = true)
    (hsecond : isWord second = true) : isIdentifier (first ++ second) = true := by
  obtain ⟨c, rest, hc, hstart, hrest⟩ := isIdentifier_iff.mp hfirst
  refine isIdentifier_iff.mpr ⟨c, rest ++ second.toList, by simp [hc], hstart, ?_⟩
  rw [List.all_append, hrest, Bool.true_and, List.all_eq_true]
  exact (isWord_iff.mp hsecond).2

/-- Only the first character of a text is cased. -/
theorem decapitalized_append {first : String} (h : isIdentifier first = true) (second : String) :
    decapitalized (first ++ second) = decapitalized first ++ second := by
  obtain ⟨c, rest, hc, -⟩ := isIdentifier_iff.mp h
  simp [decapitalized, hc, String.ofList_append, String.append_assoc]

section Casing

variable {first second : String} (hfirst : isIdentifier first = true)
  (hsecond : isIdentifier second = true)

include hfirst hsecond

/-- Identifiers have one lower-case form if they differ in the case of the first letter only. -/
theorem decapitalized_eq_iff :
    decapitalized first = decapitalized second ↔ SameUpToInitial first second := by
  obtain ⟨c, rest, hc, hlower, -⟩ := exists_toList_of_isIdentifier hfirst
  obtain ⟨d, others, hd, hlower', -⟩ := exists_toList_of_isIdentifier hsecond
  rw [← String.toList_inj, hlower, hlower', sameUpToInitial_iff hc hd, List.cons.injEq]

/-- Identifiers have one upper-case form if they differ in the case of the first letter only. -/
theorem capitalized_eq_iff :
    capitalized first = capitalized second ↔ SameUpToInitial first second := by
  obtain ⟨c, rest, hc, -, hupper, hcases⟩ := exists_toList_of_isIdentifier hfirst
  obtain ⟨d, others, hd, -, hupper', hcases'⟩ := exists_toList_of_isIdentifier hsecond
  rw [← String.toList_inj, hupper, hupper', sameUpToInitial_iff hc hd, List.cons.injEq]
  refine and_congr_left fun _ => ⟨fun h => ?_, fun h => ?_⟩
  · rw [← hcases.1, h, hcases'.1]
  · rw [← hcases.2, h, hcases'.2]

end Casing

end Text

/-! ## Names formed from identifiers -/

namespace Naming

open Text (isWord isWord_append isWord_capitalized isWord_decapitalized)

section

variable {name : String} (h : Text.isIdentifier name = true)

include h

/-- The persisted class of an identifier is called by one word. -/
theorem isWord_entityType : isWord (entityType name) = true :=
  isWord_append (isWord_capitalized h) (by decide)

/-- The metamodel of an identifier is called by one word. -/
theorem isWord_metamodelType : isWord (metamodelType name) = true :=
  isWord_append (isWord_entityType h) (by decide)

/-- The contract of an identifier is called by one word. -/
theorem isWord_contractType : isWord (contractType name) = true :=
  isWord_append (by decide) (isWord_capitalized h)

/-- The data holder of an identifier is called by one word. -/
theorem isWord_dataType : isWord (dataType name) = true :=
  isWord_append (isWord_capitalized h) (by decide)

/-- The class of orders of an identifier is called by one word. -/
theorem isWord_orderType : isWord (orderType name) = true :=
  isWord_append (isWord_capitalized h) (by decide)

/-- The class of predicates of an identifier is called by one word. -/
theorem isWord_predicateType : isWord (predicateType name) = true :=
  isWord_append (isWord_capitalized h) (by decide)

/-- The property of an identifier is called by one word. -/
theorem isWord_property : isWord (property name) = true :=
  isWord_decapitalized h

/-- The case of an identifier is called by one word. -/
theorem isWord_caseName : isWord (caseName name) = true :=
  isWord_capitalized h

/-- The foreign key of two identifiers is called by one word. -/
theorem isWord_foreignKey {identifier : String}
    (hidentifier : Text.isIdentifier identifier = true) :
    isWord (foreignKey name identifier) = true :=
  isWord_append (isWord_decapitalized h) (isWord_capitalized hidentifier)

end

end Naming

namespace EntitySet

variable {set : EntitySet} {entity : Entity}

/-- Whether the names of all entities and attributes are identifiers. -/
def HasIdentifierNames (set : EntitySet) : Prop :=
  ∀ entity ∈ set.entities, Text.isIdentifier entity.name = true ∧
    ∀ attr ∈ entity.attributes, Text.isIdentifier attr.name = true

/-- The names are identifiers if validation finds nothing about names. -/
theorem hasIdentifierNames_iff :
    set.HasIdentifierNames ↔ ∀ finding ∈ set.findings, finding.defect? ≠ none := by
  have hattribute : ∀ (owner : String) (attr : Attribute),
      (∀ finding ∈ set.attributeFindings owner attr, finding.defect? ≠ none) ↔
        Text.isIdentifier attr.name = true := by
    intro owner attr
    rw [attributeFindings]
    split <;> simp [*, Finding.defect?]
  have hentity : ∀ entity : Entity,
      (∀ finding ∈ set.entityFindings entity, finding.defect? ≠ none) ↔
        Text.isIdentifier entity.name = true ∧
          ∀ attr ∈ entity.attributes, Text.isIdentifier attr.name = true := by
    intro entity
    simp only [entityFindings, List.forall_mem_append, List.forall_mem_flatMap, hattribute]
    refine and_congr_left fun _ => ?_
    split <;> simp [*, Finding.defect?]
  simp only [HasIdentifierNames, findings, List.forall_mem_flatMap, hentity]

section Valid

variable (h : set.isValid = true)

include h

/-- The names of a valid set are identifiers. -/
theorem hasIdentifierNames_of_isValid : set.HasIdentifierNames := by
  rw [hasIdentifierNames_iff, List.isEmpty_iff.mp h]
  exact fun _ hfinding => absurd hfinding List.not_mem_nil

/-- The entities of a valid set are mapped. -/
theorem exists_mapEntity_of_isValid (hentity : entity ∈ set.entities) :
    ∃ attrs, set.mapEntity entity = .ok attrs := by
  have hdefects : set.entityDefects entity = [] := by
    rw [← filterMap_entityFindings, List.filterMap_eq_nil_iff]
    intro finding hfinding
    have hmem : finding ∈ set.findings := List.mem_flatMap.mpr ⟨entity, hentity, hfinding⟩
    rw [List.isEmpty_iff.mp h] at hmem
    cases hmem
  have hdefect := set.mapAttributes_snd entity.name entity.attributes
  rw [mapEntity]
  rcases hmapped : set.mapAttributes entity.name entity.attributes with ⟨mapped, _ | cause⟩
  · exact ⟨mapped, rfl⟩
  · rw [hmapped, ← entityDefects, hdefects] at hdefect
    cases hdefect

end Valid

end EntitySet

end PersistenceLayer
