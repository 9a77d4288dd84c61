import PersistenceLayer.Proofs.Collisions

/-!
# File names that coincide

A file is called by the name of its entity with an ending that depends on the
kind of artifact, and a contract has a letter in front of it. No ending is the
end of another one, except that of contracts. So files of the same name are of one
kind, or one of them is a contract, whose letter belongs to the name of the other
entity while the suffix of the other kind belongs to the name of its own.
-/

namespace PersistenceLayer

namespace Kind

/-- What the file name of a kind has before an extension that it shares with contracts. -/
def suffix? : Kind → Option String
  | dataHolder => some "Data"
  | persisted => some "Entity"
  | vocabulary => some "OrdersPredicates"
  | extension => some "Extension"
  | contract | metamodel => none

/-- Whether the contract of an entity is called like an artifact of another entity: the names of
the two have a text in common, which is followed by the suffix of the artifact's kind in one of them
and preceded by the letter of contracts in the other. -/
def MeetsContract (kind : Kind) (entity owner : Entity) : Prop :=
  ∃ suffix rest, kind.suffix? = some suffix ∧ Text.capitalized owner.name = rest ++ suffix ∧
    Text.capitalized entity.name = "I" ++ rest

/-- A suffix stands before the extension, and does not begin with the letter of contracts. -/
theorem fileEnding_of_suffix? {kind : Kind} {suffix : String} (h : kind.suffix? = some suffix) :
    kind ≠ contract ∧ kind.fileEnding = suffix ++ ".kt" ∧ suffix.toList.head? ≠ some 'I' := by
  cases kind with
  | contract | metamodel => cases h
  | dataHolder | persisted | vocabulary | extension =>
    cases h
    decide

/-- Only contracts have an ending that is the end of another one. -/
theorem not_suffix_fileEnding {first second : Kind} (hfirst : first ≠ contract)
    (hne : first ≠ second) : ¬ first.fileEnding.toList <:+ second.fileEnding.toList := by
  revert hfirst hne
  cases first <;> cases second <;> decide

section

variable (a b : Entity)

/-- Without contracts, files are called alike only if they are of one kind. -/
theorem fileName_eq_iff_of_ne_contract {first second : Kind} (hfirst : first ≠ contract)
    (hsecond : second ≠ contract) :
    first.fileName a.name = second.fileName b.name ↔
      first = second ∧ Text.capitalized a.name = Text.capitalized b.name := by
  rw [fileName_eq, fileName_eq, if_neg hfirst, if_neg hsecond, String.empty_append,
    String.empty_append]
  constructor
  · intro h
    have hchars := congrArg String.toList h
    rw [String.toList_append, String.toList_append] at hchars
    have hends : first.fileEnding.toList <:+ second.fileEnding.toList ∨
        second.fileEnding.toList <:+ first.fileEnding.toList :=
      List.suffix_or_suffix_of_suffix ⟨_, hchars⟩ ⟨_, rfl⟩
    obtain rfl : first = second := by
      by_contra hne
      exact hends.elim (not_suffix_fileEnding hfirst hne)
        (not_suffix_fileEnding hsecond (Ne.symm hne))
    exact ⟨rfl, String.append_left_inj _ |>.mp h⟩
  · rintro ⟨rfl, h⟩
    rw [h]

theorem fileName_contract_eq_iff :
    contract.fileName a.name = contract.fileName b.name ↔
      Text.capitalized a.name = Text.capitalized b.name := by
  rw [fileName_eq, fileName_eq, String.append_left_inj, String.append_right_inj]

/-- A contract is not called like a metamodel, whose file has another extension. -/
theorem fileName_contract_ne_metamodel :
    contract.fileName a.name ≠ metamodel.fileName b.name := by
  intro h
  have hcontract : contract.fileEnding.toList.getLast? = some 't' := by decide
  have hmetamodel : metamodel.fileEnding.toList.getLast? = some 'a' := by decide
  have hlast := congrArg (fun name => name.toList.getLast?) h
  simp only [fileName_eq, String.toList_append, List.getLast?_append, hcontract, hmetamodel,
    Option.some_or, Option.some.injEq] at hlast
  exact absurd hlast (by decide)

/-- The letter of a contract begins the name of the other entity. -/
theorem letter_append_eq_iff {owner entity suffix : String}
    (hhead : suffix.toList.head? ≠ some 'I') :
    "I" ++ owner = entity ++ suffix ↔ ∃ rest, owner = rest ++ suffix ∧ entity = "I" ++ rest := by
  constructor
  · intro h
    have hchars : 'I' :: owner.toList = entity.toList ++ suffix.toList := by
      simpa using congrArg String.toList h
    rcases List.cons_eq_append_iff.mp hchars with ⟨-, hsuffix⟩ | ⟨rest, hentity, howner⟩
    · exact absurd (by rw [hsuffix]; rfl) hhead
    · refine ⟨String.ofList rest, ?_, ?_⟩
      · rw [← String.toList_inj, howner]
        simp
      · rw [← String.toList_inj, hentity]
        simp
  · rintro ⟨rest, rfl, rfl⟩
    rw [String.append_assoc]

/-- A contract is called like an artifact of another kind only if they meet. -/
theorem fileName_contract_eq_iff_meets {kind : Kind} (hkind : kind ≠ contract) :
    contract.fileName a.name = kind.fileName b.name ↔ kind.MeetsContract b a := by
  cases hsuffix : kind.suffix? with
  | none =>
    obtain rfl : kind = metamodel := by
      revert hkind hsuffix
      cases kind <;> decide
    refine iff_of_false (fileName_contract_ne_metamodel a b) ?_
    rintro ⟨suffix, rest, hsome, -⟩
    cases hsome
  | some suffix =>
    obtain ⟨-, hending, hhead⟩ := fileEnding_of_suffix? hsuffix
    rw [fileName_eq, fileName_eq, if_pos rfl, if_neg hkind, String.empty_append, hending,
      show contract.fileEnding = ".kt" from rfl, ← String.append_assoc, String.append_left_inj,
      letter_append_eq_iff hhead, MeetsContract]
    simp [hsuffix]

end

/-- Two files have the same name exactly if they are of one kind and the capitalized names of their
entities are equal, or one is a contract and the other an artifact that it meets. Neither is the
case for two other kinds, nor for a contract and a metamodel. -/
theorem fileName_eq_iff_sameKind_or_meets :
    (∀ (first second : Kind) (a b : Entity), first.fileName a.name = second.fileName b.name ↔
      first = second ∧ Text.capitalized a.name = Text.capitalized b.name ∨
        first = contract ∧ second.MeetsContract b a ∨
        second = contract ∧ first.MeetsContract a b) ∧
    (∀ (first second : Kind) (a b : Entity), first ≠ contract → second ≠ contract →
      first ≠ second → first.fileName a.name ≠ second.fileName b.name) ∧
    ∀ a b : Entity, contract.fileName a.name ≠ metamodel.fileName b.name := by
  have hmeets : ∀ a b : Entity, ¬ contract.MeetsContract a b := by
    rintro a b ⟨suffix, rest, hsuffix, -⟩
    cases hsuffix
  refine ⟨fun first second a b => ?_, fun first second a b hfirst hsecond hne h => ?_,
    fileName_contract_ne_metamodel⟩
  · by_cases hfirst : first = contract <;> by_cases hsecond : second = contract
    · subst hfirst hsecond
      simp [fileName_contract_eq_iff, hmeets]
    · subst hfirst
      simp [fileName_contract_eq_iff_meets a b hsecond, hsecond, Ne.symm hsecond]
    · subst hsecond
      rw [eq_comm, fileName_contract_eq_iff_meets b a hfirst]
      simp [hfirst]
    · simp [fileName_eq_iff_of_ne_contract a b hfirst hsecond, hfirst, hsecond]
  · exact hne ((fileName_eq_iff_of_ne_contract a b hfirst hsecond).mp h).1

/-- A contract of data, and data that is called like a contract. -/
example : contract.fileName "userData" = dataHolder.fileName "IUser" := by decide

end Kind

end PersistenceLayer
