import Mathlib.Data.Char
import Mathlib.Data.Nat.Bitwise
import PersistenceLayer.Proofs.DeclaredTypes

/-!
# Casing twice

A name that is cased is not changed by being cased in the same way again. This
comes from the tables: no letter that title case leads to is a lower-case one, and
no letter that lower case leads to has another lower-case form. Sets of code points
are compared as numbers here, whose bits stand for the code points. So an entity
can just as well be declared by the capitalized form of its name.
-/

namespace PersistenceLayer

namespace Text

/-! ## Sets of code points -/

/-- The code points of a range. -/
def CodeRange.codes (range : CodeRange) : List Nat :=
  List.range' range.first ((range.last - range.first) / range.stride + 1) range.stride

/-- The number in which the bits of some code points are set. -/
def mask (codes : List Nat) : Nat :=
  codes.foldr (fun code bits => bits ||| 1 <<< code) 0

/-- A range contains the numbers between its ends that lie a multiple of its stride behind the
first. -/
theorem CodeRange.contains_iff {range : CodeRange} {code : Nat} :
    range.contains code = true ↔
      range.first ≤ code ∧ code ≤ range.last ∧ (code - range.first) % range.stride = 0 := by
  simp [contains, and_assoc]

/-- The numbers that a range contains are listed. -/
theorem CodeRange.mem_codes {range : CodeRange} {code : Nat} (h : range.contains code = true) :
    code ∈ range.codes := by
  obtain ⟨hfirst, hlast, hmod⟩ := contains_iff.mp h
  refine List.mem_range'.mpr ⟨(code - range.first) / range.stride, ?_, ?_⟩
  · exact Nat.lt_succ_of_le (Nat.div_le_div_right (Nat.sub_le_sub_right hlast _))
  · rw [Nat.mul_div_cancel' (Nat.dvd_of_mod_eq_zero hmod), Nat.add_sub_of_le hfirst]

/-- A bit of a mask is set exactly for a number that it is made of. -/
theorem testBit_mask {codes : List Nat} {code : Nat} :
    (mask codes).testBit code = true ↔ code ∈ codes := by
  induction codes with
  | nil => simp [mask]
  | cons other codes ih =>
    rw [mask] at ih
    rw [mask, List.foldr_cons, Nat.testBit_or, Nat.one_shiftLeft, Nat.testBit_two_pow,
      Bool.or_eq_true, ih, List.mem_cons, decide_eq_true_eq, or_comm, eq_comm]

/-- Sets whose numbers share no bit have no code point in common. -/
theorem notMem_of_mask {codes others : List Nat} (h : mask codes &&& mask others = 0) {code : Nat}
    (hmem : code ∈ codes) : code ∉ others := by
  intro hother
  have hbit : (mask codes &&& mask others).testBit code = true := by
    rw [Nat.testBit_and, testBit_mask.mpr hmem, testBit_mask.mpr hother]
    rfl
  rw [h, Nat.zero_testBit] at hbit
  cases hbit

/-! ## Case images -/

/-- The code points that a shift leads to. -/
def CaseShift.images (shift : CaseShift) : CodeRange where
  first := shift.image
  last := shift.apply shift.last
  stride := shift.stride

/-- A shift takes the numbers of its range to its images. -/
theorem CaseShift.mem_images {shift : CaseShift} {code : Nat}
    (h : shift.toCodeRange.contains code = true) : shift.apply code ∈ shift.images.codes := by
  obtain ⟨hfirst, hlast, hmod⟩ := CodeRange.contains_iff.mp h
  refine CodeRange.mem_codes (CodeRange.contains_iff.mpr ⟨Nat.le_add_right _ _, ?_, ?_⟩)
  · exact Nat.add_le_add_left (Nat.sub_le_sub_right hlast _) _
  · simpa [images, apply] using hmod

section

variable (expansions : List (Nat × List Nat)) (shifts : List CaseShift)

/-- The code points that have an image of their own. -/
def casedCodes : List Nat :=
  expansions.map Prod.fst ++ shifts.flatMap fun shift => shift.codes

/-- The code points that images begin with. -/
def imageCodes : List Nat :=
  expansions.filterMap (fun expansion => expansion.2.head?) ++
    shifts.flatMap fun shift => shift.images.codes

/-- A character without an image of its own stays as it is. -/
theorem caseImage_eq_self {c : Char} (h : c.toNat ∉ casedCodes expansions shifts) :
    caseImage expansions shifts c = [c] := by
  have hexpansion : expansions.find? (fun expansion => expansion.1 == c.toNat) = none := by
    rw [List.find?_eq_none]
    rintro expansion hexpansion heq
    exact h (List.mem_append_left _
      (List.mem_map.mpr ⟨expansion, hexpansion, beq_iff_eq.mp heq⟩))
  have hshift : shifts.find? (fun shift => shift.toCodeRange.contains c.toNat) = none := by
    rw [List.find?_eq_none]
    rintro shift hshift hcontains
    exact h (List.mem_append_right _
      (List.mem_flatMap.mpr ⟨shift, hshift, CodeRange.mem_codes hcontains⟩))
  rw [caseImage, hexpansion, hshift]

/-- The image of a character is the character itself, or begins with an image. -/
theorem caseImage_cases (hne : ∀ expansion ∈ expansions, expansion.2 ≠ []) (c : Char) :
    caseImage expansions shifts c = [c] ∨
      ∃ code ∈ imageCodes expansions shifts, ∃ rest,
        caseImage expansions shifts c = Char.ofNat code :: rest := by
  rw [caseImage]
  cases hexpansion : expansions.find? fun expansion => expansion.1 == c.toNat with
  | some expansion =>
    have hmem := List.mem_of_find?_eq_some hexpansion
    obtain ⟨code, rest, hcodes⟩ := List.exists_cons_of_ne_nil (hne expansion hmem)
    refine .inr ⟨code, List.mem_append_left _ (List.mem_filterMap.mpr ⟨expansion, hmem, ?_⟩),
      rest.map Char.ofNat, ?_⟩
    · rw [hcodes, List.head?_cons]
    · exact (congrArg (List.map Char.ofNat) hcodes).trans List.map_cons
  | none =>
    cases hshift : shifts.find? fun shift => shift.toCodeRange.contains c.toNat with
    | none => exact .inl rfl
    | some shift =>
      have hmem := List.mem_of_find?_eq_some hshift
      have hcontains : shift.toCodeRange.contains c.toNat = true := by
        simpa using List.find?_some hshift
      exact .inr ⟨_, List.mem_append_right _
        (List.mem_flatMap.mpr ⟨shift, hmem, CaseShift.mem_images hcontains⟩), [], rfl⟩

end

/-! ## The tables -/

/-- The code points of the lower-case letters. -/
def lowercaseCodes : List Nat :=
  lowercaseRanges.flatMap CodeRange.codes

/-- A character whose number is not among those of lower-case letters is none. -/
theorem isLowercase_eq_false {c : Char} (h : c.toNat ∉ lowercaseCodes) : isLowercase c = false := by
  rw [isLowercase, List.any_eq_false]
  exact fun range hrange hcontains =>
    h (List.mem_flatMap.mpr ⟨range, hrange, CodeRange.mem_codes hcontains⟩)

/-- The code points that the title case of a character begins with, if it is another one. -/
def titleCodes : List Nat :=
  digraphTitles.map Prod.snd ++ imageCodes uppercaseExpansions uppercaseShifts

/-- The code points that the lower case of a character begins with, if it is another one. -/
def smallCodes : List Nat :=
  imageCodes lowercaseExpansions lowercaseShifts

/-- No number that title case leads to is that of a lower-case letter. -/
theorem mask_titleCodes : mask titleCodes &&& mask lowercaseCodes = 0 := by
  decide +kernel

/-- No number that lower case leads to has another lower case. -/
theorem mask_smallCodes :
    mask smallCodes &&& mask (casedCodes lowercaseExpansions lowercaseShifts) = 0 := by
  decide +kernel

/-- What letters lead to are the numbers of characters. -/
theorem toNat_ofNat_images : ∀ code ∈ titleCodes ++ smallCodes,
    (Char.ofNat code).toNat = code := by
  decide +kernel

/-! ## Characters -/

/-- What a character is in title case, unless it stays as it is, does not begin with a lower-case
letter. -/
theorem isLowercase_ofNat {code : Nat} (h : code ∈ titleCodes) :
    isLowercase (Char.ofNat code) = false := by
  refine isLowercase_eq_false ?_
  rw [toNat_ofNat_images code (List.mem_append_left _ h)]
  exact notMem_of_mask mask_titleCodes h

/-- A character in upper case stays as it is or begins with no lower-case letter. -/
theorem uppercase_cases (c : Char) : uppercase c = [c] ∨
    ∃ first rest, uppercase c = first :: rest ∧ isLowercase first = false := by
  refine (caseImage_cases _ _ (by decide) c).imp_right ?_
  rintro ⟨code, hcode, rest, himage⟩
  exact ⟨_, rest, himage, isLowercase_ofNat (List.mem_append_right _ hcode)⟩

/-- A character in title case stays as it is or begins with no lower-case letter. -/
theorem titlecase_cases (c : Char) : titlecase c = [c] ∨
    ∃ first rest, titlecase c = first :: rest ∧ isLowercase first = false := by
  rw [titlecase]
  cases hdigraph : digraphTitles.find? fun digraph => digraph.1.contains c.toNat with
  | some digraph =>
    exact .inr ⟨_, [], rfl, isLowercase_ofNat (List.mem_append_left _
      (List.mem_map_of_mem (List.mem_of_find?_eq_some hdigraph)))⟩
  | none =>
    dsimp only
    split
    · exact uppercase_cases c
    · rcases uppercase_cases c with hself | ⟨first, rest, hupper, hfirst⟩
      · rw [hself]
        exact .inl rfl
      · rw [hupper]
        exact .inr ⟨first, _, rfl, hfirst⟩

/-- What a character is in lower case begins with a character that stays as it is. -/
theorem lowercase_cases (c : Char) :
    ∃ first rest, lowercase c = first :: rest ∧ lowercase first = [first] := by
  rcases caseImage_cases lowercaseExpansions lowercaseShifts (by decide) c with
    hself | ⟨code, hcode, rest, himage⟩
  · exact ⟨c, [], hself, hself⟩
  · refine ⟨_, rest, himage, caseImage_eq_self _ _ ?_⟩
    rw [toNat_ofNat_images code (List.mem_append_right _ hcode)]
    exact notMem_of_mask mask_smallCodes hcode

/-! ## Names -/

section

variable (name : String)

/-- The capitalized form of a name is the name itself, or has another beginning that is no
lower-case letter. -/
theorem capitalized_cases : capitalized name = name ∨
    ∃ first others rest c, name.toList = c :: rest ∧
      (capitalized name).toList = first :: others ++ rest ∧ isLowercase first = false := by
  rw [capitalized]
  cases hname : name.toList with
  | nil => exact .inl rfl
  | cons c rest =>
    dsimp only
    split
    · rcases titlecase_cases c with hself | ⟨first, others, htitle, hfirst⟩
      · left
        rw [hself, List.singleton_append, ← hname, String.ofList_toList]
      · right
        exact ⟨first, others, rest, c, rfl, by rw [htitle, String.toList_ofList], hfirst⟩
    · exact .inl rfl

/-- A capitalized name is not changed by being capitalized again. -/
theorem capitalized_capitalized : capitalized (capitalized name) = capitalized name := by
  rcases capitalized_cases name with hself | ⟨first, others, rest, c, -, hname, hfirst⟩
  · rw [hself, hself]
  · rw [capitalized, hname]
    simp [hfirst]

/-- The decapitalized form of a name begins with a character that stays as it is. -/
theorem toList_decapitalized {c : Char} {rest : List Char} (hname : name.toList = c :: rest) :
    ∃ first others, (decapitalized name).toList = first :: others ++ rest ∧
      lowercase first = [first] := by
  obtain ⟨first, others, hlower, hfirst⟩ := lowercase_cases c
  refine ⟨first, others, ?_, hfirst⟩
  simp [decapitalized, hname, hlower]

/-- A decapitalized name is not changed by being decapitalized again. -/
theorem decapitalized_decapitalized : decapitalized (decapitalized name) = decapitalized name := by
  cases hname : name.toList with
  | nil =>
    have hself : decapitalized name = name := by rw [decapitalized, hname]
    rw [hself, hself]
  | cons c rest =>
    obtain ⟨first, others, hlist, hfirst⟩ := toList_decapitalized name hname
    conv_lhs => rw [decapitalized, hlist]
    dsimp only [List.cons_append]
    rw [hfirst, List.singleton_append, ← List.cons_append, ← hlist, String.ofList_toList]

/-- Casing leaves what follows the first character as it is. -/
theorem tail_suffix_capitalized : name.toList.tail <:+ (capitalized name).toList := by
  rcases capitalized_cases name with hself | ⟨first, others, rest, c, hname, hlist, -⟩
  · rw [hself]
    exact List.tail_suffix _
  · rw [hname, hlist]
    exact List.suffix_append _ _

/-- A decapitalized name goes on like the name behind its first letter. -/
theorem tail_suffix_decapitalized : name.toList.tail <:+ (decapitalized name).toList := by
  cases hname : name.toList with
  | nil => exact List.nil_suffix
  | cons c rest =>
    obtain ⟨first, others, hlist, -⟩ := toList_decapitalized name hname
    rw [hlist]
    exact List.suffix_append _ _

/-- Only the empty name is cased to the empty one. -/
theorem capitalized_eq_empty_iff : capitalized name = "" ↔ name = "" := by
  rcases capitalized_cases name with hself | ⟨first, others, rest, c, hname, hlist, -⟩
  · rw [hself]
  · rw [← String.toList_eq_nil_iff, ← String.toList_eq_nil_iff, hname, hlist]
    simp

/-- No name but the empty one is decapitalized to nothing. -/
theorem decapitalized_eq_empty_iff : decapitalized name = "" ↔ name = "" := by
  cases hname : name.toList with
  | nil => rw [decapitalized, hname]
  | cons c rest =>
    obtain ⟨first, others, hlist, -⟩ := toList_decapitalized name hname
    rw [← String.toList_eq_nil_iff, ← String.toList_eq_nil_iff, hname, hlist]
    simp

end

end Text

/-! ## Names with one capitalized form -/

section

variable {name other : String} (h : Text.capitalized name = Text.capitalized other)

include h

namespace Naming

/-- Names with the same capitalized form lead to the same names of types. -/
theorem types_congr :
    contractType name = contractType other ∧ dataType name = dataType other ∧
      metamodelType name = metamodelType other ∧ entityType name = entityType other ∧
      orderType name = orderType other ∧ predicateType name = predicateType other := by
  simp only [contractType, dataType, metamodelType, entityType, orderType, predicateType, h,
    and_self]

/-- Names with the same capitalized form lead to the same types in all. -/
theorem generatedTypes_congr : generatedTypes name = generatedTypes other := by
  obtain ⟨hcontract, hdata, hmetamodel, hentity, horder, hpredicate⟩ := types_congr h
  rw [generatedTypes, hcontract, hdata, hmetamodel, hentity, horder, hpredicate, generatedTypes]

end Naming

namespace Kind

variable (kind : Kind)

/-- A kind of file declares the same types for names with the same capitalized form. -/
theorem declaredTypes_congr : kind.declaredTypes name = kind.declaredTypes other := by
  obtain ⟨hcontract, hdata, hmetamodel, hentity, horder, hpredicate⟩ := Naming.types_congr h
  cases kind <;>
    simp only [declaredTypes, hcontract, hdata, hmetamodel, hentity, horder, hpredicate]

/-- A kind of file is called the same for names with the same capitalized form. -/
theorem fileName_congr : kind.fileName name = kind.fileName other := by
  obtain ⟨hcontract, hdata, hmetamodel, hentity, -⟩ := Naming.types_congr h
  cases kind <;>
    simp only [fileName, stem, hcontract, hdata, hmetamodel, hentity, Naming.vocabularyFile,
      Naming.extensionFile, h]

end Kind

end

/-! ## Entities under another name -/

section

variable {entity : Entity} {other : String}
  (h : Text.capitalized other = Text.capitalized entity.name)

include h

/-- The body of an artifact writes the name of its entity in the capitalized form only. -/
theorem Kind.body_withName (kind : Kind) (options : Options) (attrs : List MappedAttribute) :
    kind.body options { entity with name := other } attrs = kind.body options entity attrs := by
  obtain ⟨hcontract, hdata, hmetamodel, hentity, horder, hpredicate⟩ := Naming.types_congr h
  cases kind with
  | contract => simp only [body, Contract.body, hcontract]
  | dataHolder => simp only [body, DataHolder.body, hcontract, hdata]
  | metamodel =>
    have hline : Metamodel.declarationLine other = Metamodel.declarationLine entity.name := by
      funext handle
      unfold Metamodel.declarationLine
      rw [hentity]
    simp only [body, Metamodel.body, hline, hmetamodel, hentity]
  | persisted => simp only [body, Persisted.body, Persisted.classAnnotations, hentity]
  | vocabulary => simp only [body, Vocabulary.body, horder, hpredicate]
  | extension =>
    have hpath : MappedAttribute.criteriaPath other = MappedAttribute.criteriaPath entity.name := by
      funext mapped
      simp only [MappedAttribute.criteriaPath, hmetamodel]
    have horders : MappedAttribute.orderBranches other =
        MappedAttribute.orderBranches entity.name := by
      funext mapped
      simp only [MappedAttribute.orderBranches, hpath]
    have hpredicates : MappedAttribute.predicateBranches other =
        MappedAttribute.predicateBranches entity.name := by
      funext mapped
      simp only [MappedAttribute.predicateBranches, hpath]
    have horderLine : OrderBranch.line other = OrderBranch.line entity.name := by
      funext branch
      unfold OrderBranch.line
      rw [horder]
    have hpredicateLine : PredicateBranch.line other = PredicateBranch.line entity.name := by
      funext branch
      unfold PredicateBranch.line
      rw [hpredicate]
    simp only [body, Extension.body, Extension.orderBranches, Extension.predicateBranches,
      Extension.criterionFunction, Extension.countFunction, Extension.listFunction,
      Extension.entityCopyFunction, Extension.dataCopyFunction, horders, hpredicates, horderLine,
      hpredicateLine, hcontract, hentity, horder, hpredicate, h]

/-- An entity that is renamed within the same capitalized form has the same files. -/
theorem Kind.sourceFile_withName (kind : Kind) (options : Options) (attrs : List MappedAttribute) :
    kind.sourceFile options { entity with name := other } attrs =
      kind.sourceFile options entity attrs := by
  rw [sourceFile, body_withName h, sourceFile]
  rfl

end

namespace EntitySet

variable {set : EntitySet} {owner : String} {attr : Attribute} {type : MappedType}

/-- What an attribute maps to does not depend on its owner's name, which is there for defects. -/
theorem MapsTo.of_owner (h : set.MapsTo owner attr type) (other : String) :
    set.MapsTo other attr type := by
  cases h with
  | identifier hcolumn => exact .identifier hcolumn
  | version hcolumn => exact .version hcolumn
  | basic hcolumn => exact .basic hcolumn
  | manyToOne hcolumn htarget =>
    refine .manyToOne hcolumn ?_
    rw [resolveTarget_eq] at htarget ⊢
    split at htarget
    · cases htarget
    · split at htarget
      · cases htarget
      · exact htarget

variable {entity : Entity} {attrs : List MappedAttribute} {options : Options} {kind : Kind}
  {file : SourceFile}

/-- An entity that is renamed is mapped as before. -/
theorem mapEntity_withName (h : set.mapEntity entity = .ok attrs) (other : String) :
    set.mapEntity { entity with name := other } = .ok attrs := by
  refine mapEntity_eq_ok_iff.mpr ((mapEntity_eq_ok_iff.mp h).imp ?_)
  intro attr mapped hmapped
  obtain ⟨type, rfl, htype⟩ := mapAttribute_eq_ok_iff.mp hmapped
  exact mapAttribute_eq_ok_iff.mpr ⟨type, rfl, htype.of_owner other⟩

/-- An entity that is renamed within the same capitalized form is emitted as before. -/
theorem emit_withName (entity : Entity) (other : String)
    (hname : Text.capitalized other = Text.capitalized entity.name)
    (h : set.emit options entity kind = .ok file) :
    set.emit options { entity with name := other } kind = .ok file := by
  obtain ⟨attrs, hattrs, rfl⟩ := exists_attrs_of_emit h
  rw [← Kind.sourceFile_withName hname]
  exact emit_of_mapEntity (mapEntity_withName hattrs other) options kind

/-- Names of one capitalized form are the same to an artifact. -/
theorem emit_withName_iff (entity : Entity) (other : String)
    (hname : Text.capitalized other = Text.capitalized entity.name) :
    set.emit options { entity with name := other } kind = .ok file ↔
      set.emit options entity kind = .ok file :=
  ⟨emit_withName { entity with name := other } entity.name hname.symm,
    emit_withName entity other hname⟩

end EntitySet

/-! ## Stability -/

/-- Whether a casing of names changes a cased name no further, leaves what follows the first
character as it is, and empties no name. -/
structure Text.IsStableCasing (casing : String → String) : Prop where
  twice : ∀ name, casing (casing name) = casing name
  tail : ∀ name, name.toList.tail <:+ (casing name).toList
  eq_empty : ∀ name, casing name = "" ↔ name = ""

/-- Both casings are stable. So the types, the files and the sources of an entity are those of an
entity that is declared by the capitalized form of its name. -/
theorem Text.casings_are_stable :
    IsStableCasing capitalized ∧ IsStableCasing decapitalized ∧ ∀ name : String,
      Naming.generatedTypes (capitalized name) = Naming.generatedTypes name ∧
      (∀ kind : Kind, kind.declaredTypes (capitalized name) = kind.declaredTypes name ∧
        kind.fileName (capitalized name) = kind.fileName name) ∧
      ∀ (set : EntitySet) (options : Options) (entity : Entity) (kind : Kind) (file : SourceFile),
        set.emit options { entity with name := capitalized name } kind = .ok file ↔
          set.emit options { entity with name := name } kind = .ok file := by
  refine ⟨⟨capitalized_capitalized, tail_suffix_capitalized, capitalized_eq_empty_iff⟩,
    ⟨decapitalized_decapitalized, tail_suffix_decapitalized, decapitalized_eq_empty_iff⟩,
    fun name => ?_⟩
  have htwice := capitalized_capitalized name
  refine ⟨Naming.generatedTypes_congr htwice, fun kind => ?_,
    fun set options entity kind file => ?_⟩
  · exact ⟨kind.declaredTypes_congr htwice, kind.fileName_congr htwice⟩
  · exact EntitySet.emit_withName_iff { entity with name := name } (capitalized name) htwice

/-- A digraph letter has a title case of its own, which is kept. -/
example : Text.capitalized "\u01c6ep" = "\u01c5ep" ∧ Text.capitalized "\u01c5ep" = "\u01c5ep" := by
  decide

end PersistenceLayer
