import PersistenceLayer.Proofs.DeclaredTypes
import PersistenceLayer.Proofs.ImportedTypes

/-!
# Unambiguous types

The simple name of a type denotes what is imported by that name, and what the
run declares by it in the package of the file. Entities are told apart by their
whole names and by the paths of their artifacts, whereas an import brings only a
cased name into a file. So names stay unambiguous as long as the targets of an
entity's relationships that lie in other packages are told apart by more than
the case of a letter, both among each other and from the entity's neighbours, and
every target from the entities of its own package. Packages are compared as files
state them: blank ones are the same.
-/

namespace PersistenceLayer

open Text (isWord)

/-! ## Qualified names -/

namespace Naming

/-- The segments of a qualified name end with the simple name. -/
theorem splitAt_qualified (packageName : String) {type : String} (htype : isWord type = true) :
    Text.splitAt '.' (qualified (packageName == "") packageName type) =
      (if packageName = "" then [] else Text.splitAt '.' packageName) ++ [type] := by
  have hfree : '.' ∉ type.toList := fun hmem =>
    absurd ((Text.isWord_iff.mp htype).2 _ hmem) (by decide)
  have hsplit : Text.splitAt '.' type = [type] := by
    rw [Text.splitAt, Text.segments_of_not_mem hfree]
    simp
  rw [qualified]
  by_cases hpackage : packageName = ""
  · simp [hpackage, hsplit]
  · rw [if_neg (by simpa using hpackage), if_neg hpackage]
    have happend : (packageName ++ "." ++ type).toList =
        packageName.toList ++ '.' :: type.toList := by simp
    rw [Text.splitAt, happend, Text.segments_append, List.map_append]
    exact congrArg _ hsplit

/-- A qualified name says which package and which type it is made of. -/
theorem qualified_inj {first second type other : String} (htype : isWord type = true)
    (hother : isWord other = true)
    (h : qualified (first == "") first type = qualified (second == "") second other) :
    first = second ∧ type = other := by
  have hsplit := congrArg (Text.splitAt '.') h
  rw [splitAt_qualified first htype, splitAt_qualified second hother] at hsplit
  obtain ⟨hpackage, hlast⟩ := List.append_inj' hsplit rfl
  obtain rfl := List.singleton_inj.mp hlast
  refine ⟨?_, rfl⟩
  by_cases hfirst : first = "" <;> by_cases hsecond : second = ""
  · rw [hfirst, hsecond]
  · rw [if_pos hfirst, if_neg hsecond] at hpackage
    exact absurd hpackage.symm (Text.splitAt_ne_nil '.' second)
  · rw [if_neg hfirst, if_pos hsecond] at hpackage
    exact absurd hpackage (Text.splitAt_ne_nil '.' first)
  · simpa [qualified, hfirst, hsecond, String.append_left_inj] using h

end Naming

/-- The qualified name of a type that is generated for an entity, by the package that its files
state. -/
theorem Entity.qualified_eq (entity : Entity) (type : String) :
    entity.qualified type = Naming.qualified (statedPackage entity.packageName == "")
      (statedPackage entity.packageName) type := by
  rw [qualified, statedPackage]
  by_cases hblank : Text.isBlank entity.packageName = true
  · simp [hblank, Naming.qualified]
  · have hne : entity.packageName ≠ "" := by
      rintro hempty
      rw [hempty] at hblank
      exact hblank (by decide)
    simp [hblank, Naming.qualified, hne]

/-- Statements that import different names are different. -/
theorem Language.importLine_inj {language : Language} {first second : String} :
    language.importLine first = language.importLine second ↔ first = second := by
  rw [importLine, importLine, String.append_left_inj, String.append_right_inj]

/-! ## Imports of types -/

/-- Whether a file imports a type from a package; there is no package in front of the type if the
package is empty. -/
def SourceFile.ImportsType (file : SourceFile) (packageName type : String) : Prop :=
  isWord type = true ∧ file.language.importLine
    (Naming.qualified (packageName == "") packageName type) ∈ file.imports.lines

/-- The simple names of libraries are different, and none of them is one of a generated type. -/
theorem libraryImports_distinct : ∀ name ∈ libraryImports,
    ∀ type ∈ (Text.splitAt '.' name).getLast?, isWord type = true →
      (∀ other ∈ libraryImports, (Text.splitAt '.' other).getLast? = some type → other = name) ∧
        type.toList.head? ≠ some 'I' ∧
        ∀ back ∈ ["Data", "Entity", "Order", "Predicate", "_"], ¬ back.toList <:+ type.toList := by
  decide +kernel

/-- A library brings no name of a generated type into a file. -/
theorem notMem_generatedTypes_of_library {name type : String} (hname : name ∈ libraryImports)
    (hsimple : (Text.splitAt '.' name).getLast? = some type) (htype : isWord type = true)
    (entity : String) : type ∉ Naming.generatedTypes entity := by
  obtain ⟨-, hhead, hends⟩ := libraryImports_distinct name hname type hsimple htype
  have hne (front : String) {back : String}
      (hback : back ∈ ["Data", "Entity", "Order", "Predicate", "_"]) : front ++ back ≠ type :=
    Text.append_ne_of_not_suffix (hends back hback)
  have hcontract : Naming.contractType entity ≠ type := by
    rintro rfl
    exact hhead (by simp [Naming.contractType])
  have hdata : Naming.dataType entity ≠ type := hne _ (by decide)
  have hmetamodel : Naming.metamodelType entity ≠ type := hne _ (by decide)
  have hentity : Naming.entityType entity ≠ type := hne _ (by decide)
  have horder : Naming.orderType entity ≠ type := hne _ (by decide)
  have hpredicate : Naming.predicateType entity ≠ type := hne _ (by decide)
  simp [Naming.generatedTypes, hcontract.symm, hdata.symm, hmetamodel.symm, hentity.symm,
    horder.symm, hpredicate.symm]

/-! ## Targets -/

/-- The types by which an artifact refers to the target of a relationship. -/
def Kind.targetTypes (kind : Kind) (target : String) : List String :=
  if kind = .extension then [Naming.entityType target, Naming.metamodelType target]
  else [Naming.entityType target]

namespace Kind

variable {kind : Kind} {target type : String}

/-- A target is referred to by its persisted class, and in an extension also by its metamodel. -/
theorem mem_targetTypes_iff : type ∈ kind.targetTypes target ↔
    type = Naming.entityType target ∨ kind = .extension ∧ type = Naming.metamodelType target := by
  rw [targetTypes]
  split <;> simp [*]

/-- A target is referred to by its persisted class. -/
theorem entityType_mem_targetTypes (kind : Kind) (target : String) :
    Naming.entityType target ∈ kind.targetTypes target :=
  mem_targetTypes_iff.mpr (.inl rfl)

/-- A target is referred to by types that are generated for it. -/
theorem mem_generatedTypes_of_mem_targetTypes (h : type ∈ kind.targetTypes target) :
    type ∈ Naming.generatedTypes target := by
  obtain rfl | ⟨-, rfl⟩ := mem_targetTypes_iff.mp h <;> simp [Naming.generatedTypes]

variable (htarget : Text.isIdentifier target = true)

include htarget

/-- A target is referred to by types that are called by one word. -/
theorem isWord_of_mem_targetTypes (h : type ∈ kind.targetTypes target) : isWord type = true := by
  obtain rfl | ⟨-, rfl⟩ := mem_targetTypes_iff.mp h
  · exact Naming.isWord_entityType htarget
  · exact Naming.isWord_metamodelType htarget

variable {other : String} (hother : Text.isIdentifier other = true)

include hother

/-- A type by which a target is referred to is called like one that is generated for an entity if
the names are the same up to the case of the first letter, or if that one is the contract. -/
theorem mem_generatedTypes_iff (h : type ∈ kind.targetTypes target) :
    type ∈ Naming.generatedTypes other ↔
      Text.SameUpToInitial target other ∨ type = Naming.contractType other := by
  obtain rfl | ⟨-, rfl⟩ := mem_targetTypes_iff.mp h
  · exact Naming.entityType_mem_generatedTypes_iff htarget hother
  · exact Naming.metamodelType_mem_generatedTypes_iff htarget hother

/-- Two targets are referred to by the same type only if their names are the same up to the case of
the first letter. -/
theorem sameUpToInitial_of_mem_targetTypes (h : type ∈ kind.targetTypes target)
    (h' : type ∈ kind.targetTypes other) : Text.SameUpToInitial target other := by
  have hne (first second : String) : Naming.entityType first ≠ Naming.metamodelType second :=
    Text.append_ne_append _ _ (by decide : _ = some 'y') (by decide : _ = some '_') (by decide)
  obtain rfl | ⟨-, rfl⟩ := mem_targetTypes_iff.mp h <;>
    obtain heq | ⟨-, heq⟩ := mem_targetTypes_iff.mp h'
  · exact (Naming.entityType_eq_iff htarget hother).mp heq
  · exact absurd heq (hne _ _)
  · exact absurd heq.symm (hne _ _)
  · exact (Naming.metamodelType_eq_iff htarget hother).mp heq

end Kind

namespace EntitySet

/-- Whether an entity has a relationship to one that lies in another package. -/
structure HasForeignTarget (set : EntitySet) (entity target : Entity) : Prop where
  relationship : set.HasRelationship entity target
  package_ne : target.packageName ≠ entity.packageName

variable {set : EntitySet} {options : Options} {entity : Entity} {kind : Kind} {file : SourceFile}

/-- The names in the import statements of a file. -/
theorem mem_lines_iff (h : set.emit options entity kind = .ok file) {name : String} :
    file.language.importLine name ∈ file.imports.lines ↔ set.Imports options entity kind name := by
  obtain ⟨attrs, hattrs, rfl⟩ := exists_attrs_of_emit h
  simp [Kind.sourceFile, SourceFile.ofEntity, Text.LineSet.mem_ofList, Language.importLine_inj,
    mem_importedNames_iff hattrs]

/-- A file imports the types by which it refers to a target in another package. -/
theorem importsType_of_foreign (hnames : set.HasIdentifierNames)
    (h : set.emit options entity kind = .ok file) {target : Entity} {type : String}
    (htarget : set.HasForeignTarget entity target) (htype : type ∈ kind.targetTypes target.name) :
    file.ImportsType (statedPackage target.packageName) type := by
  obtain ⟨hrelationship, hpackage⟩ := htarget
  refine ⟨Kind.isWord_of_mem_targetTypes (hnames _ hrelationship.mem).1 htype, ?_⟩
  rw [mem_lines_iff h, ← Entity.qualified_eq]
  obtain rfl | ⟨hkind, rfl⟩ := Kind.mem_targetTypes_iff.mp htype
  · exact .entityType hrelationship hpackage
  · exact .metamodelType hkind hrelationship hpackage

/-- What a file imports comes from a library or from a target in another package. -/
theorem importsType_cases (hnames : set.HasIdentifierNames)
    (h : set.emit options entity kind = .ok file) {packageName type : String}
    (himports : file.ImportsType packageName type) :
    Naming.qualified (packageName == "") packageName type ∈ libraryImports ∨
      ∃ target, set.HasForeignTarget entity target ∧
        packageName = statedPackage target.packageName ∧ type ∈ kind.targetTypes target.name := by
  obtain ⟨htype, hline⟩ := himports
  have hforeign {target : Entity} {typeName : String}
      (htarget : set.HasForeignTarget entity target)
      (htypeName : typeName ∈ kind.targetTypes target.name)
      (hname : Naming.qualified (packageName == "") packageName type = target.qualified typeName) :
      ∃ target, set.HasForeignTarget entity target ∧
        packageName = statedPackage target.packageName ∧ type ∈ kind.targetTypes target.name := by
    rw [Entity.qualified_eq] at hname
    obtain ⟨rfl, rfl⟩ := Naming.qualified_inj htype
      (Kind.isWord_of_mem_targetTypes (hnames _ htarget.relationship.mem).1 htypeName) hname
    exact ⟨target, htarget, rfl, htypeName⟩
  have hname := (mem_lines_iff h).mp hline
  generalize hqualified : Naming.qualified (packageName == "") packageName type = name at hname ⊢
  cases hname with
  | fixed hfixed => exact .inl (Kind.mem_libraryImports_of_fixed hfixed)
  | scalar _ _ hscalar => exact .inl (Scalar.mem_libraryImports hscalar)
  | entityType htarget hpackage =>
    exact .inr (hforeign ⟨htarget, hpackage⟩ (kind.entityType_mem_targetTypes _) hqualified)
  | metamodelType hkind htarget hpackage =>
    exact .inr (hforeign ⟨htarget, hpackage⟩ (Kind.mem_targetTypes_iff.mpr (.inr ⟨hkind, rfl⟩))
      hqualified)

/-! ## Ambiguity -/

/-- Whether the targets of an entity in other packages are told apart, unless they lie in the same
package, by more than the case of the first letter. -/
def HasTargetsApart (set : EntitySet) (entity : Entity) : Prop :=
  ∀ first second, set.HasForeignTarget entity first → set.HasForeignTarget entity second →
    Text.SameUpToInitial first.name second.name →
      statedPackage first.packageName = statedPackage second.packageName

/-- Whether the targets of an entity in other packages are told apart from the entities of its own
package by more than the case of the first letter, and not called like the contract of one. -/
def HasNeighboursApart (set : EntitySet) (entity : Entity) (kind : Kind) : Prop :=
  ∀ target, set.HasForeignTarget entity target → ∀ neighbour ∈ set.entities,
    statedPackage neighbour.packageName = statedPackage entity.packageName →
      ¬ Text.SameUpToInitial target.name neighbour.name ∧
        Naming.contractType neighbour.name ∉ kind.targetTypes target.name

/-- Whether the targets of an entity are told apart from the other entities of their own packages by
more than the case of the first letter, and not called like the contract of one. -/
def HasTargetsAlone (set : EntitySet) (entity : Entity) (kind : Kind) : Prop :=
  ∀ target, set.HasRelationship entity target → ∀ other ∈ set.entities, other ≠ target →
    statedPackage other.packageName = statedPackage target.packageName →
      ¬ Text.SameUpToInitial target.name other.name ∧
        Naming.contractType other.name ∉ kind.targetTypes target.name

end EntitySet

/-- Whether a file imports each simple name from one package only. -/
def SourceFile.ImportsFromOnePackage (file : SourceFile) : Prop :=
  ∀ type first second, file.ImportsType first type → file.ImportsType second type → first = second

namespace EntitySet

/-- Whether a file imports no simple name that the run declares in the file's own package. -/
def ImportsNoNeighbour (set : EntitySet) (options : Options) (file : SourceFile) : Prop :=
  ∀ packageName type, file.ImportsType packageName type →
    ¬ set.Declares options (statedPackage file.packageName) type

/-- Whether the types by which an artifact refers to a target are declared in the target's package
for no other entity. -/
def DeclaresTargetsOnce (set : EntitySet) (options : Options) (entity : Entity) (kind : Kind) :
    Prop :=
  ∀ target, set.HasRelationship entity target → ∀ type ∈ kind.targetTypes target.name,
    ∀ other ∈ set.entities,
      set.DeclaresFor options other (statedPackage target.packageName) type → other = target

variable {isLetter : Char → Bool} {set : EntitySet} {options : Options} {entity : Entity}
  {kind : Kind} {file : SourceFile}

/-- A file lies in the package of its entity. -/
theorem packageName_of_emit (h : set.emit options entity kind = .ok file) :
    file.packageName = entity.packageName := by
  obtain ⟨attrs, -, rfl⟩ := exists_attrs_of_emit h
  rfl

/-- Simple names are imported from one package if targets are kept apart. -/
theorem importsFromOnePackage_iff (hnames : set.HasIdentifierNames)
    (h : set.emit options entity kind = .ok file) :
    file.ImportsFromOnePackage ↔ set.HasTargetsApart entity := by
  constructor
  · intro hunique first second hfirst hsecond hsame
    have htype : Naming.entityType first.name = Naming.entityType second.name :=
      (Naming.entityType_eq_iff (hnames _ hfirst.relationship.mem).1
        (hnames _ hsecond.relationship.mem).1).mpr hsame
    exact hunique _ _ _
      (importsType_of_foreign hnames h hfirst (kind.entityType_mem_targetTypes first.name))
      (importsType_of_foreign hnames h hsecond
        (htype ▸ kind.entityType_mem_targetTypes second.name))
  · intro hapart type first second hfirst hsecond
    have hword := hfirst.1
    have hlast (packageName : String) :
        (Text.splitAt '.' (Naming.qualified (packageName == "") packageName type)).getLast? =
          some type := by
      rw [Naming.splitAt_qualified packageName hword, List.getLast?_concat]
    -- A type of a library is not one that is generated, so both imports are of the same sort.
    have hlibrary {packageName : String} {target : Entity}
        (hname : Naming.qualified (packageName == "") packageName type ∈ libraryImports)
        (htype : type ∈ kind.targetTypes target.name) : False :=
      notMem_generatedTypes_of_library hname (hlast packageName) hword target.name
        (Kind.mem_generatedTypes_of_mem_targetTypes htype)
    obtain hfirst | ⟨target, htarget, rfl, htype⟩ := importsType_cases hnames h hfirst <;>
      obtain hsecond | ⟨other, hother, rfl, htype'⟩ := importsType_cases hnames h hsecond
    · have hsame := (libraryImports_distinct _ hfirst type (hlast first) hword).1 _ hsecond
        (hlast second)
      exact (Naming.qualified_inj hword hword hsame).1.symm
    · exact (hlibrary hfirst htype').elim
    · exact (hlibrary hsecond htype).elim
    · exact hapart target other htarget hother (Kind.sameUpToInitial_of_mem_targetTypes
        (hnames _ htarget.relationship.mem).1 (hnames _ hother.relationship.mem).1 htype htype')

section Declared

variable (hvalid : set.isValid = true) (hfull : options.onlyData = false)
  (hplain : ∀ entity ∈ set.entities, entity.HasPlainNames isLetter)

include hvalid hfull hplain

/-- No simple name of the own package is imported if targets and neighbours are kept apart. -/
theorem importsNoNeighbour_iff (h : set.emit options entity kind = .ok file) :
    set.ImportsNoNeighbour options file ↔ set.HasNeighboursApart entity kind := by
  have hnames := hasIdentifierNames_of_isValid hvalid
  rw [ImportsNoNeighbour, packageName_of_emit h]
  simp only [declares_iff hvalid hfull hplain, not_exists, not_and]
  constructor
  · intro hfree target htarget neighbour hneighbour hpackage
    have hnotMem (type : String) (htype : type ∈ kind.targetTypes target.name) :
        type ∉ Naming.generatedTypes neighbour.name :=
      hfree _ _ (importsType_of_foreign hnames h htarget htype) neighbour hneighbour hpackage
    have hiff {type : String} (htype : type ∈ kind.targetTypes target.name) :=
      Kind.mem_generatedTypes_iff (hnames _ htarget.relationship.mem).1 (hnames _ hneighbour).1
        htype
    refine ⟨fun hsame => ?_, fun hcontract => ?_⟩
    · have htype := kind.entityType_mem_targetTypes target.name
      exact hnotMem _ htype ((hiff htype).mpr (.inl hsame))
    · exact hnotMem _ hcontract ((hiff hcontract).mpr (.inr rfl))
  · intro hapart packageName type himports neighbour hneighbour hpackage hmem
    obtain hname | ⟨target, htarget, rfl, htype⟩ := importsType_cases hnames h himports
    · refine notMem_generatedTypes_of_library hname ?_ himports.1 _ hmem
      rw [Naming.splitAt_qualified packageName himports.1, List.getLast?_concat]
    · obtain ⟨hsame, hcontract⟩ := hapart target htarget neighbour hneighbour hpackage
      obtain hsame' | rfl := (Kind.mem_generatedTypes_iff (hnames _ htarget.relationship.mem).1
        (hnames _ hneighbour).1 htype).mp hmem
      · exact hsame hsame'
      · exact hcontract htype

/-- The types of targets are declared once if targets are kept apart from the other entities of
their packages. -/
theorem declaresTargetsOnce_iff :
    set.DeclaresTargetsOnce options entity kind ↔ set.HasTargetsAlone entity kind := by
  have hnames := hasIdentifierNames_of_isValid hvalid
  have hdeclares {target other : Entity} (htarget : target ∈ set.entities)
      (hother : other ∈ set.entities) {type : String}
      (htype : type ∈ kind.targetTypes target.name) :
      set.DeclaresFor options other (statedPackage target.packageName) type ↔
        statedPackage other.packageName = statedPackage target.packageName ∧
          (Text.SameUpToInitial target.name other.name ∨
            type = Naming.contractType other.name) := by
    rw [declaresFor_iff hvalid hfull hother (hplain other hother),
      Kind.mem_generatedTypes_iff (hnames target htarget).1 (hnames other hother).1 htype]
  constructor
  · intro honce target htarget other hother hne hpackage
    refine ⟨fun hsame => hne ?_, fun hcontract => hne ?_⟩
    · have htype := kind.entityType_mem_targetTypes target.name
      exact honce target htarget _ htype other hother
        ((hdeclares htarget.mem hother htype).mpr ⟨hpackage, .inl hsame⟩)
    · exact honce target htarget _ hcontract other hother
        ((hdeclares htarget.mem hother hcontract).mpr ⟨hpackage, .inr rfl⟩)
  · intro halone target htarget type htype other hother hdeclared
    obtain ⟨hpackage, htypes⟩ := (hdeclares htarget.mem hother htype).mp hdeclared
    by_contra hne
    obtain ⟨hsame, hcontract⟩ := halone target htarget other hother hne hpackage
    rcases htypes with hsame' | rfl
    · exact hsame hsame'
    · exact hcontract htype

end Declared

/-! ## What names denote -/

/-- Whether a simple name in a file can mean a type of a package: one that is imported, or one that
the run declares in the file's own package. -/
def Denotes (set : EntitySet) (options : Options) (file : SourceFile) (type packageName : String) :
    Prop :=
  file.ImportsType packageName type ∨
    packageName = statedPackage file.packageName ∧ set.Declares options packageName type

/-- Whether the names of types in an artifact of an entity mean what they are written for. -/
structure TypesResolve (set : EntitySet) (options : Options) (entity : Entity) (kind : Kind)
    (file : SourceFile) : Prop where
  /-- A type that refers to a target denotes that of the target's package. -/
  targets : ∀ target, set.HasRelationship entity target →
    ∀ type ∈ kind.targetTypes target.name, ∀ packageName,
      set.Denotes options file type packageName ↔
        packageName = statedPackage target.packageName
  /-- A type that is generated for the entity denotes that of its own package. -/
  own : ∀ type ∈ Naming.generatedTypes entity.name, ∀ packageName,
    set.Denotes options file type packageName ↔ packageName = statedPackage entity.packageName
  /-- The body mentions no other persisted classes and metamodels. -/
  mentions : ∀ type other, type ∈ file.mentions →
    type = Naming.entityType other ∨ type = Naming.metamodelType other →
      type ∈ Naming.generatedTypes entity.name ∨
        ∃ target, set.HasRelationship entity target ∧ type ∈ kind.targetTypes target.name
  /-- A type that refers to a target is declared in the target's package for the target, and for no
  other entity. -/
  unique : ∀ target, set.HasRelationship entity target → ∀ type ∈ kind.targetTypes target.name,
    ∀ other ∈ set.entities,
      set.DeclaresFor options other (statedPackage target.packageName) type ↔ other = target

section Denotes

variable (hneighbour : set.ImportsNoNeighbour options file)

include hneighbour

/-- What is declared in the own package is what its name denotes. -/
theorem denotes_iff_of_declares {type : String}
    (h : set.Declares options (statedPackage file.packageName) type) {packageName : String} :
    set.Denotes options file type packageName ↔ packageName = statedPackage file.packageName := by
  constructor
  · rintro (himports | ⟨hpackage, -⟩)
    · exact absurd h (hneighbour _ _ himports)
    · exact hpackage
  · rintro rfl
    exact .inr ⟨rfl, h⟩

/-- What is imported is what its name denotes. -/
theorem denotes_iff_of_imports (hone : file.ImportsFromOnePackage) {type imported : String}
    (h : file.ImportsType imported type) {packageName : String} :
    set.Denotes options file type packageName ↔ packageName = imported := by
  constructor
  · rintro (himports | ⟨rfl, hdeclares⟩)
    · exact hone _ _ _ himports h
    · exact absurd hdeclares (hneighbour _ _ h)
  · rintro rfl
    exact .inl h

end Denotes

/-- Names that are imported from one package each, and not declared in the own one, mean what they
are written for, if the types of targets are declared once. -/
theorem typesResolve (hvalid : set.isValid = true) (hfull : options.onlyData = false)
    (hplain : ∀ entity ∈ set.entities, entity.HasPlainNames isLetter)
    (hentity : entity ∈ set.entities) (hemit : set.emit options entity kind = .ok file)
    (hone : file.ImportsFromOnePackage) (hneighbour : set.ImportsNoNeighbour options file)
    (honce : set.DeclaresTargetsOnce options entity kind) :
    TypesResolve set options entity kind file := by
  have hnames := hasIdentifierNames_of_isValid hvalid
  have hpackage := packageName_of_emit hemit
  have hdeclaresFor {target : Entity} (htarget : target ∈ set.entities) {type : String}
      (htype : type ∈ Naming.generatedTypes target.name) :
      set.DeclaresFor options target (statedPackage target.packageName) type :=
    (declaresFor_iff hvalid hfull htarget (hplain target htarget)).mpr ⟨rfl, htype⟩
  constructor
  case targets =>
    intro target htarget type htype packageName
    by_cases hown : target.packageName = entity.packageName
    · have hdeclares : set.Declares options (statedPackage file.packageName) type := by
        rw [hpackage, ← hown]
        exact ⟨target, htarget.mem, hdeclaresFor htarget.mem
          (Kind.mem_generatedTypes_of_mem_targetTypes htype)⟩
      rw [denotes_iff_of_declares hneighbour hdeclares, hpackage, hown]
    · exact denotes_iff_of_imports hneighbour hone
        (importsType_of_foreign hnames hemit ⟨htarget, hown⟩ htype)
  case own =>
    intro type htype packageName
    have hdeclares : set.Declares options (statedPackage file.packageName) type := by
      rw [hpackage]
      exact ⟨entity, hentity, hdeclaresFor hentity htype⟩
    rw [denotes_iff_of_declares hneighbour hdeclares, hpackage]
  case mentions =>
    intro type other hmentioned htype
    obtain ⟨attrs, hattrs, rfl⟩ := exists_attrs_of_emit hemit
    have hkind := Kind.mentionedType_of_mem_mentions options (hnames entity hentity).1
      (hnames.mapped hentity hattrs)
      (fun _ => (hplain entity hentity).quotesOnOneLine hattrs) hmentioned
    simp only [Kind.mem_targetTypes_iff]
    exact exists_target_of_mentioned_type hattrs htype hkind
  case unique =>
    intro target htarget type htype other hother
    refine ⟨honce target htarget type htype other hother, ?_⟩
    rintro rfl
    exact hdeclaresFor hother (Kind.mem_generatedTypes_of_mem_targetTypes htype)

/-- The types in each artifact of a full run are unambiguous exactly if targets in other packages
are kept apart, among each other and from the entity's neighbours, and all targets are kept apart
from the other entities of their packages. All but the first of this is said of runs whose names
between quotes are plain. Packages that are written differently count as different, as those formed
from identifiers are. -/
theorem types_unambiguous_iff {artifacts : List Artifact} (isLetter : Char → Bool)
    (hvalid : set.isValid = true) (hfull : options.onlyData = false)
    (hrender : set.renderAll options = .ok artifacts) (hentity : entity ∈ set.entities)
    (kind : Kind) :
    ∃ file, Generates set options artifacts entity kind file ∧
      (file.ImportsFromOnePackage ↔ set.HasTargetsApart entity) ∧
      ((∀ entity ∈ set.entities, entity.HasPlainNames isLetter) →
        (set.ImportsNoNeighbour options file ↔ set.HasNeighboursApart entity kind) ∧
        (set.DeclaresTargetsOnce options entity kind ↔ set.HasTargetsAlone entity kind) ∧
        (file.ImportsFromOnePackage → set.ImportsNoNeighbour options file →
          set.DeclaresTargetsOnce options entity kind →
            TypesResolve set options entity kind file)) := by
  obtain ⟨attrs, -, hgenerates⟩ := exists_generates hfull hrender hentity
  have hemit := (hgenerates kind).emitted
  exact ⟨_, hgenerates kind,
    importsFromOnePackage_iff (hasIdentifierNames_of_isValid hvalid) hemit, fun hplain =>
      ⟨importsNoNeighbour_iff hvalid hfull hplain hemit,
        declaresTargetsOnce_iff hvalid hfull hplain,
        typesResolve hvalid hfull hplain hentity hemit⟩⟩

/-- Teams and their members have different names and lie in different packages, and neither is
called like a contract. -/
theorem separate_teamAndMember (kind : Kind) : ∀ first ∈ teamAndMember.entities,
    ∀ second ∈ teamAndMember.entities,
      (Text.SameUpToInitial first.name second.name → first = second) ∧
        (statedPackage first.packageName = statedPackage second.packageName → first = second) ∧
        Naming.contractType second.name ∉ kind.targetTypes first.name := by
  have htails : ∀ first ∈ teamAndMember.entities, ∀ second ∈ teamAndMember.entities,
      (first.name.toList.tail = second.name.toList.tail → first = second) ∧
        (statedPackage first.packageName = statedPackage second.packageName → first = second) ∧
        Naming.contractType second.name ∉ kind.targetTypes first.name := by
    cases kind <;> decide
  intro first hfirst second hsecond
  refine (htails first hfirst second hsecond).imp_left fun htail hsame => htail ?_
  obtain ⟨c, d, rest, hfirstName, hsecondName, -⟩ := hsame
  rw [hfirstName, hsecondName]
  rfl

/-- Types in the artifacts of teams and their members are unambiguous. -/
theorem types_unambiguous_teamAndMember :
    teamAndMember.isValid = true ∧
      (∀ entity ∈ teamAndMember.entities, entity.HasPlainNames Char.isAlpha) ∧
      ∃ artifacts, teamAndMember.renderAll {} = .ok artifacts ∧
        ∀ entity ∈ teamAndMember.entities, ∀ kind, ∃ file,
          Generates teamAndMember {} artifacts entity kind file ∧
          file.ImportsFromOnePackage ∧ teamAndMember.ImportsNoNeighbour {} file ∧
          teamAndMember.DeclaresTargetsOnce {} entity kind ∧
          TypesResolve teamAndMember {} entity kind file := by
  have hvalid : teamAndMember.isValid = true := by decide
  have hplain := teamAndMember.hasPlainNames Char.isAlpha
  obtain ⟨artifacts, hrender⟩ := teamAndMember.exists_renderAll
  refine ⟨hvalid, hplain, artifacts, hrender, fun entity hentity kind => ?_⟩
  obtain ⟨file, hgenerates, hone, hrest⟩ :=
    types_unambiguous_iff Char.isAlpha hvalid rfl hrender hentity kind
  obtain ⟨hneighbour, honce, hresolve⟩ := hrest hplain
  have hseparate := separate_teamAndMember kind
  have hone : file.ImportsFromOnePackage := by
    refine hone.mpr fun first second hfirst hsecond hsame => ?_
    rw [(hseparate first hfirst.relationship.mem second hsecond.relationship.mem).1 hsame]
  have hneighbour : teamAndMember.ImportsNoNeighbour {} file := by
    refine hneighbour.mpr fun target htarget neighbour hmem hpackage => ?_
    obtain rfl := (hseparate neighbour hmem entity hentity).2.1 hpackage
    obtain ⟨hsame, -, hcontract⟩ := hseparate target htarget.relationship.mem neighbour hmem
    exact ⟨fun h => htarget.package_ne (congrArg Entity.packageName (hsame h)), hcontract⟩
  have honce : teamAndMember.DeclaresTargetsOnce {} entity kind := by
    refine honce.mpr fun target htarget other hother hne hpackage => ?_
    exact absurd ((hseparate other hother target htarget.mem).2.1 hpackage) hne
  exact ⟨file, hgenerates, hone, hneighbour, honce, hresolve hone hneighbour honce⟩

end EntitySet

namespace namesakes

/-- A guest in some package. -/
def guest (packageName : String) : Entity :=
  { name := "User", packageName := packageName,
    attributes := [{ name := "id", columnType := some (.identifier .long true) }] }

/-- A host with the cased name of a guest, who refers to one. -/
def host (packageName : String) : Entity :=
  { name := "user", packageName := packageName,
    attributes :=
      [{ name := "id", columnType := some (.identifier .long true) },
        { name := "guest", columnType := some (.manyToOne "User") }] }

/-- A team that refers to both. -/
def team : Entity :=
  { name := "team", packageName := "a",
    attributes :=
      [{ name := "id", columnType := some (.identifier .long true) },
        { name := "host", columnType := some (.manyToOne "user") },
        { name := "guest", columnType := some (.manyToOne "User") }] }

end namesakes

open namesakes (team host guest)

/-- A team, its host and its guest, whose names differ in the case of the first letter only, in some
packages. -/
def namesakes (hostPackage guestPackage : String) : EntitySet where
  entities := [team, host hostPackage, guest guestPackage]
  names_nodup := by simp [team, host, guest]
  attributes_nodup := by simp [team, host, guest, Entity.attributeNames]

namespace EntitySet

section Namesakes

variable {hostPackage guestPackage : String}

/-- The team refers to host and guest, and the host to the guest. -/
theorem hasRelationship_namesakes :
    (namesakes hostPackage guestPackage).HasRelationship team (host hostPackage) ∧
      (namesakes hostPackage guestPackage).HasRelationship team (guest guestPackage) ∧
      (namesakes hostPackage guestPackage).HasRelationship (host hostPackage)
        (guest guestPackage) := by
  refine ⟨⟨by simp [namesakes], ?_⟩, ⟨by simp [namesakes], ?_⟩, ⟨by simp [namesakes], ?_⟩⟩
  · exact ⟨{ name := "host", columnType := some (.manyToOne "user") }, by simp [team], rfl⟩
  · exact ⟨{ name := "guest", columnType := some (.manyToOne "User") }, by simp [team], rfl⟩
  · exact ⟨{ name := "guest", columnType := some (.manyToOne "User") }, by simp [host], rfl⟩

/-- No names are put between quotes. -/
theorem hasPlainNames_namesakes :
    ∀ entity ∈ (namesakes hostPackage guestPackage).entities,
      entity.HasPlainNames Char.isAlpha := by
  have hquoted : ∀ entity ∈ (namesakes hostPackage guestPackage).entities,
      entity.quotedNames = [] := by
    simp only [namesakes, List.forall_mem_cons, List.not_mem_nil, IsEmpty.forall_iff, implies_true,
      and_true]
    exact ⟨rfl, rfl, rfl⟩
  intro entity hentity name hname
  rw [hquoted entity hentity] at hname
  cases hname

end Namesakes

/-- In packages of different names, the artifacts of the team import one simple name from two
packages, and those of the host import one that its own package declares. -/
theorem imports_namesakes {artifacts : List Artifact}
    (hrender : (namesakes "b" "c").renderAll {} = .ok artifacts) (kind : Kind) :
    (∃ file, Generates (namesakes "b" "c") {} artifacts team kind file ∧
      file.ImportsType "b" "UserEntity" ∧ file.ImportsType "c" "UserEntity") ∧
    ∃ file, Generates (namesakes "b" "c") {} artifacts (host "b") kind file ∧
      file.ImportsType "c" "UserEntity" ∧ statedPackage file.packageName = "b" ∧
      (namesakes "b" "c").Declares {} "b" "UserEntity" := by
  have hvalid : (namesakes "b" "c").isValid = true := by decide
  have hnames := hasIdentifierNames_of_isValid hvalid
  have hteam : team ∈ (namesakes "b" "c").entities := by simp [namesakes]
  have hhost : host "b" ∈ (namesakes "b" "c").entities := by simp [namesakes]
  obtain ⟨htoHost, htoGuest, hhostToGuest⟩ := @hasRelationship_namesakes "b" "c"
  have htypes : "UserEntity" ∈ kind.targetTypes (host "b").name ∧
      "UserEntity" ∈ kind.targetTypes (guest "c").name := by
    cases kind <;> decide
  have hb : statedPackage (host "b").packageName = "b" := by decide
  have hc : statedPackage (guest "c").packageName = "c" := by decide
  constructor
  · obtain ⟨attrs, -, hgenerates⟩ := exists_generates rfl hrender hteam
    have hemit := (hgenerates kind).emitted
    exact ⟨_, hgenerates kind,
      hb ▸ importsType_of_foreign hnames hemit ⟨htoHost, by decide⟩ htypes.1,
      hc ▸ importsType_of_foreign hnames hemit ⟨htoGuest, by decide⟩ htypes.2⟩
  · obtain ⟨attrs, -, hgenerates⟩ := exists_generates rfl hrender hhost
    have hemit := (hgenerates kind).emitted
    exact ⟨_, hgenerates kind,
      hc ▸ importsType_of_foreign hnames hemit ⟨hhostToGuest, by decide⟩ htypes.2, hb,
      (declares_iff hvalid rfl hasPlainNames_namesakes).mpr ⟨_, hhost, hb, by decide⟩⟩

/-- In packages that are blank, but written differently, the targets of the team in other packages
are kept apart from each other, and from the team itself. -/
theorem apart_namesakes (kind : Kind) : (namesakes "" " ").HasTargetsApart team ∧
    (namesakes "" " ").HasNeighboursApart team kind := by
  have htargets : ∀ target, (namesakes "" " ").HasForeignTarget team target →
      statedPackage target.packageName = "" ∧ target.name.toList.tail = ['s', 'e', 'r'] ∧
        ∀ kind : Kind, Naming.contractType team.name ∉ kind.targetTypes target.name := by
    rintro target ⟨⟨hmem, -⟩, hpackage⟩
    simp only [namesakes, List.mem_cons, List.not_mem_nil, or_false] at hmem
    rcases hmem with rfl | rfl | rfl
    · exact absurd rfl hpackage
    · exact ⟨by decide, by decide, fun kind => by cases kind <;> decide⟩
    · exact ⟨by decide, by decide, fun kind => by cases kind <;> decide⟩
  have hneighbours : ∀ neighbour ∈ (namesakes "" " ").entities,
      statedPackage neighbour.packageName = statedPackage team.packageName →
        neighbour = team := by decide
  constructor
  · intro first second hfirst hsecond _
    rw [(htargets first hfirst).1, (htargets second hsecond).1]
  · intro target htarget neighbour hneighbour hpackage
    obtain rfl := hneighbours neighbour hneighbour hpackage
    obtain ⟨-, htail, hcontract⟩ := htargets target htarget
    refine ⟨?_, hcontract kind⟩
    rintro ⟨c, d, rest, htarget, hteam, -⟩
    have hteam : ['e', 'a', 'm'] = rest := congrArg List.tail hteam
    rw [htarget, List.tail_cons, ← hteam] at htail
    exact absurd htail (by decide)

/-- In packages that are blank, but written differently, the artifacts of the team import one type,
which none of its neighbours declares but both the host and the guest do. -/
theorem declares_namesakes {artifacts : List Artifact}
    (hrender : (namesakes "" " ").renderAll {} = .ok artifacts) (kind : Kind) :
    ∃ file, Generates (namesakes "" " ") {} artifacts team kind file ∧
      file.ImportsFromOnePackage ∧ (namesakes "" " ").ImportsNoNeighbour {} file ∧
      file.ImportsType "" "UserEntity" ∧
      (namesakes "" " ").DeclaresFor {} (host "") "" "UserEntity" ∧
      (namesakes "" " ").DeclaresFor {} (guest " ") "" "UserEntity" := by
  have hvalid : (namesakes "" " ").isValid = true := by decide
  have hnames := hasIdentifierNames_of_isValid hvalid
  have hteam : team ∈ (namesakes "" " ").entities := by simp [namesakes]
  have hdeclares {entity : Entity} (hentity : entity ∈ (namesakes "" " ").entities)
      (hpackage : statedPackage entity.packageName = "")
      (htype : "UserEntity" ∈ Naming.generatedTypes entity.name) :
      (namesakes "" " ").DeclaresFor {} entity "" "UserEntity" :=
    (declaresFor_iff hvalid rfl hentity (hasPlainNames_namesakes entity hentity)).mpr
      ⟨hpackage, htype⟩
  have htype : "UserEntity" ∈ kind.targetTypes (host "").name := by cases kind <;> decide
  have hblank : statedPackage (host "").packageName = "" := by decide
  obtain ⟨attrs, -, hgenerates⟩ := exists_generates rfl hrender hteam
  have hemit := (hgenerates kind).emitted
  obtain ⟨htargets, hneighbours⟩ := apart_namesakes kind
  obtain ⟨htoHost, -, -⟩ := @hasRelationship_namesakes "" " "
  refine ⟨_, hgenerates kind, (importsFromOnePackage_iff hnames hemit).mpr htargets,
    (importsNoNeighbour_iff hvalid rfl hasPlainNames_namesakes hemit).mpr hneighbours,
    hblank ▸ importsType_of_foreign hnames hemit ⟨htoHost, by decide⟩ htype,
    hdeclares (by simp [namesakes]) hblank (by decide),
    hdeclares (by simp [namesakes]) (by decide) (by decide)⟩

/-- A package that is not blank is stated on the first line of a file. -/
theorem head?_lines_of_stated {file : SourceFile} (h : Text.isBlank file.packageName = false) :
    file.lines.head? = some ("package " ++ file.packageName ++ file.language.terminator) := by
  rw [SourceFile.lines, SourceFile.preludeLines, h]
  rfl

/-- In packages that differ in a blank at the end only, the targets of the team are kept apart from
the other entities of their packages. And yet host and guest state a package of the same tokens, and
both of their persisted classes have the same name. -/
theorem alone_namesakes {artifacts : List Artifact}
    (hrender : (namesakes "b" "b ").renderAll {} = .ok artifacts) :
    (∀ kind, (namesakes "b" "b ").HasTargetsAlone team kind) ∧
      ∃ hostFile guestFile,
        Generates (namesakes "b" "b ") {} artifacts (host "b") .persisted hostFile ∧
        Generates (namesakes "b" "b ") {} artifacts (guest "b ") .persisted guestFile ∧
        hostFile.lines.head? = some "package b" ∧ guestFile.lines.head? = some "package b " ∧
        "UserEntity" ∈ hostFile.declaredTypes ∧ "UserEntity" ∈ guestFile.declaredTypes := by
  have hnames := hasIdentifierNames_of_isValid (by decide : (namesakes "b" "b ").isValid = true)
  have hpackages : ∀ entity ∈ (namesakes "b" "b ").entities,
      ∀ other ∈ (namesakes "b" "b ").entities,
        statedPackage other.packageName = statedPackage entity.packageName → other = entity := by
    decide
  have hhost : host "b" ∈ (namesakes "b" "b ").entities := by simp [namesakes]
  have hguest : guest "b " ∈ (namesakes "b" "b ").entities := by simp [namesakes]
  have hhostStated : Text.isBlank (host "b").packageName = false := by decide
  have hguestStated : Text.isBlank (guest "b ").packageName = false := by decide
  have hdeclared {entity : Entity} {attrs : List MappedAttribute}
      (hentity : entity ∈ (namesakes "b" "b ").entities)
      (hattrs : (namesakes "b" "b ").mapEntity entity = .ok attrs) :
      (Kind.persisted.sourceFile {} entity attrs).declaredTypes =
        Kind.persisted.declaredTypes entity.name :=
    SourceFile.declaredTypes_sourceFile {} (hnames entity hentity).1 (hnames.mapped hentity hattrs)
      fun _ => (hasPlainNames_namesakes entity hentity).quotesOnOneLine hattrs
  obtain ⟨attrs, hattrs, hgenerates⟩ := exists_generates rfl hrender hhost
  obtain ⟨others, hothers, hothersGenerate⟩ := exists_generates rfl hrender hguest
  refine ⟨fun kind target htarget other hother hne hpackage =>
    absurd (hpackages target htarget.mem other hother hpackage) hne,
    _, _, hgenerates .persisted, hothersGenerate .persisted,
    head?_lines_of_stated hhostStated, head?_lines_of_stated hguestStated, ?_, ?_⟩
  · rw [hdeclared hhost hattrs]
    decide
  · rw [hdeclared hguest hothers]
    decide

/-- The sets are valid and rendered in full, and yet types are ambiguous. In packages of different
names, each artifact of the team imports one simple name from two packages, and each artifact of the
host imports one that its own package declares. In blank packages, each artifact of the team imports
one type that both the host and the guest are declared as. In packages that differ in a blank at the
end, host and guest are declared as one type in packages that are read alike. -/
theorem types_ambiguous_namesakes :
    ((namesakes "b" "c").isValid = true ∧ ∃ artifacts,
      (namesakes "b" "c").renderAll {} = .ok artifacts ∧ ∀ kind,
        (∃ file, Generates (namesakes "b" "c") {} artifacts team kind file ∧
          file.ImportsType "b" "UserEntity" ∧ file.ImportsType "c" "UserEntity") ∧
        ∃ file, Generates (namesakes "b" "c") {} artifacts (host "b") kind file ∧
          file.ImportsType "c" "UserEntity" ∧ statedPackage file.packageName = "b" ∧
          (namesakes "b" "c").Declares {} "b" "UserEntity") ∧
    ((namesakes "" " ").isValid = true ∧ ∃ artifacts,
      (namesakes "" " ").renderAll {} = .ok artifacts ∧ ∀ kind,
        ∃ file, Generates (namesakes "" " ") {} artifacts team kind file ∧
          file.ImportsFromOnePackage ∧ (namesakes "" " ").ImportsNoNeighbour {} file ∧
          file.ImportsType "" "UserEntity" ∧
          (namesakes "" " ").DeclaresFor {} (host "") "" "UserEntity" ∧
          (namesakes "" " ").DeclaresFor {} (guest " ") "" "UserEntity") ∧
    (namesakes "b" "b ").isValid = true ∧ Text.tokens "package b" = Text.tokens "package b " ∧
      ∃ artifacts, (namesakes "b" "b ").renderAll {} = .ok artifacts ∧
        (∀ kind, (namesakes "b" "b ").HasTargetsAlone team kind) ∧
        ∃ hostFile guestFile,
          Generates (namesakes "b" "b ") {} artifacts (host "b") .persisted hostFile ∧
          Generates (namesakes "b" "b ") {} artifacts (guest "b ") .persisted guestFile ∧
          hostFile.lines.head? = some "package b" ∧ guestFile.lines.head? = some "package b " ∧
          "UserEntity" ∈ hostFile.declaredTypes ∧ "UserEntity" ∈ guestFile.declaredTypes := by
  have hrenders : ((namesakes "b" "c").renderAll {}).isOk = true := by decide +kernel
  have hblankRenders : ((namesakes "" " ").renderAll {}).isOk = true := by decide +kernel
  have halikeRenders : ((namesakes "b" "b ").renderAll {}).isOk = true := by decide +kernel
  obtain ⟨artifacts, hrender⟩ := exists_eq_ok_of_isOk hrenders
  obtain ⟨blankArtifacts, hblankRender⟩ := exists_eq_ok_of_isOk hblankRenders
  obtain ⟨alikeArtifacts, halikeRender⟩ := exists_eq_ok_of_isOk halikeRenders
  exact ⟨⟨by decide, artifacts, hrender, imports_namesakes hrender⟩,
    ⟨by decide, blankArtifacts, hblankRender, declares_namesakes hblankRender⟩,
    by decide, by decide, alikeArtifacts, halikeRender, alone_namesakes halikeRender⟩

end EntitySet

end PersistenceLayer
