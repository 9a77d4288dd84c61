import PersistenceLayer.Proofs.SourceLines

/-!
# Import blocks

The imports of an artifact are read off its text, behind the package statement.
They are compared with a description that looks at the declared attributes and
at the entities they refer to alone: what a kind of artifact imports anyway, the
scalars that attributes flatten to, and the types of targets in other packages.
-/

namespace PersistenceLayer

/-! ## Order of bytes -/

namespace Text

/-- The UTF-8 bytes of a text. -/
def bytes (text : String) : List UInt8 :=
  text.toUTF8.data.toList

/-- The bytes of a text are those of its characters. -/
theorem bytes_eq_flatMap (text : String) :
    bytes text = text.toList.flatMap String.utf8EncodeChar := by
  rw [bytes, String.toUTF8_eq_toByteArray, ← String.utf8Encode_toList, List.utf8Encode,
    List.toList_data_toByteArray]

/-- The bytes of a character come before those of a greater one, whatever follows them. -/
theorem utf8EncodeChar_append_lt {c d : Char} (h : c < d) (cs ds : List UInt8) :
    String.utf8EncodeChar c ++ cs < String.utf8EncodeChar d ++ ds := by
  have hlt : c.val.toNat < d.val.toNat := UInt32.lt_iff_toNat_lt.mp (Char.lt_def.mp h)
  have hbound : d.val.toNat < 0x110000 := by
    rcases d.valid with hvalid | ⟨-, hvalid⟩
    · exact Nat.lt_trans hvalid (by decide)
    · exact hvalid
  have hbyte {i j : Nat} : UInt8.ofNat i < UInt8.ofNat j ↔ i % 256 < j % 256 := by
    simp [UInt8.lt_iff_toNat_lt]
  have hequal {i j : Nat} : UInt8.ofNat i = UInt8.ofNat j ↔ i % 256 = j % 256 := by
    simp [← UInt8.toNat_inj]
  -- The bits of a byte are those that remain when the lower ones are shifted out six at a time.
  have hthird (i : Nat) : i / 4096 = i / 64 / 64 := by omega
  have hfourth (i : Nat) : i / 262144 = i / 64 / 64 / 64 := by omega
  unfold String.utf8EncodeChar
  generalize c.val.toNat = m at *
  generalize d.val.toNat = n at *
  dsimp only
  split_ifs <;>
    simp only [List.cons_append, List.nil_append, List.cons_lt_cons_iff, hbyte, hequal, hthird,
      hfourth] <;>
    omega

/-- Texts in increasing order have bytes in increasing order. -/
theorem bytes_lt {first second : String} (h : first < second) : bytes first < bytes second := by
  have hchars : first.toList < second.toList := h
  rw [bytes_eq_flatMap, bytes_eq_flatMap]
  generalize first.toList = cs at hchars
  generalize second.toList = ds at hchars
  induction hchars with
  | @nil c =>
    obtain ⟨byte, others, hbytes⟩ :=
      List.exists_cons_of_ne_nil (String.utf8EncodeChar_ne_nil (c := c))
    rw [List.flatMap_nil, List.flatMap_cons, hbytes]
    exact List.nil_lt_cons _ _
  | cons _ ih =>
    rw [List.flatMap_cons, List.flatMap_cons]
    exact List.append_left_lt ih
  | rel hlt =>
    rw [List.flatMap_cons, List.flatMap_cons]
    exact utf8EncodeChar_append_lt hlt _ _

/-- What a text begins with tells it from texts that begin with something else. -/
theorem isPrefixOf_append_eq_false {word front : List Char} (count : Nat) (back : List Char)
    (hcount : count ≤ front.length) (h : (word.take count).isPrefixOf front = false) :
    word.isPrefixOf (front ++ back) = false := by
  rw [← Bool.not_eq_true, List.isPrefixOf_iff_prefix] at *
  exact fun hprefix => h (List.prefix_of_prefix_length_le
    ((List.take_prefix count word).trans hprefix) (List.prefix_append _ _)
    ((List.length_take_le _ _).trans hcount))

end Text

/-! ## Reading imports -/

namespace SourceFile

/-- Whether a line is a package statement. -/
def isPackageStatement (line : String) : Bool :=
  "package ".toList.isPrefixOf line.toList

/-- Whether a line is an import statement. -/
def isImport (line : String) : Bool :=
  "import ".toList.isPrefixOf line.toList

/-- Whether a line can stand in front of the imports. -/
def precedesImports (line : String) : Bool :=
  isPackageStatement line || line.isEmpty

/-- The imports of a source text, which come first or behind its package statement. -/
def importBlock (text : String) : List String :=
  ((Text.splitAt '\n' text).dropWhile precedesImports).takeWhile isImport

/-- Whether a text that goes on with anything is neither empty nor opens a prelude. -/
structure OpensBody (front : String) : Prop where
  notMem : '\n' ∉ front.toList
  length : 2 ≤ front.toList.length
  isPackageStatement : "pa".toList.isPrefixOf front.toList = false
  isImport : "im".toList.isPrefixOf front.toList = false

/-- A line that opens a body is not taken for a part of the prelude. -/
theorem OpensBody.append {front : String} (h : OpensBody front) (back : String) :
    precedesImports (front ++ back) = false ∧ SourceFile.isImport (front ++ back) = false := by
  have hempty : (front ++ back).isEmpty = false := by
    have hne : front.toList ≠ [] := fun hnil => by simpa [hnil] using h.length
    have hfront : front ≠ "" := fun hnil => hne (String.toList_eq_nil_iff.mpr hnil)
    simp [hfront]
  rw [precedesImports, hempty, Bool.or_false, SourceFile.isPackageStatement, SourceFile.isImport,
    String.toList_append]
  exact ⟨Text.isPrefixOf_append_eq_false 2 _ h.length h.isPackageStatement,
    Text.isPrefixOf_append_eq_false 2 _ h.length h.isImport⟩

variable {file : SourceFile} {front tail : String} {rest : List String}

/-- An import statement ends the search for the imports. -/
theorem precedesImports_of_isImport {line : String} (h : isImport line = true) :
    precedesImports line = false := by
  obtain ⟨chars, hchars⟩ := List.isPrefixOf_iff_prefix.mp h
  have hline : line = "import " ++ String.ofList chars := by
    rw [← String.ofList_toList (s := line), ← hchars, String.ofList_append, String.ofList_toList]
  rw [hline, precedesImports, isPackageStatement, String.toList_append,
    Text.isPrefixOf_append_eq_false 1 _ (by decide) (by decide)]
  simp

/-- The package statement of a file, with the blank line behind it. -/
def packageLines (file : SourceFile) : List String :=
  if Text.isBlank file.packageName then []
  else ["package " ++ file.packageName ++ file.language.terminator, ""]

/-- The import statements of a file, with the blank line behind them. -/
def importLines (file : SourceFile) : List String :=
  if file.imports.lines.isEmpty then [] else file.imports.lines ++ [""]

/-- The package statement stands in front of the imports, on a line. -/
theorem precedesImports_of_mem_packageLines (hpackage : '\n' ∉ file.packageName.toList) :
    ∀ line ∈ file.packageLines, precedesImports line = true ∧ '\n' ∉ line.toList := by
  have hterminator : '\n' ∉ file.language.terminator.toList := by
    cases file.language <;> decide
  unfold packageLines
  split
  · simp
  · simp [precedesImports, isPackageStatement, hpackage, hterminator]

/-- A file is read back as its statements, and the body behind them. -/
theorem splitAt_text (hpackage : '\n' ∉ file.packageName.toList)
    (himports : ∀ line ∈ file.imports.lines, '\n' ∉ line.toList) (hfront : '\n' ∉ front.toList)
    (hbody : file.body = (front ++ tail) :: rest) :
    ∃ first others, Text.splitAt '\n' file.text =
      file.packageLines ++ (file.importLines ++ (front ++ first) :: others) := by
  have himportLines : ∀ line ∈ file.importLines, '\n' ∉ line.toList := by
    unfold importLines
    split
    · simp
    · simpa [or_imp, forall_and] using himports
  obtain ⟨first, others, hsplit⟩ := List.exists_cons_of_ne_nil
    (Text.splitAt_ne_nil '\n' (tail ++ "\n" ++ unlines rest))
  have htext : file.text = unlines (file.packageLines ++ file.importLines) ++
      (front ++ (tail ++ "\n" ++ unlines rest)) := by
    simp [text, lines, preludeLines, hbody, unlines, packageLines, importLines,
      String.append_assoc]
  refine ⟨first, others, ?_⟩
  rw [htext, splitAt_unlines_append, flatMap_splitAt_of_notMem,
    Text.splitAt_prepend front hfront hsplit, List.append_assoc]
  exact List.forall_mem_append.mpr
    ⟨fun line hline => (precedesImports_of_mem_packageLines hpackage line hline).2, himportLines⟩

/-- The imports that are read from a file are those it was written with. -/
theorem importBlock_text (hpackage : '\n' ∉ file.packageName.toList)
    (himports : ∀ line ∈ file.imports.lines, isImport line = true ∧ '\n' ∉ line.toList)
    (hfront : OpensBody front) (hbody : file.body = (front ++ tail) :: rest) :
    importBlock file.text = file.imports.lines := by
  obtain ⟨first, others, hlines⟩ := splitAt_text hpackage
    (fun line hline => (himports line hline).2) hfront.notMem hbody
  obtain ⟨hopening, hnoImport⟩ := hfront.append first
  rw [importBlock, hlines, List.dropWhile_append_of_pos fun line hline =>
    (precedesImports_of_mem_packageLines hpackage line hline).1, importLines]
  cases himportLines : file.imports.lines with
  | nil => simp [hopening, hnoImport]
  | cons line lines =>
    rw [himportLines] at himports
    have hline := (himports line List.mem_cons_self).1
    have hblockLines : (if (line :: lines).isEmpty then [] else line :: lines ++ [""]) ++
        (front ++ first) :: others = line :: lines ++ "" :: (front ++ first) :: others := by
      simp
    rw [hblockLines, List.cons_append, List.dropWhile_cons_of_neg
      (Bool.eq_false_iff.mp (precedesImports_of_isImport hline)), ← List.cons_append,
      List.takeWhile_append_of_pos fun other hother => (himports other hother).1,
      List.takeWhile_cons_of_neg (by decide), List.append_nil]

end SourceFile

/-! ## What is imported -/

/-- The qualified name of a type that is generated for an entity. -/
def Entity.qualified (entity : Entity) (typeName : String) : String :=
  Naming.qualified (Text.isBlank entity.packageName) entity.packageName typeName

namespace EntitySet

/-- The scalar that an attribute flattens to: its own, or that of the first identifier of the entity
it refers to. -/
inductive FlattensTo (set : EntitySet) (attr : Attribute) : Scalar → Prop where
  | own {type : ColumnType} {scalar : Scalar} (hcolumn : attr.columnType = some type)
      (hscalar : type.scalar? = some scalar) : FlattensTo set attr scalar
  | key {target : Entity} {place : Nat} {identifier : Attribute} {kind : IdKind} {generated : Bool}
      (hmem : target ∈ set.entities) (hcolumn : attr.columnType = some (.manyToOne target.name))
      (hfirst : IsFirstIdentifier target.attributes place identifier)
      (hidentifier : identifier.columnType = some (.identifier kind generated)) :
      FlattensTo set attr kind.scalar

/-- The qualified names that an artifact of an entity imports. -/
inductive Imports (set : EntitySet) (options : Options) (entity : Entity) (kind : Kind) :
    String → Prop where
  | fixed {name : String} (hname : name ∈ kind.fixedImports options) :
      Imports set options entity kind name
  | scalar {attr : Attribute} {scalar : Scalar} {name : String} (hattr : attr ∈ entity.attributes)
      (hscalar : set.FlattensTo attr scalar) (hname : scalar.qualifiedName? = some name) :
      Imports set options entity kind name
  | entityType {target : Entity} (htarget : set.HasRelationship entity target)
      (hpackage : target.packageName ≠ entity.packageName) :
      Imports set options entity kind (target.qualified (Naming.entityType target.name))
  | metamodelType {target : Entity} (hkind : kind = .extension)
      (htarget : set.HasRelationship entity target)
      (hpackage : target.packageName ≠ entity.packageName) :
      Imports set options entity kind (target.qualified (Naming.metamodelType target.name))

variable {set : EntitySet} {options : Options} {entity : Entity} {attrs : List MappedAttribute}

/-- The relationships of an entity are those of its mapped attributes. -/
theorem hasRelationship_iff (h : set.mapEntity entity = .ok attrs) {target : Entity} :
    set.HasRelationship entity target ↔ target ∈ set.entities ∧
      ∃ mapped ∈ attrs, ∃ resolved, mapped.target? = some resolved ∧
        target.target? = some resolved := by
  constructor
  · rintro ⟨hmem, attr, hattr, hcolumn⟩
    obtain ⟨type, hmapped, hmapsTo⟩ := exists_mapped_of_mem h hattr
    cases hmapsTo with
    | identifier hother | version hother | basic hother =>
      rw [hcolumn] at hother
      cases hother
    | manyToOne hother hresolved =>
      obtain ⟨found, hfound, hname, htarget⟩ := exists_entity_of_resolveTarget hresolved
      obtain rfl : target.name = _ := by simpa [hcolumn] using hother
      obtain rfl := eq_of_name_eq hfound hmem hname
      exact ⟨hmem, _, hmapped, _, rfl, htarget⟩
  · rintro ⟨hmem, mapped, hmapped, resolved, htype, htarget⟩
    obtain ⟨hattr, hmapsTo⟩ := mapsTo_of_mem h hmapped
    rw [MappedAttribute.target?_eq_some_iff.mp htype] at hmapsTo
    obtain ⟨found, -, hcolumn, hfound⟩ := hmapsTo.exists_entity
    refine ⟨hmem, _, hattr, ?_⟩
    rwa [← Entity.entityName_of_target? htarget, Entity.entityName_of_target? hfound]

/-- A mapped relationship is one of the entity, to what its target was resolved from. -/
theorem exists_hasRelationship (h : set.mapEntity entity = .ok attrs) {mapped : MappedAttribute}
    {target : Target} (hmapped : mapped ∈ attrs) (htype : mapped.target? = some target) :
    ∃ found, set.HasRelationship entity found ∧ target.packageName = found.packageName ∧
      target.entityName = found.name := by
  obtain ⟨-, hmapsTo⟩ := mapsTo_of_mem h hmapped
  rw [MappedAttribute.target?_eq_some_iff.mp htype] at hmapsTo
  obtain ⟨found, hfound, -, hresolved⟩ := hmapsTo.exists_entity
  exact ⟨found, (hasRelationship_iff h).mpr ⟨hfound, mapped, hmapped, target, htype, hresolved⟩,
    Entity.packageName_of_target? hresolved, Entity.entityName_of_target? hresolved⟩

/-- A relationship of the entity is a mapped one, with a target that was resolved from it. -/
theorem HasRelationship.exists_mapped {found : Entity} (hfound : set.HasRelationship entity found)
    (h : set.mapEntity entity = .ok attrs) :
    ∃ mapped ∈ attrs, ∃ target, mapped.target? = some target ∧
      target.packageName = found.packageName ∧ target.entityName = found.name := by
  obtain ⟨-, mapped, hmapped, target, htype, hresolved⟩ := (hasRelationship_iff h).mp hfound
  exact ⟨mapped, hmapped, target, htype, Entity.packageName_of_target? hresolved,
    Entity.entityName_of_target? hresolved⟩

/-- What an attribute flattens to is the scalar that its column holds. -/
theorem flattensTo_iff {owner : String} {attr : Attribute} {type : MappedType}
    (h : set.MapsTo owner attr type) {scalar : Scalar} :
    set.FlattensTo attr scalar ↔ scalar = type.scalar := by
  constructor
  · intro hflat
    cases hflat with
    | own hcolumn hscalar =>
      cases h with
      | identifier hother | version hother | basic hother =>
        obtain rfl := Option.some.inj (hcolumn.symm.trans hother)
        exact (Option.some.inj hscalar).symm
      | manyToOne hother =>
        obtain rfl := Option.some.inj (hcolumn.symm.trans hother)
        cases hscalar
    | key hmem hcolumn hfirst hidentifier =>
      cases h with
      | identifier hother | version hother | basic hother =>
        rw [hcolumn] at hother
        cases hother
      | manyToOne hother hresolved =>
        obtain ⟨found, hfound, hname, htarget⟩ := exists_entity_of_resolveTarget hresolved
        rw [hcolumn, Option.some.injEq, ColumnType.manyToOne.injEq] at hother
        obtain rfl := eq_of_name_eq hfound hmem (hname.trans hother.symm)
        obtain ⟨_, attr, _, hfirst', hidentifier', -⟩ := Entity.exists_isFirstIdentifier htarget
        obtain rfl := hfirst.eq hfirst'
        rw [hidentifier, Option.some.injEq, ColumnType.identifier.injEq] at hidentifier'
        rw [hidentifier'.1]
        rfl
  · rintro rfl
    cases h with
    | identifier hcolumn | version hcolumn | basic hcolumn => exact .own hcolumn rfl
    | manyToOne hcolumn hresolved =>
      obtain ⟨found, hfound, rfl, htarget⟩ := exists_entity_of_resolveTarget hresolved
      obtain ⟨_, _, _, hfirst, hidentifier, -⟩ := Entity.exists_isFirstIdentifier htarget
      exact .key hfound hcolumn hfirst hidentifier

end EntitySet

/-- A type that is generated for a target is imported from its package, unless that is the owner's
as well. -/
theorem Target.foreignType?_eq_some_iff {target : Target} {owner typeName name : String} :
    target.foreignType? owner typeName = some name ↔ target.packageName ≠ owner ∧
      name = Naming.qualified (Text.isBlank target.packageName) target.packageName typeName := by
  rw [foreignType?]
  split <;> simp [*, @eq_comm _ name]

/-- The names that an artifact imports for an attribute. -/
theorem Kind.mem_attributeImports_iff {kind : Kind} {owner name : String}
    {mapped : MappedAttribute} :
    name ∈ kind.attributeImports owner mapped ↔
      mapped.type.scalar.qualifiedName? = some name ∨
      ∃ target, mapped.target? = some target ∧
        (target.foreignType? owner (Naming.entityType target.entityName) = some name ∨
          kind = .extension ∧
            target.foreignType? owner (Naming.metamodelType target.entityName) = some name) := by
  have htype : name ∈ mapped.typeImports owner ↔ mapped.type.scalar.qualifiedName? = some name ∨
      ∃ target, mapped.target? = some target ∧
        target.foreignType? owner (Naming.entityType target.entityName) = some name := by
    simp [MappedAttribute.typeImports, Option.bind_eq_some_iff]
  have hmetamodel : name ∈ mapped.metamodelImports owner ↔
      ∃ target, mapped.target? = some target ∧
        target.foreignType? owner (Naming.metamodelType target.entityName) = some name := by
    simp [MappedAttribute.metamodelImports, Option.bind_eq_some_iff]
  cases kind with
  | extension =>
    rw [attributeImports, List.mem_append, htype, hmetamodel]
    simp only [true_and, or_assoc, ← exists_or, ← and_or_left]
  | contract | dataHolder | metamodel | persisted | vocabulary => simp [attributeImports, htype]

/-- The names that artifacts import from libraries. -/
def libraryImports : List String :=
  ["androidx.compose.runtime.getValue", "androidx.compose.runtime.mutableStateOf",
    "androidx.compose.runtime.setValue", "jakarta.persistence.*", "jakarta.persistence.criteria.*",
    "jakarta.persistence.metamodel.*", "jakarta.validation.constraints.*", "java.math.BigDecimal",
    "java.time.LocalDateTime", "java.time.ZonedDateTime", "java.util.UUID"]

/-- The imports that every file of a kind has are from libraries. -/
theorem Kind.mem_libraryImports_of_fixed {kind : Kind} {options : Options} {name : String}
    (h : name ∈ kind.fixedImports options) : name ∈ libraryImports := by
  have hfixed : ∀ other ∈ kind.fixedImports options, other ∈ libraryImports := by
    cases kind with
    | contract =>
      rw [fixedImports, Contract.fixedImports]
      split <;> decide
    | dataHolder =>
      rw [fixedImports, DataHolder.fixedImports]
      split <;> decide
    | metamodel => exact (by decide : ∀ other ∈ Metamodel.fixedImports, other ∈ libraryImports)
    | persisted => exact (by decide : ∀ other ∈ Persisted.fixedImports, other ∈ libraryImports)
    | vocabulary => exact fun _ hother => absurd hother List.not_mem_nil
    | extension => exact (by decide : ∀ other ∈ Extension.fixedImports, other ∈ libraryImports)
  exact hfixed name h

/-- A scalar that has to be imported is from a library. -/
theorem Scalar.mem_libraryImports {scalar : Scalar} {name : String}
    (h : scalar.qualifiedName? = some name) : name ∈ libraryImports := by
  cases scalar <;> cases h <;> decide

namespace EntitySet

variable {set : EntitySet} {options : Options} {entity : Entity} {attrs : List MappedAttribute}

/-- The imports of an artifact are gathered from the mapped attributes. -/
theorem mem_importedNames_iff (h : set.mapEntity entity = .ok attrs) {kind : Kind}
    {name : String} :
    name ∈ kind.importedNames options entity.packageName attrs ↔
      set.Imports options entity kind name := by
  rw [Kind.importedNames, List.mem_append, List.mem_flatMap]
  simp only [Kind.mem_attributeImports_iff, Target.foreignType?_eq_some_iff]
  constructor
  · rintro (hname | ⟨mapped, hmapped, hname | ⟨target, htype, hname⟩⟩)
    · exact .fixed hname
    · obtain ⟨hattr, hmapsTo⟩ := mapsTo_of_mem h hmapped
      exact .scalar hattr ((flattensTo_iff hmapsTo).mpr rfl) hname
    · obtain ⟨found, hfound, hpackage, hentity⟩ := exists_hasRelationship h hmapped htype
      rw [hpackage, hentity] at hname
      rcases hname with ⟨hne, rfl⟩ | ⟨hkind, hne, rfl⟩
      · exact .entityType hfound hne
      · exact .metamodelType hkind hfound hne
  · intro hname
    cases hname with
    | fixed hname => exact .inl hname
    | scalar hattr hscalar hname =>
      obtain ⟨type, hmem, hmapsTo⟩ := exists_mapped_of_mem h hattr
      obtain rfl := (flattensTo_iff hmapsTo).mp hscalar
      exact .inr ⟨_, hmem, .inl hname⟩
    | entityType hfound hne =>
      obtain ⟨mapped, hmem, target, htype, hpackage, hentity⟩ := hfound.exists_mapped h
      rw [Entity.qualified, ← hpackage, ← hentity]
      exact .inr ⟨mapped, hmem, .inr ⟨target, htype, .inl ⟨hpackage ▸ hne, rfl⟩⟩⟩
    | metamodelType hkind hfound hne =>
      obtain ⟨mapped, hmem, target, htype, hpackage, hentity⟩ := hfound.exists_mapped h
      rw [Entity.qualified, ← hpackage, ← hentity]
      exact .inr ⟨mapped, hmem, .inr ⟨target, htype, .inr ⟨hkind, hpackage ▸ hne, rfl⟩⟩⟩

/-- Whether no package name of a set holds a line break. -/
def HasPackageNamesOnOneLine (set : EntitySet) : Prop :=
  ∀ entity ∈ set.entities, '\n' ∉ entity.packageName.toList

/-- The names that are imported stay on their line. -/
theorem Imports.notMem {kind : Kind} {name : String} (hnames : set.HasIdentifierNames)
    (hpackages : set.HasPackageNamesOnOneLine) (h : set.Imports options entity kind name) :
    '\n' ∉ name.toList := by
  have hqualified {target : Entity} {typeName : String} (htarget : target ∈ set.entities)
      (hword : Text.isWord typeName = true) : '\n' ∉ (target.qualified typeName).toList := by
    have htype : '\n' ∉ typeName.toList := Text.lineBreak_notMem_of_isWord hword
    rw [Entity.qualified, Naming.qualified]
    split
    · exact htype
    · simp [hpackages target htarget, htype]
  have hlibrary : ∀ other ∈ libraryImports, '\n' ∉ other.toList := by decide
  cases h with
  | fixed hname => exact hlibrary name (Kind.mem_libraryImports_of_fixed hname)
  | scalar _ _ hname => exact hlibrary name (Scalar.mem_libraryImports hname)
  | entityType htarget _ =>
    exact hqualified htarget.mem (Naming.isWord_entityType (hnames _ htarget.mem).1)
  | metamodelType _ htarget _ =>
    exact hqualified htarget.mem (Naming.isWord_metamodelType (hnames _ htarget.mem).1)

end EntitySet

/-! ## Blocks of artifacts -/

/-- What the body of an artifact begins with. -/
def Kind.bodyFront : Kind → String
  | contract => "interface "
  | dataHolder => "open class "
  | metamodel => "@StaticMetamodel("
  | persisted => "@Entity"
  | vocabulary => "sealed class "
  | extension => "fun "

/-- A body opens in a way that no prelude does. -/
theorem Kind.opensBody_bodyFront (kind : Kind) : SourceFile.OpensBody kind.bodyFront := by
  constructor <;> cases kind <;> decide

/-- Every body of a kind opens in the same way. -/
theorem Kind.exists_body_eq (kind : Kind) (options : Options) (entity : Entity)
    (attrs : List MappedAttribute) :
    ∃ tail rest, kind.body options entity attrs = (kind.bodyFront ++ tail) :: rest := by
  cases kind with
  | contract => exact ⟨_, _, congrArg (List.cons · _) (String.append_assoc ..)⟩
  | dataHolder => exact ⟨_, _, congrArg (List.cons · _) (by simp only [String.append_assoc]; rfl)⟩
  | metamodel => exact ⟨_, _, congrArg (List.cons · _) (String.append_assoc ..)⟩
  | persisted => exact ⟨_, _, congrArg (List.cons · _) (by rfl)⟩
  | vocabulary => exact ⟨_, _, congrArg (List.cons · _) (String.append_assoc ..)⟩
  | extension => exact ⟨_, _, congrArg (List.cons · _) (by simp only [String.append_assoc]; rfl)⟩

namespace EntitySet

variable {set : EntitySet} {options : Options} {entity : Entity} {kind : Kind} {file : SourceFile}

/-- A file that is emitted is made from mapped attributes. -/
theorem exists_attrs_of_emit (h : set.emit options entity kind = .ok file) :
    ∃ attrs, set.mapEntity entity = .ok attrs ∧ file = kind.sourceFile options entity attrs := by
  rw [emit_eq] at h
  cases hattrs : set.mapEntity entity with
  | error cause =>
    rw [hattrs] at h
    cases h
  | ok attrs =>
    rw [hattrs] at h
    exact ⟨attrs, rfl, (Except.ok.inj h).symm⟩

/-- The imports that are read from an artifact are those it was written with. -/
theorem importBlock_emit (hnames : set.HasIdentifierNames)
    (hpackages : set.HasPackageNamesOnOneLine) (hentity : entity ∈ set.entities)
    (h : set.emit options entity kind = .ok file) :
    SourceFile.importBlock file.text = file.imports.lines ∧
      ∀ line, line ∈ file.imports.lines ↔
        ∃ name, set.Imports options entity kind name ∧ line = kind.language.importLine name := by
  obtain ⟨attrs, hattrs, rfl⟩ := exists_attrs_of_emit h
  have hlines (line : String) : line ∈ (kind.sourceFile options entity attrs).imports.lines ↔
      ∃ name, set.Imports options entity kind name ∧ line = kind.language.importLine name := by
    simp only [Kind.sourceFile, SourceFile.ofEntity, Text.LineSet.mem_ofList, List.mem_map,
      mem_importedNames_iff hattrs, eq_comm]
  have himports : ∀ line ∈ (kind.sourceFile options entity attrs).imports.lines,
      SourceFile.isImport line = true ∧ '\n' ∉ line.toList := by
    intro line hline
    obtain ⟨name, hname, rfl⟩ := (hlines line).mp hline
    have hname := hname.notMem hnames hpackages
    have hterminator : '\n' ∉ kind.language.terminator.toList := by
      cases kind <;> decide
    rw [SourceFile.isImport, Language.importLine]
    simp [hname, hterminator]
  obtain ⟨tail, rest, hbody⟩ := kind.exists_body_eq options entity attrs
  exact ⟨SourceFile.importBlock_text (hpackages entity hentity) himports
    kind.opensBody_bodyFront hbody, hlines⟩

end EntitySet

end PersistenceLayer
