import PersistenceLayer.Proofs.GeneratedAnnotations
import PersistenceLayer.Proofs.RelationshipTargets
import PersistenceLayer.Text.Split

/-!
# Lines of generated sources

What a generated source says is read off the lines of its text. A file is emitted
as a list of lines, and these are the lines of its text if none of them has a line
break in it. Names that are identifiers have none; the names that a persisted class
puts between quotes have none if they are plain.
-/

namespace PersistenceLayer

open Text (isWord lineBreak_notMem_of_isWord notMem_toList_of_isWord notMem_toList_ofList)

/-! ## Texts of lines -/

namespace SourceFile

/-- The package statement and the imports of a file, as a text. -/
def prelude (file : SourceFile) : String :=
  unlines (preludeLines file.packageName file.imports file.language)

/-- The text of a file behind its prelude. -/
def bodyText (file : SourceFile) : String :=
  String.ofList (file.text.toList.drop file.prelude.toList.length)

/-- The lines of a file behind its prelude, as they are found in its text. Each of them is ended by
a line break, and nothing stands behind the last one. -/
def bodyLines (file : SourceFile) : List String :=
  (Text.splitAt '\n' file.bodyText).dropLast

/-- Lines that follow others are a text behind theirs. -/
theorem unlines_append (lines others : List String) :
    unlines (lines ++ others) = unlines lines ++ unlines others := by
  simp [unlines]

/-- The text of a file is its prelude with the lines of the body behind. -/
theorem text_eq (file : SourceFile) : file.text = file.prelude ++ unlines file.body :=
  unlines_append _ _

/-- Behind the prelude stand the lines of the body. -/
theorem bodyText_eq (file : SourceFile) : file.bodyText = unlines file.body := by
  rw [bodyText, text_eq, String.toList_append, List.drop_left, String.ofList_toList]

/-- A text that begins with some lines is split into the parts of these lines, and what follows
them is split on its own. -/
theorem splitAt_unlines_append (lines : List String) (rest : String) :
    Text.splitAt '\n' (unlines lines ++ rest) =
      lines.flatMap (Text.splitAt '\n') ++ Text.splitAt '\n' rest := by
  induction lines with
  | nil => simp [unlines]
  | cons line lines ih =>
    have hsplit : Text.splitAt '\n' (unlines (line :: lines) ++ rest) =
        Text.splitAt '\n' line ++ Text.splitAt '\n' (unlines lines ++ rest) := by
      simp [Text.splitAt, unlines, Text.segments_append]
    rw [hsplit, ih, List.flatMap_cons, List.append_assoc]

/-- A text is split into the parts of its lines, with nothing behind the last one. -/
theorem splitAt_unlines (lines : List String) :
    Text.splitAt '\n' (unlines lines) = lines.flatMap (Text.splitAt '\n') ++ [""] := by
  have hsplit := splitAt_unlines_append lines ""
  rwa [String.append_empty] at hsplit

/-- Lines that hold no line break have no parts but themselves. -/
theorem flatMap_splitAt_of_notMem {lines : List String}
    (h : ∀ line ∈ lines, '\n' ∉ line.toList) : lines.flatMap (Text.splitAt '\n') = lines := by
  have hline : ∀ line ∈ lines, Text.splitAt '\n' line = [line] := by
    intro line hline
    rw [Text.splitAt, Text.segments_of_not_mem (h line hline), List.map_singleton,
      String.ofList_toList]
  rw [List.flatMap_congr hline, List.flatMap_singleton']

/-- Lines that hold no line break are what a text of them is split into. -/
theorem splitAt_unlines_of_notMem {lines : List String}
    (h : ∀ line ∈ lines, '\n' ∉ line.toList) :
    Text.splitAt '\n' (unlines lines) = lines ++ [""] := by
  rw [splitAt_unlines, flatMap_splitAt_of_notMem h]

/-- The lines of a file are the parts of the lines that it is emitted with. -/
theorem bodyLines_eq_flatMap (file : SourceFile) :
    file.bodyLines = file.body.flatMap (Text.splitAt '\n') := by
  rw [bodyLines, bodyText_eq, splitAt_unlines, List.dropLast_concat]

/-- A file that is emitted with lines has just these. -/
theorem bodyLines_eq_body {file : SourceFile} (h : ∀ line ∈ file.body, '\n' ∉ line.toList) :
    file.bodyLines = file.body := by
  rw [bodyLines_eq_flatMap, flatMap_splitAt_of_notMem h]

end SourceFile

/-! ## Words of lines -/

/-- A scalar has a type of one word. -/
theorem Scalar.isWord_kotlinName (scalar : Scalar) : isWord scalar.kotlinName = true := by
  cases scalar <;> decide

/-- The leaf of a direction has a name of one word. -/
theorem Direction.isWord_name (direction : Direction) : isWord direction.name = true := by
  cases direction <;> decide

/-- The leaf of an operator has a name of one word. -/
theorem Operator.isWord_name (operator : Operator) : isWord operator.name = true := by
  cases operator <;> decide

/-- A direction has a criteria method with a name of one word. -/
theorem Direction.isWord_method (direction : Direction) :
    isWord direction.method = true ∧ direction.method ≠ "this" := by
  cases direction <;> decide

/-- An operator has a criteria method with a name of one word. -/
theorem Operator.isWord_method (operator : Operator) :
    isWord operator.method.1 = true ∧ operator.method.1 ≠ "this" := by
  cases operator <;> decide

/-- The property of an attribute in the persisted class has a name of one word. -/
theorem MappedAttribute.HasIdentifierNames.isWord_property {mapped : MappedAttribute}
    (h : mapped.HasIdentifierNames) : isWord mapped.property = true :=
  Naming.isWord_property h.name

/-- The case of an attribute has a name of one word. -/
theorem MappedAttribute.HasIdentifierNames.isWord_caseName {mapped : MappedAttribute}
    (h : mapped.HasIdentifierNames) : isWord mapped.caseName = true :=
  Naming.isWord_caseName h.name

/-- The property of an attribute in client-facing data has a name of one word. -/
theorem MappedAttribute.HasIdentifierNames.isWord_flat {mapped : MappedAttribute}
    (h : mapped.HasIdentifierNames) : isWord mapped.flat.name = true := by
  rw [MappedAttribute.flat]
  cases htype : mapped.type with
  | manyToOne target => exact Naming.isWord_foreignKey h.name (h.identifierName target htype)
  | identifier | version | basic => exact h.isWord_property

/-- The type of a property of a persisted class is named by one word if its target is. -/
theorem MappedAttribute.HasIdentifierNames.isWord_kotlinName {mapped : MappedAttribute}
    (h : mapped.HasIdentifierNames) : isWord mapped.valueType.kotlinName = true := by
  rw [MappedAttribute.valueType]
  cases htype : mapped.type with
  | manyToOne target => exact Naming.isWord_entityType (h.entityName target htype)
  | identifier | version | basic => exact Scalar.isWord_kotlinName _

/-- The type of a handle is an array or named by one word if its target is. -/
theorem MappedAttribute.HasIdentifierNames.isWord_javaName {mapped : MappedAttribute}
    (h : mapped.HasIdentifierNames) :
    mapped.valueType = .scalar .byteArray ∨ isWord mapped.valueType.javaName = true := by
  have hscalar : ∀ scalar : Scalar, ValueType.scalar scalar = .scalar .byteArray ∨
      isWord (ValueType.scalar scalar).javaName = true := by
    intro scalar
    cases scalar <;> decide
  rw [MappedAttribute.valueType]
  cases htype : mapped.type with
  | manyToOne target => exact .inr (Naming.isWord_entityType (h.entityName target htype))
  | identifier | version | basic => exact hscalar _

/-! ## Lines of client-facing data -/

namespace ContractProperty

/-- The line of a marker is one line. -/
theorem notMem_markerLine (constraint : Constraint) : '\n' ∉ (markerLine constraint).toList := by
  have hname : '\n' ∉ constraint.name.toList := by
    cases constraint <;> exact notMem_toList_ofList (by decide)
  simp only [markerLine, String.toList_append, List.mem_append, not_or]
  exact ⟨notMem_toList_ofList (by decide), hname⟩

/-- The line that declares a property is one line. -/
theorem notMem_declarationLine {mapped : MappedAttribute} (h : mapped.HasIdentifierNames) :
    '\n' ∉ (declarationLine mapped.flat).toList := by
  have hname : '\n' ∉ mapped.flat.name.toList := lineBreak_notMem_of_isWord h.isWord_flat
  have htype : '\n' ∉ mapped.flat.scalar.kotlinName.toList :=
    lineBreak_notMem_of_isWord mapped.flat.scalar.isWord_kotlinName
  simp only [declarationLine, String.toList_append, List.mem_append, not_or]
  refine ⟨⟨⟨⟨?_, hname⟩, ?_⟩, htype⟩, ?_⟩
  all_goals exact notMem_toList_ofList (by decide)

end ContractProperty

namespace DataHolder

/-- The line that overrides a property is one line. -/
theorem notMem_declarationLine (options : Options) {mapped : MappedAttribute}
    (h : mapped.HasIdentifierNames) : '\n' ∉ (declarationLine options mapped.flat).toList := by
  have hname : '\n' ∉ mapped.flat.name.toList := lineBreak_notMem_of_isWord h.isWord_flat
  have htype : '\n' ∉ mapped.flat.scalar.kotlinName.toList :=
    lineBreak_notMem_of_isWord mapped.flat.scalar.isWord_kotlinName
  have hinitializer : '\n' ∉ (initializer options).toList := by
    unfold initializer
    split <;> exact notMem_toList_ofList (by decide)
  unfold declarationLine
  rw [String.toList_append, List.mem_append, not_or]
  refine ⟨?_, hinitializer⟩
  simp only [String.toList_append, List.mem_append, not_or]
  refine ⟨⟨⟨⟨?_, hname⟩, ?_⟩, htype⟩, ?_⟩
  all_goals exact notMem_toList_ofList (by decide)

end DataHolder

/-! ## Lines of metamodels -/

/-- The line that declares a handle is one line. -/
theorem Metamodel.notMem_declarationLine {entity : String}
    (hentity : Text.isIdentifier entity = true) {mapped : MappedAttribute}
    (h : mapped.HasIdentifierNames) : '\n' ∉ (declarationLine entity mapped.handle).toList := by
  have howner : '\n' ∉ (Naming.entityType entity).toList :=
    lineBreak_notMem_of_isWord (Naming.isWord_entityType hentity)
  have hname : '\n' ∉ mapped.handle.name.toList := lineBreak_notMem_of_isWord h.isWord_property
  have htype : '\n' ∉ mapped.handle.type.javaName.toList := by
    change '\n' ∉ mapped.valueType.javaName.toList
    rcases h.isWord_javaName with harray | hword
    · rw [harray]
      decide
    · exact lineBreak_notMem_of_isWord hword
  unfold declarationLine
  simp only [String.toList_append, List.mem_append, not_or]
  refine ⟨⟨⟨⟨⟨⟨?_, howner⟩, ?_⟩, htype⟩, ?_⟩, hname⟩, ?_⟩
  all_goals exact notMem_toList_ofList (by decide)

/-! ## Lines of persisted classes -/

/-- The line that declares a property is one line. -/
theorem PersistedProperty.notMem_declarationLine {mapped : MappedAttribute}
    (h : mapped.HasIdentifierNames) :
    '\n' ∉ (declarationLine mapped.persistedProperty).toList := by
  have hname : '\n' ∉ mapped.persistedProperty.name.toList :=
    lineBreak_notMem_of_isWord h.isWord_property
  have htype : '\n' ∉ mapped.persistedProperty.type.kotlinName.toList :=
    lineBreak_notMem_of_isWord h.isWord_kotlinName
  unfold declarationLine
  simp only [String.toList_append, List.mem_append, not_or]
  refine ⟨⟨⟨⟨?_, hname⟩, ?_⟩, htype⟩, ?_⟩
  all_goals exact notMem_toList_ofList (by decide)

/-! ## Lines of vocabularies -/

section Vocabulary

variable {name base : String} (hname : isWord name = true)

include hname

/-- The line that opens a case is one line. -/
theorem Vocabulary.notMem_caseLine (hbase : isWord base = true) :
    '\n' ∉ (caseLine name base).toList := by
  have hname := lineBreak_notMem_of_isWord hname
  have hbase := lineBreak_notMem_of_isWord hbase
  unfold caseLine
  simp only [String.toList_append, List.mem_append, not_or]
  refine ⟨⟨⟨⟨?_, hname⟩, ?_⟩, hbase⟩, ?_⟩
  all_goals exact notMem_toList_ofList (by decide)

/-- The line of an order is one line. -/
theorem Vocabulary.notMem_directionLine (direction : Direction) :
    '\n' ∉ (directionLine name direction).toList := by
  have hname := lineBreak_notMem_of_isWord hname
  have hdirection := lineBreak_notMem_of_isWord direction.isWord_name
  unfold directionLine
  simp only [String.toList_append, List.mem_append, not_or]
  refine ⟨⟨⟨⟨?_, hdirection⟩, ?_⟩, hname⟩, ?_⟩
  all_goals exact notMem_toList_ofList (by decide)

/-- A sealed class around lines is made of lines. -/
theorem Vocabulary.notMem_sealedClass {inner : List String}
    (hinner : ∀ line ∈ inner, '\n' ∉ line.toList) :
    ∀ line ∈ sealedClass name inner, '\n' ∉ line.toList := by
  have hname := lineBreak_notMem_of_isWord hname
  have hopening : '\n' ∉ ("sealed class " ++ name ++ " \x7b").toList := by
    simp only [String.toList_append, List.mem_append, not_or]
    exact ⟨⟨notMem_toList_ofList (by decide), hname⟩, notMem_toList_ofList (by decide)⟩
  rw [sealedClass, List.forall_mem_append, List.forall_mem_append, List.forall_mem_singleton]
  exact ⟨⟨hopening, hinner⟩, by decide⟩

end Vocabulary

/-- The line of a predicate is one line. -/
theorem PredicateCase.notMem_leafLine {predicate : PredicateCase}
    (hname : isWord predicate.name = true) (operator : Operator) :
    '\n' ∉ (predicate.leafLine operator).toList := by
  have hname := lineBreak_notMem_of_isWord hname
  have hoperator := lineBreak_notMem_of_isWord operator.isWord_name
  have hoperand := lineBreak_notMem_of_isWord predicate.operand.isWord_kotlinName
  unfold leafLine
  cases operator.arity <;>
    simp only [String.toList_append, List.mem_append, not_or, hname, hoperator, hoperand,
      not_false_eq_true, and_true] <;>
    and_intros <;> exact notMem_toList_ofList (by decide)

/-! ## Lines of extensions -/

namespace Extension

/-- Signs that lines without a path do not hold: line breaks, which no line holds, and the brackets
around the steps of a path. -/
def foreignSigns : List Char := ['\n', '[']

variable {sign : Char} (hsign : sign ∈ foreignSigns)

include hsign

/-- No word holds a sign. -/
theorem notMem_of_isWord {word : String} (h : isWord word = true) : sign ∉ word.toList := by
  have hparts : (foreignSigns.all fun sign => !Text.isIdentifierPart sign) = true := by decide
  exact notMem_toList_of_isWord h (by simpa using List.all_eq_true.mp hparts sign hsign)

/-- Whether a literal is free of both signs is looked up in its characters. -/
theorem notMem_ofList {chars : List Char}
    (h : (foreignSigns.all fun sign => decide (sign ∉ chars)) = true) :
    sign ∉ (String.ofList chars).toList :=
  notMem_toList_ofList (of_decide_eq_true (List.all_eq_true.mp h sign hsign))

/-- The lines that close a function hold no sign. -/
theorem notMem_closing : ∀ line ∈ ["\x7d", ""], sign ∉ line.toList := by
  rw [List.forall_mem_cons, List.forall_mem_singleton]
  exact ⟨notMem_ofList hsign (by decide), notMem_ofList hsign (by decide)⟩

section Assignments

variable {mapped : MappedAttribute} (h : mapped.HasIdentifierNames)

include h

/-- An assignment of a copy into a persisted object holds no sign. -/
theorem notMem_entityAssignment : ∀ line ∈ mapped.entityAssignment.lines, sign ∉ line.toList := by
  have hproperty := notMem_of_isWord hsign h.isWord_property
  rw [MappedAttribute.entityAssignment]
  cases htype : mapped.type with
  | manyToOne target =>
    have hforeignKey := notMem_of_isWord hsign
      (Naming.isWord_foreignKey h.name (h.identifierName target htype))
    have htargetType := notMem_of_isWord hsign
      (Naming.isWord_entityType (h.entityName target htype))
    simp only [EntityAssignment.lines, List.forall_mem_cons, String.toList_append, List.mem_append,
      not_or, hproperty, hforeignKey, htargetType, List.not_mem_nil, not_false_eq_true,
      IsEmpty.forall_iff, implies_true, and_true]
    and_intros <;> exact notMem_ofList hsign (by decide)
  | identifier | version | basic =>
    simp only [EntityAssignment.lines, List.forall_mem_singleton, String.toList_append,
      List.mem_append, not_or, hproperty, not_false_eq_true, and_true]
    and_intros <;> exact notMem_ofList hsign (by decide)

/-- An assignment of a copy into client-facing data holds no sign. -/
theorem notMem_dataAssignment : sign ∉ mapped.dataAssignment.line.toList := by
  have hproperty := notMem_of_isWord hsign h.isWord_property
  rw [MappedAttribute.dataAssignment]
  cases htype : mapped.type with
  | manyToOne target =>
    have hforeignKey := notMem_of_isWord hsign
      (Naming.isWord_foreignKey h.name (h.identifierName target htype))
    have hidentifier := notMem_of_isWord hsign
      (Naming.isWord_property (h.identifierName target htype))
    simp only [DataAssignment.line, String.toList_append, List.mem_append, not_or, hproperty,
      hforeignKey, hidentifier, not_false_eq_true, and_true]
    and_intros <;> exact notMem_ofList hsign (by decide)
  | identifier | version | basic =>
    simp only [DataAssignment.line, String.toList_append, List.mem_append, not_or, hproperty,
      not_false_eq_true, and_true]
    and_intros <;> exact notMem_ofList hsign (by decide)

end Assignments

section Functions

variable {entity : String} (hentity : Text.isIdentifier entity = true)

include hentity

/-- The function that counts rows holds no sign. -/
theorem notMem_countFunction : ∀ line ∈ countFunction entity, sign ∉ line.toList := by
  have hname := notMem_of_isWord hsign (Text.isWord_capitalized hentity)
  have hentityType := notMem_of_isWord hsign (Naming.isWord_entityType hentity)
  have hpredicateType := notMem_of_isWord hsign (Naming.isWord_predicateType hentity)
  simp only [countFunction, predicateCollection, restriction, List.cons_append, List.nil_append,
    List.forall_mem_cons, String.toList_append, List.mem_append, not_or, hname, hentityType,
    hpredicateType, String.toList_empty, List.not_mem_nil, not_false_eq_true, IsEmpty.forall_iff,
    implies_true, and_true]
  and_intros <;> exact notMem_ofList hsign (by decide)

/-- The function that lists rows holds no sign. -/
theorem notMem_listFunction : ∀ line ∈ listFunction entity, sign ∉ line.toList := by
  have hname := notMem_of_isWord hsign (Text.isWord_capitalized hentity)
  have hentityType := notMem_of_isWord hsign (Naming.isWord_entityType hentity)
  have hpredicateType := notMem_of_isWord hsign (Naming.isWord_predicateType hentity)
  have horderType := notMem_of_isWord hsign (Naming.isWord_orderType hentity)
  simp only [listFunction, predicateCollection, orderCollection, restriction, List.cons_append,
    List.nil_append, List.forall_mem_cons, String.toList_append, List.mem_append, not_or, hname,
    hentityType, hpredicateType, horderType, String.toList_empty, List.not_mem_nil,
    not_false_eq_true, IsEmpty.forall_iff, implies_true, and_true]
  and_intros <;> exact notMem_ofList hsign (by decide)

/-- A function that copies into a persisted object holds no sign if its assignments hold none. -/
theorem notMem_entityCopyFunction (mode : CopyMode) {assignments : List EntityAssignment}
    (h : ∀ assignment ∈ assignments, ∀ line ∈ assignment.lines, sign ∉ line.toList) :
    ∀ line ∈ entityCopyFunction entity mode assignments, sign ∉ line.toList := by
  have hcontractType := notMem_of_isWord hsign (Naming.isWord_contractType hentity)
  have hentityType := notMem_of_isWord hsign (Naming.isWord_entityType hentity)
  have hmode : sign ∉ mode.functionName.toList := by
    cases mode <;> exact notMem_ofList hsign (by decide)
  rw [entityCopyFunction, List.forall_mem_append, List.forall_mem_append, List.forall_mem_flatMap]
  refine ⟨⟨?_, h⟩, ?_⟩
  · simp only [List.forall_mem_cons, String.toList_append, List.mem_append, not_or, hcontractType,
      hentityType, hmode, List.not_mem_nil, not_false_eq_true, IsEmpty.forall_iff, implies_true,
      and_true]
    and_intros <;> exact notMem_ofList hsign (by decide)
  · exact notMem_closing hsign

/-- The function that copies into client-facing data holds no sign if its assignments hold none. -/
theorem notMem_dataCopyFunction {assignments : List DataAssignment}
    (h : ∀ assignment ∈ assignments, sign ∉ assignment.line.toList) :
    ∀ line ∈ dataCopyFunction entity assignments, sign ∉ line.toList := by
  have hcontractType := notMem_of_isWord hsign (Naming.isWord_contractType hentity)
  have hentityType := notMem_of_isWord hsign (Naming.isWord_entityType hentity)
  rw [dataCopyFunction, List.forall_mem_append, List.forall_mem_append, List.forall_mem_singleton,
    List.forall_mem_map]
  refine ⟨⟨?_, h⟩, notMem_closing hsign⟩
  simp only [String.toList_append, List.mem_append, not_or, hcontractType, hentityType,
    not_false_eq_true, and_true]
  and_intros <;> exact notMem_ofList hsign (by decide)

section Mapped

variable {attrs : List MappedAttribute} (hnames : ∀ mapped ∈ attrs, mapped.HasIdentifierNames)

include hnames

/-- A function that copies mapped attributes into a persisted object holds no sign. -/
theorem notMem_entityCopyFunction_of_mapped (mode : CopyMode) :
    ∀ line ∈ entityCopyFunction entity mode (entityAssignments mode attrs),
      sign ∉ line.toList := by
  refine notMem_entityCopyFunction hsign hentity mode ?_
  rw [entityAssignments, List.forall_mem_map]
  exact fun mapped hmapped =>
    notMem_entityAssignment hsign (hnames mapped (List.mem_of_mem_filter hmapped))

/-- The function that copies mapped attributes into client-facing data holds no sign. -/
theorem notMem_dataCopyFunction_of_mapped :
    ∀ line ∈ dataCopyFunction entity (dataAssignments attrs), sign ∉ line.toList := by
  refine notMem_dataCopyFunction hsign hentity ?_
  rw [dataAssignments, List.forall_mem_map]
  exact fun mapped hmapped => notMem_dataAssignment hsign (hnames mapped hmapped)

end Mapped

/-- A function that makes criteria holds no sign around its branches. -/
theorem exists_criterionFunction_eq {receiver name result : String}
    (hreceiver : isWord receiver = true) (hname : isWord name = true)
    (hresult : isWord result = true) (branches : List String) :
    ∃ opening closing, criterionFunction entity receiver name result branches =
      opening ++ branches ++ closing ∧ ∀ line ∈ opening ++ closing, sign ∉ line.toList := by
  have hreceiver := notMem_of_isWord hsign hreceiver
  have hname := notMem_of_isWord hsign hname
  have hresult := notMem_of_isWord hsign hresult
  have hentityType := notMem_of_isWord hsign (Naming.isWord_entityType hentity)
  refine ⟨_, _, rfl, ?_⟩
  simp only [List.cons_append, List.nil_append, List.forall_mem_cons, String.toList_append,
    List.mem_append, not_or, hreceiver, hname, hresult, hentityType, String.toList_empty,
    List.not_mem_nil, not_false_eq_true, IsEmpty.forall_iff, implies_true, and_true]
  and_intros <;> exact notMem_ofList hsign (by decide)

/-- A function that makes criteria holds no sign if its branches hold none. -/
theorem notMem_criterionFunction {receiver name result : String} {branches : List String}
    (hreceiver : isWord receiver = true) (hname : isWord name = true)
    (hresult : isWord result = true) (hbranches : ∀ line ∈ branches, sign ∉ line.toList) :
    ∀ line ∈ criterionFunction entity receiver name result branches, sign ∉ line.toList := by
  obtain ⟨opening, closing, heq, hframe⟩ :=
    exists_criterionFunction_eq hsign hentity hreceiver hname hresult branches
  rw [List.forall_mem_append] at hframe
  rw [heq, List.forall_mem_append, List.forall_mem_append]
  exact ⟨⟨hframe.1, hbranches⟩, hframe.2⟩

end Functions

end Extension

/-! ### Branches -/

section Branches

variable {entity : String} (hentity : Text.isIdentifier entity = true) {mapped : MappedAttribute}
  (h : mapped.HasIdentifierNames)

/-- A step of a path is written on one line. -/
theorem HandleReference.notMem_render {reference : HandleReference}
    (hmetamodel : isWord reference.metamodel = true) (hhandle : isWord reference.handle = true) :
    '\n' ∉ reference.render.toList := by
  have hmetamodel : '\n' ∉ reference.metamodel.toList := lineBreak_notMem_of_isWord hmetamodel
  have hhandle : '\n' ∉ reference.handle.toList := lineBreak_notMem_of_isWord hhandle
  unfold render
  simp only [String.toList_append, List.mem_append, not_or, hmetamodel, hhandle,
    not_false_eq_true, and_true]
  and_intros <;> exact notMem_toList_ofList (by decide)

/-- A call over a path that is written on one line is written on one line. -/
theorem Operator.notMem_criteriaCall (operator : Operator) {path : String}
    (hpath : '\n' ∉ path.toList) : '\n' ∉ (operator.criteriaCall path).toList := by
  have hmethod : '\n' ∉ operator.method.1.toList :=
    lineBreak_notMem_of_isWord operator.isWord_method.1
  unfold criteriaCall
  cases operator.arity <;> cases operator.method.2 <;>
    simp only [String.toList_append, List.mem_append, not_or, hmethod, hpath, not_false_eq_true,
      and_true, if_true, if_false, Bool.false_eq_true] <;>
    and_intros <;> exact notMem_toList_ofList (by decide)

include hentity h

/-- The path of an attribute is written on one line. -/
theorem CriteriaPath.notMem_render : '\n' ∉ (mapped.criteriaPath entity).render.toList := by
  have hown : '\n' ∉ (mapped.criteriaPath entity).own.render.toList :=
    HandleReference.notMem_render (Naming.isWord_metamodelType hentity) h.isWord_property
  have honward : '\n' ∉
      (((mapped.criteriaPath entity).onward.map HandleReference.render).getD "").toList := by
    unfold MappedAttribute.criteriaPath MappedAttribute.target?
    cases htype : mapped.type with
    | manyToOne target =>
      have htarget : '\n' ∉ target.identifierReference.render.toList :=
        HandleReference.notMem_render (Naming.isWord_metamodelType (h.entityName target htype))
          (Naming.isWord_property (h.identifierName target htype))
      exact htarget
    | identifier | version | basic => exact notMem_toList_ofList (by decide)
  unfold render
  simp only [String.toList_append, List.mem_append, not_or]
  exact ⟨⟨notMem_toList_ofList (by decide), hown⟩, honward⟩

/-- The branch of an order is one line. -/
theorem OrderBranch.notMem_line (direction : Direction) :
    '\n' ∉ (line entity ⟨mapped.caseName, direction, mapped.criteriaPath entity⟩).toList := by
  have hbase := lineBreak_notMem_of_isWord (Naming.isWord_orderType hentity)
  have hcase := lineBreak_notMem_of_isWord h.isWord_caseName
  have hdirection := lineBreak_notMem_of_isWord direction.isWord_name
  have hmethod := lineBreak_notMem_of_isWord direction.isWord_method.1
  have hpath := CriteriaPath.notMem_render hentity h
  unfold line
  simp only [String.toList_append, List.mem_append, not_or, hbase, hcase, hdirection, hmethod,
    hpath, not_false_eq_true, and_true]
  and_intros <;> exact notMem_toList_ofList (by decide)

/-- The branch of a predicate is one line. -/
theorem PredicateBranch.notMem_line (operator : Operator) :
    '\n' ∉ (line entity ⟨mapped.caseName, operator, mapped.criteriaPath entity⟩).toList := by
  have hbase := lineBreak_notMem_of_isWord (Naming.isWord_predicateType hentity)
  have hcase := lineBreak_notMem_of_isWord h.isWord_caseName
  have hoperator := lineBreak_notMem_of_isWord operator.isWord_name
  have hcall := operator.notMem_criteriaCall (CriteriaPath.notMem_render hentity h)
  have hasks : ∀ asks : Bool, '\n' ∉ (if asks then "is " else "").toList := by decide
  unfold line
  simp only [String.toList_append, List.mem_append, not_or, hbase, hcase, hoperator, hcall, hasks,
    not_false_eq_true, and_true]
  and_intros <;> exact notMem_toList_ofList (by decide)

end Branches

/-! ## Bodies -/

/-- Whether mapped attributes are an entity's own, and each name that its persisted class puts
between quotes stands on one line. -/
structure Entity.QuotesOnOneLine (entity : Entity) (attrs : List MappedAttribute) : Prop where
  sources : ∀ mapped ∈ attrs, mapped.source ∈ entity.attributes
  notMem : ∀ name ∈ entity.quotedNames, '\n' ∉ name.toList

/-- Plain names stand on one line. -/
theorem Entity.HasPlainNames.quotesOnOneLine {isLetter : Char → Bool} {entity : Entity}
    (h : entity.HasPlainNames isLetter) {set : EntitySet} {attrs : List MappedAttribute}
    (hattrs : set.mapEntity entity = .ok attrs) : entity.QuotesOnOneLine attrs :=
  ⟨fun _ hmapped => (EntitySet.mapsTo_of_mem hattrs hmapped).1, h.notMem⟩

section Bodies

variable (options : Options) {entity : Entity} {attrs : List MappedAttribute}
  (hentity : Text.isIdentifier entity.name = true)
  (hnames : ∀ mapped ∈ attrs, mapped.HasIdentifierNames)

include hentity hnames

/-- The body of a contract is made of lines. -/
theorem Contract.notMem_of_mem_body :
    ∀ line ∈ Kind.contract.body options entity attrs, '\n' ∉ line.toList := by
  have hopening : '\n' ∉ ("interface " ++ Naming.contractType entity.name ++ " \x7b").toList := by
    have hcontract : '\n' ∉ (Naming.contractType entity.name).toList :=
      lineBreak_notMem_of_isWord (Naming.isWord_contractType hentity)
    simp only [String.toList_append, List.mem_append, not_or]
    exact ⟨⟨notMem_toList_ofList (by decide), hcontract⟩, notMem_toList_ofList (by decide)⟩
  change ∀ line ∈ body entity.name (properties options attrs), '\n' ∉ line.toList
  simp only [body, properties, ContractProperty.lines, List.forall_mem_append,
    List.forall_mem_flatMap, List.forall_mem_map, List.forall_mem_cons, List.not_mem_nil,
    IsEmpty.forall_iff, implies_true, and_true]
  refine ⟨⟨⟨hopening, by decide⟩, fun mapped hmapped => ⟨?_, ?_⟩⟩, by decide⟩
  · exact fun constraint _ => ContractProperty.notMem_markerLine constraint
  · exact ⟨ContractProperty.notMem_declarationLine (hnames mapped hmapped), by decide⟩

/-- The body of a data holder is made of lines. -/
theorem DataHolder.notMem_of_mem_body :
    ∀ line ∈ Kind.dataHolder.body options entity attrs, '\n' ∉ line.toList := by
  have hopening : '\n' ∉ ("open class " ++ Naming.dataType entity.name ++ " : " ++
      Naming.contractType entity.name ++ " \x7b").toList := by
    have hdata : '\n' ∉ (Naming.dataType entity.name).toList :=
      lineBreak_notMem_of_isWord (Naming.isWord_dataType hentity)
    have hcontract : '\n' ∉ (Naming.contractType entity.name).toList :=
      lineBreak_notMem_of_isWord (Naming.isWord_contractType hentity)
    simp only [String.toList_append, List.mem_append, not_or]
    refine ⟨⟨⟨⟨?_, hdata⟩, ?_⟩, hcontract⟩, ?_⟩
    all_goals exact notMem_toList_ofList (by decide)
  change ∀ line ∈ body options entity.name (properties attrs), '\n' ∉ line.toList
  simp only [body, properties, List.forall_mem_append, List.forall_mem_flatMap,
    List.forall_mem_map, List.forall_mem_cons, List.not_mem_nil, IsEmpty.forall_iff,
    implies_true, and_true]
  refine ⟨⟨⟨hopening, by decide⟩, fun mapped hmapped => ⟨?_, by decide⟩⟩, by decide⟩
  exact notMem_declarationLine options (hnames mapped hmapped)

/-- The body of a metamodel is made of lines. -/
theorem Metamodel.notMem_of_mem_body :
    ∀ line ∈ Kind.metamodel.body options entity attrs, '\n' ∉ line.toList := by
  have hopening : '\n' ∉ ("@StaticMetamodel(" ++ Naming.entityType entity.name ++
        ".class)").toList ∧
      '\n' ∉ ("public class " ++ Naming.metamodelType entity.name ++ " \x7b").toList := by
    have hentityType : '\n' ∉ (Naming.entityType entity.name).toList :=
      lineBreak_notMem_of_isWord (Naming.isWord_entityType hentity)
    have hmetamodelType : '\n' ∉ (Naming.metamodelType entity.name).toList :=
      lineBreak_notMem_of_isWord (Naming.isWord_metamodelType hentity)
    simp only [String.toList_append, List.mem_append, not_or, hentityType, hmetamodelType,
      not_false_eq_true, and_true]
    and_intros <;> exact notMem_toList_ofList (by decide)
  change ∀ line ∈ body entity.name (handles attrs), '\n' ∉ line.toList
  simp only [body, handles, List.forall_mem_append, List.forall_mem_flatMap, List.forall_mem_map,
    List.forall_mem_cons, List.not_mem_nil, IsEmpty.forall_iff, implies_true, and_true]
  refine ⟨⟨⟨hopening.1, hopening.2, by decide⟩, fun mapped hmapped => ⟨?_, by decide⟩⟩, by decide⟩
  exact notMem_declarationLine hentity (hnames mapped hmapped)

/-- The body of a persisted class is made of lines if no name between quotes has a line break in
it. -/
theorem Persisted.notMem_of_mem_body (hquotes : entity.QuotesOnOneLine attrs) :
    ∀ line ∈ Kind.persisted.body options entity attrs, '\n' ∉ line.toList := by
  have hopening : '\n' ∉ ("open class " ++ Naming.entityType entity.name ++ " \x7b").toList := by
    have hentityType : '\n' ∉ (Naming.entityType entity.name).toList :=
      lineBreak_notMem_of_isWord (Naming.isWord_entityType hentity)
    simp only [String.toList_append, List.mem_append, not_or]
    exact ⟨⟨notMem_toList_ofList (by decide), hentityType⟩, notMem_toList_ofList (by decide)⟩
  have hclass : ∀ mark ∈ classAnnotations entity, '\n' ∉ mark.render.toList :=
    fun mark hmark => Annotation.notMem_render
      (isMadeOf_of_mem_classAnnotations hquotes.notMem mark hmark)
  have hannotation : ∀ mapped ∈ attrs, ∀ mark ∈ mapped.annotations,
      '\n' ∉ ("    " ++ mark.render).toList := by
    intro mapped hmapped mark hmark
    rw [String.toList_append, List.mem_append, not_or]
    exact ⟨notMem_toList_ofList (by decide), Annotation.notMem_render
      (isMadeOf_of_mem_annotations hquotes.notMem (hquotes.sources mapped hmapped) mark hmark)⟩
  change ∀ line ∈ body entity.name (classAnnotations entity) (properties attrs), '\n' ∉ line.toList
  simp only [body, properties, PersistedProperty.lines, List.forall_mem_append,
    List.forall_mem_flatMap, List.forall_mem_map, List.forall_mem_cons, List.not_mem_nil,
    IsEmpty.forall_iff, implies_true, and_true]
  refine ⟨⟨⟨hclass, hopening, by decide⟩, fun mapped hmapped => ⟨⟨?_, ?_⟩, by decide⟩⟩, by decide⟩
  · exact hannotation mapped hmapped
  · exact PersistedProperty.notMem_declarationLine (hnames mapped hmapped)

/-- The body of a vocabulary is made of lines. -/
theorem Vocabulary.notMem_of_mem_body :
    ∀ line ∈ Kind.vocabulary.body options entity attrs, '\n' ∉ line.toList := by
  have horderType := Naming.isWord_orderType hentity
  have hpredicateType := Naming.isWord_predicateType hentity
  change ∀ line ∈ body entity.name (orderCases attrs) (predicateCases attrs), '\n' ∉ line.toList
  rw [body, List.forall_mem_append]
  refine ⟨notMem_sealedClass horderType ?_, notMem_sealedClass hpredicateType ?_⟩
  · simp only [orderCases, orderLines, List.forall_mem_flatMap, List.forall_mem_map,
      List.forall_mem_append, List.forall_mem_singleton]
    refine fun mapped hmapped => ⟨⟨?_, fun direction _ => ?_⟩, by decide⟩
    · exact notMem_caseLine (hnames mapped hmapped).isWord_caseName horderType
    · exact notMem_directionLine (hnames mapped hmapped).isWord_caseName direction
  · simp only [predicateCases, predicateLines, List.forall_mem_flatMap, List.forall_mem_map,
      List.forall_mem_append, List.forall_mem_singleton]
    refine fun mapped hmapped => ⟨⟨?_, fun operator _ => ?_⟩, by decide⟩
    · exact notMem_caseLine (hnames mapped hmapped).isWord_caseName hpredicateType
    · have hname : isWord mapped.predicateCase.name = true :=
        (hnames mapped hmapped).isWord_caseName
      exact PredicateCase.notMem_leafLine hname operator

/-- The body of an extension is made of lines. -/
theorem Extension.notMem_of_mem_body :
    ∀ line ∈ Kind.extension.body options entity attrs, '\n' ∉ line.toList := by
  have hsign : '\n' ∈ foreignSigns := by decide
  have horders : ∀ line ∈ (orderBranches entity.name attrs).map (OrderBranch.line entity.name),
      '\n' ∉ line.toList := by
    simp only [orderBranches, MappedAttribute.orderBranches, List.forall_mem_map,
      List.forall_mem_flatMap]
    exact fun mapped hmapped direction _ =>
      OrderBranch.notMem_line hentity (hnames mapped hmapped) direction
  have hpredicates : ∀ line ∈ (predicateBranches entity.name attrs).map
      (PredicateBranch.line entity.name), '\n' ∉ line.toList := by
    simp only [predicateBranches, MappedAttribute.predicateBranches, List.forall_mem_map,
      List.forall_mem_flatMap]
    exact fun mapped hmapped operator _ =>
      PredicateBranch.notMem_line hentity (hnames mapped hmapped) operator
  have horderFunction := notMem_criterionFunction hsign hentity (Naming.isWord_orderType hentity)
    (by decide : isWord "toOrder" = true) (by decide : isWord "Order" = true) horders
  have hpredicateFunction := notMem_criterionFunction hsign hentity
    (Naming.isWord_predicateType hentity) (by decide : isWord "toPredicate" = true)
    (by decide : isWord "Predicate" = true) hpredicates
  have hcopy := notMem_entityCopyFunction_of_mapped hsign hentity hnames
  have hdata := notMem_dataCopyFunction_of_mapped hsign hentity hnames
  change ∀ line ∈ body entity.name _ _ _ _ _, '\n' ∉ line.toList
  simp only [body, List.forall_mem_append]
  exact ⟨⟨⟨⟨⟨⟨horderFunction, hpredicateFunction⟩, notMem_countFunction hsign hentity⟩,
    notMem_listFunction hsign hentity⟩, hcopy .insertable⟩, hcopy .updatable⟩, hdata⟩

/-- What a file is emitted with behind its prelude are the lines of its text there, unless it is
that of a persisted class, whose names between quotes have to be free of line breaks. -/
theorem SourceFile.bodyLines_sourceFile (kind : Kind)
    (hquotes : kind = .persisted → entity.QuotesOnOneLine attrs) :
    (kind.sourceFile options entity attrs).bodyLines = kind.body options entity attrs := by
  have hlines : ∀ line ∈ kind.body options entity attrs, '\n' ∉ line.toList := by
    cases kind with
    | contract => exact Contract.notMem_of_mem_body options hentity hnames
    | dataHolder => exact DataHolder.notMem_of_mem_body options hentity hnames
    | metamodel => exact Metamodel.notMem_of_mem_body options hentity hnames
    | persisted => exact Persisted.notMem_of_mem_body options hentity hnames (hquotes rfl)
    | vocabulary => exact Vocabulary.notMem_of_mem_body options hentity hnames
    | extension => exact Extension.notMem_of_mem_body options hentity hnames
  exact bodyLines_eq_body hlines

/-- Every file but that of a persisted class quotes nothing, so no name between quotes can break
its lines. -/
theorem SourceFile.bodyLines_of_ne_persisted {kind : Kind} (hkind : kind ≠ .persisted) :
    (kind.sourceFile options entity attrs).bodyLines = kind.body options entity attrs :=
  bodyLines_sourceFile options hentity hnames kind fun h => absurd h hkind

end Bodies

end PersistenceLayer
