import PersistenceLayer.Proofs.ImportLines
import PersistenceLayer.Proofs.TypeMentions

/-!
# Imports and mentions

Imports are collected from the attributes by one function, the bodies of the six
kinds of artifacts are written by others. Here the types that each body mentions
are traced back to the attributes, so that the import block turns out to cover
every one of them that has to be imported.
-/

namespace PersistenceLayer

open Text (tokens isWord)

/-- The types that an artifact of an entity can mention. -/
inductive Kind.MentionedType (kind : Kind) (entity : String) (attrs : List MappedAttribute) :
    String → Prop where
  | ownOrLibrary {type : String} (h : IsOwnOrLibrary entity type) :
      MentionedType kind entity attrs type
  | scalar {mapped : MappedAttribute} {type : String} (hmapped : mapped ∈ attrs)
      (htype : type = mapped.type.scalar.kotlinName ∨ type = mapped.type.scalar.javaName) :
      MentionedType kind entity attrs type
  | entityType {mapped : MappedAttribute} {target : Target} (hmapped : mapped ∈ attrs)
      (htarget : mapped.target? = some target) :
      MentionedType kind entity attrs (Naming.entityType target.entityName)
  | metamodelType {mapped : MappedAttribute} {target : Target} (hkind : kind = .extension)
      (hmapped : mapped ∈ attrs) (htarget : mapped.target? = some target) :
      MentionedType kind entity attrs (Naming.metamodelType target.entityName)

/-- The property of client-facing data has the scalar that the attribute flattens to. -/
theorem MappedAttribute.flat_scalar (mapped : MappedAttribute) :
    mapped.flat.scalar = mapped.type.scalar := by
  rw [flat]
  cases mapped.type <;> rfl

/-- The type of a property is the scalar of the column or the type of the target. -/
theorem MappedAttribute.valueType_cases (mapped : MappedAttribute) :
    mapped.valueType = .scalar mapped.type.scalar ∨
      ∃ target, mapped.target? = some target ∧
        mapped.valueType = .entity (Naming.entityType target.entityName) := by
  rw [valueType, target?]
  cases mapped.type with
  | manyToOne target => exact .inr ⟨target, rfl, rfl⟩
  | identifier | version | basic => exact .inl rfl

/-- Blanks in front of a line do not change what it mentions. -/
theorem lineMentions_indented (line : String) :
    lineMentions ("    " ++ line) = lineMentions line := by
  rw [lineMentions, Text.tokens_indented, lineMentions]

/-- An annotation mentions no type. -/
theorem Annotation.lineMentions_render (mark : Annotation) : lineMentions mark.render = [] := by
  rw [render, String.append_assoc]
  exact lineMentions_annotation _ (by decide) (by decide)

namespace MappedAttribute

variable {mapped : MappedAttribute} (h : mapped.HasIdentifierNames)

include h

/-- An assignment to a persisted object mentions the type by which it looks up the target. -/
theorem flatMap_entityAssignment :
    mapped.entityAssignment.lines.flatMap lineMentions =
      mapped.target?.toList.map fun target => Naming.entityType target.entityName := by
  rw [entityAssignment, target?]
  cases htype : mapped.type with
  | manyToOne target =>
    exact EntityAssignment.lineMentions_lookup h.isWord_property
      (Naming.isWord_foreignKey h.name (h.identifierName target htype))
      (Naming.isWord_entityType (h.entityName target htype))
  | identifier | version | basic => exact EntityAssignment.lineMentions_plain h.isWord_property

/-- An assignment to client-facing data mentions no type. -/
theorem lineMentions_dataAssignment : lineMentions mapped.dataAssignment.line = [] := by
  rw [dataAssignment]
  cases htype : mapped.type with
  | manyToOne target =>
    exact DataAssignment.lineMentions_navigated
      (Naming.isWord_foreignKey h.name (h.identifierName target htype)) h.isWord_property
      (Naming.isWord_property (h.identifierName target htype))
  | identifier | version | basic => exact DataAssignment.lineMentions_plain h.isWord_property

end MappedAttribute

namespace Kind

variable (options : Options) {entity : Entity} {attrs : List MappedAttribute}
  (hentity : Text.isIdentifier entity.name = true)
  (hnames : ∀ mapped ∈ attrs, mapped.HasIdentifierNames)

/-- Whether the types that a line mentions may be mentioned. -/
def MentionsOnly (kind : Kind) (entity : String) (attrs : List MappedAttribute) (line : String) :
    Prop :=
  ∀ type ∈ lineMentions line, kind.MentionedType entity attrs type

/-- A line that mentions no type mentions none that its artifact may not. -/
theorem mentionsOnly_of_eq_nil {kind : Kind} {entity line : String} (h : lineMentions line = []) :
    kind.MentionsOnly entity attrs line := by
  rw [MentionsOnly, h]
  exact fun _ h => absurd h List.not_mem_nil

/-- An empty line mentions no type. -/
theorem mentionsOnly_nil {kind : Kind} {entity : String} : kind.MentionsOnly entity attrs "" :=
  mentionsOnly_of_eq_nil (by decide)

/-- A closing brace mentions no type. -/
theorem mentionsOnly_brace {kind : Kind} {entity : String} :
    kind.MentionsOnly entity attrs "\x7d" :=
  mentionsOnly_of_eq_nil (by decide)

/-- The scalar of an attribute may be mentioned. -/
theorem mentionsOnly_of_scalar {kind : Kind} {entity line : String} {mapped : MappedAttribute}
    (hmapped : mapped ∈ attrs)
    (h : ∀ type ∈ lineMentions line, type = mapped.type.scalar.kotlinName) :
    kind.MentionsOnly entity attrs line :=
  fun type htype => .scalar hmapped (.inl (h type htype))

/-- Types of libraries and of the entity itself may be mentioned anywhere. -/
theorem mentionsOnly_of_ownOrLibrary {kind : Kind} {entity line : String}
    (h : ∀ type ∈ lineMentions line, IsOwnOrLibrary entity type) :
    kind.MentionsOnly entity attrs line :=
  fun type htype => .ownOrLibrary (h type htype)

/-- The types that the value of an attribute has in the two languages may be mentioned. -/
theorem mentionedType_valueType {kind : Kind} {entity : String} {mapped : MappedAttribute}
    (hmapped : mapped ∈ attrs) :
    kind.MentionedType entity attrs mapped.valueType.kotlinName ∧
      kind.MentionedType entity attrs mapped.valueType.javaName := by
  obtain htype | ⟨target, htarget, htype⟩ := mapped.valueType_cases <;> rw [htype]
  · exact ⟨.scalar hmapped (.inl rfl), .scalar hmapped (.inr rfl)⟩
  · exact ⟨.entityType hmapped htarget, .entityType hmapped htarget⟩

/-- The metamodels that the path of an attribute leads through may be mentioned by an extension. -/
theorem mentionsOnly_of_criteriaPath {entity line : String} {mapped : MappedAttribute}
    (hmapped : mapped ∈ attrs)
    (hline : lineMentions line = (mapped.criteriaPath entity).metamodels) :
    extension.MentionsOnly entity attrs line := by
  rw [MentionsOnly, hline, CriteriaPath.metamodels, MappedAttribute.criteriaPath,
    List.forall_mem_cons]
  refine ⟨.ownOrLibrary (.inr (by simp [Naming.generatedTypes])), ?_⟩
  cases htarget : mapped.target? with
  | none => exact fun _ h => absurd h List.not_mem_nil
  | some target => exact List.forall_mem_singleton.mpr (.metamodelType rfl hmapped htarget)

include hentity hnames

/-- A contract mentions the scalars that its attributes flatten to. -/
theorem mentionsOnly_contract : ∀ line ∈ contract.body options entity attrs,
    contract.MentionsOnly entity.name attrs line := by
  have hopening := lineMentions_opening (Naming.isWord_contractType hentity)
    (by decide : "interface " ∈ _)
  simp only [body, Contract.body, Contract.properties, List.forall_mem_append,
    List.forall_mem_cons, List.forall_mem_flatMap, List.forall_mem_map, ContractProperty.lines,
    List.not_mem_nil, IsEmpty.forall_iff, implies_true, and_true]
  refine ⟨⟨⟨mentionsOnly_of_eq_nil hopening, mentionsOnly_nil⟩, fun mapped hmapped =>
    ⟨fun marker _ => mentionsOnly_of_eq_nil ?_, ?_, mentionsOnly_nil⟩⟩, mentionsOnly_brace⟩
  · exact lineMentions_annotation _ (by decide) (by decide)
  · have hline := ContractProperty.lineMentions_declaration (hnames mapped hmapped).isWord_flat
      mapped.flat.scalar.isWord_kotlinName
    refine mentionsOnly_of_scalar hmapped fun type htype => ?_
    rw [← mapped.flat_scalar]
    exact List.mem_singleton.mp (hline ▸ htype)

/-- A data holder mentions its contract and the scalars that its attributes flatten to. -/
theorem mentionsOnly_dataHolder : ∀ line ∈ dataHolder.body options entity attrs,
    dataHolder.MentionsOnly entity.name attrs line := by
  have hopening := DataHolder.lineMentions_opening (Naming.isWord_dataType hentity)
    (Naming.isWord_contractType hentity)
  simp only [body, DataHolder.body, DataHolder.properties, List.forall_mem_append,
    List.forall_mem_cons, List.forall_mem_flatMap, List.forall_mem_map,
    List.not_mem_nil, IsEmpty.forall_iff, implies_true, and_true]
  refine ⟨⟨⟨?_, mentionsOnly_nil⟩, fun mapped hmapped => ⟨?_, mentionsOnly_nil⟩⟩,
    mentionsOnly_brace⟩
  · rw [MentionsOnly, hopening, List.forall_mem_singleton]
    exact .ownOrLibrary (.inr (by simp [Naming.generatedTypes]))
  · have hline := DataHolder.lineMentions_declaration (hnames mapped hmapped).isWord_flat
      mapped.flat.scalar.isWord_kotlinName options
    refine mentionsOnly_of_scalar hmapped fun type htype => ?_
    rw [← mapped.flat_scalar]
    exact List.mem_singleton.mp (hline ▸ htype)

/-- A persisted class mentions the types of its columns. -/
theorem mentionsOnly_persisted : ∀ line ∈ persisted.body options entity attrs,
    persisted.MentionsOnly entity.name attrs line := by
  have hopening := lineMentions_opening (Naming.isWord_entityType hentity)
    (by decide : "open class " ∈ _)
  simp only [body, Persisted.body, Persisted.properties, List.forall_mem_append,
    List.forall_mem_cons, List.forall_mem_flatMap, List.forall_mem_map, PersistedProperty.lines,
    List.not_mem_nil, IsEmpty.forall_iff, implies_true, and_true]
  refine ⟨⟨⟨fun mark _ => mentionsOnly_of_eq_nil mark.lineMentions_render,
    mentionsOnly_of_eq_nil hopening, mentionsOnly_nil⟩, fun mapped hmapped =>
    ⟨⟨fun mark _ => mentionsOnly_of_eq_nil ?_, ?_⟩, mentionsOnly_nil⟩⟩, mentionsOnly_brace⟩
  · rw [lineMentions_indented, mark.lineMentions_render]
  · have h := hnames mapped hmapped
    have hline : lineMentions mapped.persistedProperty.declarationLine =
        [mapped.valueType.kotlinName] :=
      PersistedProperty.lineMentions_declaration h.isWord_property h.isWord_kotlinName
    rw [MentionsOnly, hline, List.forall_mem_singleton]
    exact (mentionedType_valueType hmapped).1

/-- The declaration of a handle mentions the persisted class and the type of the property. -/
theorem mentionsOnly_declarationLine {mapped : MappedAttribute} (hmapped : mapped ∈ attrs) :
    metamodel.MentionsOnly entity.name attrs
      (Metamodel.declarationLine entity.name mapped.handle) := by
  have h := hnames mapped hmapped
  have howner := Naming.isWord_entityType hentity
  have hlibrary : metamodel.MentionedType entity.name attrs "SingularAttribute" :=
    .ownOrLibrary (.inl (by decide))
  have hown : metamodel.MentionedType entity.name attrs (Naming.entityType entity.name) :=
    .ownOrLibrary (.inr (by simp [Naming.generatedTypes]))
  rcases h.isWord_javaName with harray | hword
  · have hline : lineMentions (Metamodel.declarationLine entity.name mapped.handle) =
        ["SingularAttribute", Naming.entityType entity.name, "byte"] := by
      have htype : mapped.handle.type = .scalar .byteArray := harray
      have hjava : mapped.handle.type.javaName = "byte[]" := by
        rw [htype, ValueType.javaName, Scalar.javaName]
      have hname : isWord mapped.handle.name = true := h.isWord_property
      unfold Metamodel.declarationLine
      simp only [hjava, (Metamodel.lineMentions_declaration hname howner howner).2]
    have hbyte : metamodel.MentionedType entity.name attrs "byte" :=
      .ownOrLibrary (.inl (by decide))
    rw [MentionsOnly, hline]
    simp only [List.forall_mem_cons, List.not_mem_nil, IsEmpty.forall_iff, implies_true,
      and_true, hlibrary, hown, hbyte]
  · have hline : lineMentions (Metamodel.declarationLine entity.name mapped.handle) =
        ["SingularAttribute", Naming.entityType entity.name, mapped.valueType.javaName] :=
      (Metamodel.lineMentions_declaration h.isWord_property hword howner).1
    rw [MentionsOnly, hline]
    simp only [List.forall_mem_cons, List.not_mem_nil, IsEmpty.forall_iff, implies_true,
      and_true, hlibrary, hown, true_and]
    exact (mentionedType_valueType hmapped).2

/-- A metamodel mentions its persisted class and the types of its columns. -/
theorem mentionsOnly_metamodel : ∀ line ∈ metamodel.body options entity attrs,
    metamodel.MentionsOnly entity.name attrs line := by
  have hopening := lineMentions_opening (Naming.isWord_metamodelType hentity)
    (by decide : "public class " ∈ _)
  simp only [body, Metamodel.body, Metamodel.handles, List.forall_mem_append,
    List.forall_mem_cons, List.forall_mem_flatMap, List.forall_mem_map,
    List.not_mem_nil, IsEmpty.forall_iff, implies_true, and_true]
  refine ⟨⟨⟨mentionsOnly_of_eq_nil ?_, mentionsOnly_of_eq_nil hopening, mentionsOnly_nil⟩,
    fun mapped hmapped => ⟨mentionsOnly_declarationLine hentity hnames hmapped,
      mentionsOnly_nil⟩⟩, mentionsOnly_brace⟩
  rw [String.append_assoc]
  exact lineMentions_annotation _ (by decide) (by decide)

/-- A vocabulary mentions the scalars that its predicates compare with. -/
theorem mentionsOnly_vocabulary : ∀ line ∈ vocabulary.body options entity attrs,
    vocabulary.MentionsOnly entity.name attrs line := by
  have horderType := Naming.isWord_orderType hentity
  have hpredicateType := Naming.isWord_predicateType hentity
  have horders := lineMentions_opening horderType (by decide : "sealed class " ∈ _)
  have hpredicates := lineMentions_opening hpredicateType (by decide : "sealed class " ∈ _)
  have hclosing : vocabulary.MentionsOnly entity.name attrs "    \x7d" :=
    mentionsOnly_of_eq_nil (by decide)
  simp only [body, Vocabulary.body, Vocabulary.sealedClass, Vocabulary.orderCases,
    Vocabulary.predicateCases, Vocabulary.orderLines, Vocabulary.predicateLines,
    List.forall_mem_append, List.forall_mem_cons, List.forall_mem_flatMap, List.forall_mem_map,
    List.not_mem_nil, IsEmpty.forall_iff, implies_true, and_true]
  refine ⟨⟨⟨mentionsOnly_of_eq_nil horders, fun mapped hmapped => ⟨⟨mentionsOnly_of_eq_nil ?_,
      fun direction _ => mentionsOnly_of_eq_nil ?_⟩, hclosing⟩⟩, mentionsOnly_brace,
      mentionsOnly_nil⟩,
    ⟨mentionsOnly_of_eq_nil hpredicates, fun mapped hmapped => ⟨⟨mentionsOnly_of_eq_nil ?_,
      fun operator _ => mentionsOnly_of_scalar hmapped ?_⟩, hclosing⟩⟩, mentionsOnly_brace,
      mentionsOnly_nil⟩
  · exact Vocabulary.lineMentions_caseLine (hnames mapped hmapped).isWord_caseName horderType
  · exact Vocabulary.lineMentions_directionLine (hnames mapped hmapped).isWord_caseName direction
  · exact Vocabulary.lineMentions_caseLine (hnames mapped hmapped).isWord_caseName hpredicateType
  · exact mapped.predicateCase.lineMentions_leafLine operator
      (hnames mapped hmapped).isWord_caseName

omit hnames in
/-- A function over criteria mentions the types of its header and what its branches mention. -/
theorem mentionsOnly_criterionFunction {receiver name result : String} {branches : List String}
    (hreceiver : isWord receiver = true) (hname : isWord name = true)
    (hresult : isWord result = true)
    (hmentions : ∀ type ∈ [receiver, "CriteriaBuilder", "From", Naming.entityType entity.name,
      result], type ∈ libraryTypes ∨ type ∈ Naming.generatedTypes entity.name)
    (hbranches : ∀ line ∈ branches, extension.MentionsOnly entity.name attrs line) :
    ∀ line ∈ Extension.criterionFunction entity.name receiver name result branches,
      extension.MentionsOnly entity.name attrs line := by
  have hheader := Extension.lineMentions_criterionHeader hreceiver hname
    (Naming.isWord_entityType hentity) hresult
  simp only [Extension.criterionFunction, List.forall_mem_append, List.forall_mem_cons,
    List.not_mem_nil, IsEmpty.forall_iff, implies_true, and_true]
  exact ⟨⟨⟨mentionsOnly_of_ownOrLibrary (Extension.isOwnOrLibrary_of_eq hheader hmentions),
    mentionsOnly_of_eq_nil (by decide)⟩, hbranches⟩, mentionsOnly_of_eq_nil (by decide),
    mentionsOnly_brace, mentionsOnly_nil⟩

/-- The branches for orders mention the metamodels on their paths. -/
theorem mentionsOnly_orderBranches :
    ∀ line ∈ (Extension.orderBranches entity.name attrs).map (OrderBranch.line entity.name),
      extension.MentionsOnly entity.name attrs line := by
  simp only [Extension.orderBranches, List.forall_mem_map, List.forall_mem_flatMap,
    MappedAttribute.orderBranches]
  intro mapped hmapped direction _
  have h := hnames mapped hmapped
  have hwords := h.hasWords_criteriaPath hentity
  exact mentionsOnly_of_criteriaPath hmapped (lineMentions_branch
    (Extension.tokens_orderLine _ (Naming.isWord_orderType hentity) h.isWord_caseName
      direction.isWord_name direction.isWord_method.1)
    (Naming.isWord_orderType hentity) h.isWord_caseName direction.isWord_name hwords
    (.of_operands hwords direction.isWord_method.1 (by decide) false))

/-- The branches for predicates mention the metamodels on their paths. -/
theorem mentionsOnly_predicateBranches :
    ∀ line ∈ (Extension.predicateBranches entity.name attrs).map (PredicateBranch.line entity.name),
      extension.MentionsOnly entity.name attrs line := by
  simp only [Extension.predicateBranches, List.forall_mem_map, List.forall_mem_flatMap,
    MappedAttribute.predicateBranches]
  intro mapped hmapped operator _
  have h := hnames mapped hmapped
  have hwords := h.hasWords_criteriaPath hentity
  exact mentionsOnly_of_criteriaPath hmapped (lineMentions_branch
    (Extension.tokens_predicateLine _ _ (Naming.isWord_predicateType hentity) h.isWord_caseName
      operator.isWord_name)
    (Naming.isWord_predicateType hentity) h.isWord_caseName operator.isWord_name hwords
    (operator.mentionsPath_criteriaCall hwords))

/-- Copying into a persisted object mentions the types by which targets are looked up. -/
theorem mentionsOnly_entityCopyFunction (mode : CopyMode) :
    ∀ line ∈ Extension.entityCopyFunction entity.name mode
      (Extension.entityAssignments mode attrs), extension.MentionsOnly entity.name attrs line := by
  have hheader := Extension.lineMentions_entityCopyHeader (Naming.isWord_contractType hentity)
    (by cases mode <;> decide : isWord mode.functionName = true)
    (Naming.isWord_entityType hentity)
  simp only [Extension.entityCopyFunction, Extension.entityAssignments, List.forall_mem_append,
    List.forall_mem_cons, List.forall_mem_flatMap, List.forall_mem_map, List.not_mem_nil,
    IsEmpty.forall_iff, implies_true, and_true]
  refine ⟨⟨⟨mentionsOnly_of_eq_nil (by decide), mentionsOnly_of_ownOrLibrary
    (Extension.isOwnOrLibrary_of_eq hheader (by simp [libraryTypes, Naming.generatedTypes]))⟩,
    fun mapped hmapped line hline type htype => ?_⟩, mentionsOnly_brace, mentionsOnly_nil⟩
  have hmapped := List.mem_of_mem_filter hmapped
  have hlines := MappedAttribute.flatMap_entityAssignment (hnames mapped hmapped)
  have hmem : type ∈ mapped.entityAssignment.lines.flatMap lineMentions :=
    List.mem_flatMap.mpr ⟨line, hline, htype⟩
  rw [hlines] at hmem
  obtain ⟨target, htarget, rfl⟩ := List.mem_map.mp hmem
  exact .entityType hmapped (Option.mem_toList.mp htarget)

/-- The function that copies into client-facing data mentions both ends of the copy. -/
theorem mentionsOnly_dataCopyFunction :
    ∀ line ∈ Extension.dataCopyFunction entity.name (Extension.dataAssignments attrs),
      extension.MentionsOnly entity.name attrs line := by
  have hheader := Extension.lineMentions_dataCopyHeader (Naming.isWord_entityType hentity)
    (Naming.isWord_contractType hentity)
  simp only [Extension.dataCopyFunction, Extension.dataAssignments, List.forall_mem_append,
    List.forall_mem_cons, List.forall_mem_map, List.not_mem_nil, IsEmpty.forall_iff,
    implies_true, and_true]
  exact ⟨⟨mentionsOnly_of_ownOrLibrary
      (Extension.isOwnOrLibrary_of_eq hheader (by simp [Naming.generatedTypes])),
    fun mapped hmapped => mentionsOnly_of_eq_nil
      (MappedAttribute.lineMentions_dataAssignment (hnames mapped hmapped))⟩,
    mentionsOnly_brace, mentionsOnly_nil⟩

/-- An extension mentions types of the entity itself, and persisted classes and metamodels of its
targets. -/
theorem mentionsOnly_extension : ∀ line ∈ extension.body options entity attrs,
    extension.MentionsOnly entity.name attrs line := by
  simp only [body, Extension.body, List.forall_mem_append]
  refine ⟨⟨⟨⟨⟨⟨?_, ?_⟩, fun line hline => mentionsOnly_of_ownOrLibrary
      (Extension.isOwnOrLibrary_countFunction hentity line hline)⟩,
    fun line hline => mentionsOnly_of_ownOrLibrary
      (Extension.isOwnOrLibrary_listFunction hentity line hline)⟩,
    mentionsOnly_entityCopyFunction hentity hnames .insertable⟩,
    mentionsOnly_entityCopyFunction hentity hnames .updatable⟩,
    mentionsOnly_dataCopyFunction hentity hnames⟩
  · exact mentionsOnly_criterionFunction hentity (Naming.isWord_orderType hentity) (by decide)
      (by decide) (by simp [libraryTypes, Naming.generatedTypes])
      (mentionsOnly_orderBranches hentity hnames)
  · exact mentionsOnly_criterionFunction hentity (Naming.isWord_predicateType hentity) (by decide)
      (by decide) (by simp [libraryTypes, Naming.generatedTypes])
      (mentionsOnly_predicateBranches hentity hnames)

/-- The body of an artifact mentions nothing else. -/
theorem mentionedType_of_mem_mentions {kind : Kind} {type : String}
    (hquotes : kind = .persisted → entity.QuotesOnOneLine attrs)
    (h : type ∈ (kind.sourceFile options entity attrs).mentions) :
    kind.MentionedType entity.name attrs type := by
  rw [SourceFile.mentions, SourceFile.bodyLines_sourceFile options hentity hnames kind hquotes] at h
  obtain ⟨line, hline, htype⟩ := List.mem_flatMap.mp h
  cases kind with
  | contract => exact mentionsOnly_contract options hentity hnames line hline type htype
  | dataHolder => exact mentionsOnly_dataHolder options hentity hnames line hline type htype
  | metamodel => exact mentionsOnly_metamodel options hentity hnames line hline type htype
  | persisted => exact mentionsOnly_persisted options hentity hnames line hline type htype
  | vocabulary => exact mentionsOnly_vocabulary options hentity hnames line hline type htype
  | extension => exact mentionsOnly_extension options hentity hnames line hline type htype

end Kind

/-! ## Names of mentioned types -/

/-- A text is told by its end from texts that do not end like that. -/
theorem Text.append_ne_of_not_suffix {front back text : String}
    (h : ¬ back.toList <:+ text.toList) : front ++ back ≠ text := by
  rintro rfl
  rw [String.toList_append] at h
  exact h (List.suffix_append _ _)

/-- Scalars that have to be imported are called the same in both languages, and differently from
other scalars. -/
theorem Scalar.eq_of_kotlinName_eq {scalar other : Scalar} {name : String}
    (hname : scalar.qualifiedName? = some name)
    (h : scalar.kotlinName = other.kotlinName ∨ scalar.kotlinName = other.javaName) :
    scalar = other := by
  cases scalar <;> cases other <;> first
    | rfl
    | (cases hname; done)
    | exact absurd h (by decide)

/-- A scalar that has to be imported is called like no type of a library and no generated type. -/
theorem Scalar.kotlinName_ne_of_qualifiedName? {scalar : Scalar} {name : String}
    (hname : scalar.qualifiedName? = some name) (entity : String) :
    ¬ IsOwnOrLibrary entity scalar.kotlinName ∧ Naming.entityType entity ≠ scalar.kotlinName ∧
      Naming.metamodelType entity ≠ scalar.kotlinName := by
  obtain ⟨hlibrary, hfirst, hlast⟩ : scalar.kotlinName ∉ libraryTypes ∧
      scalar.kotlinName.toList.head? ≠ some 'I' ∧
      ∀ back ∈ ["Data", "Entity", "Order", "Predicate", "_"],
        ¬ back.toList <:+ scalar.kotlinName.toList := by
    cases scalar <;> first
      | (cases hname; done)
      | decide
  have hne (front : String) {back : String}
      (hback : back ∈ ["Data", "Entity", "Order", "Predicate", "_"]) :
      front ++ back ≠ scalar.kotlinName :=
    Text.append_ne_of_not_suffix (hlast back hback)
  have hcontract : Naming.contractType entity ≠ scalar.kotlinName := by
    intro h
    rw [← h, Naming.contractType] at hfirst
    simp at hfirst
  have hentity : Naming.entityType entity ≠ scalar.kotlinName := hne _ (by decide)
  have hmetamodel : Naming.metamodelType entity ≠ scalar.kotlinName := hne _ (by decide)
  refine ⟨fun h => h.elim hlibrary ?_, hentity, hmetamodel⟩
  have hdata : Naming.dataType entity ≠ scalar.kotlinName := hne _ (by decide)
  have horder : Naming.orderType entity ≠ scalar.kotlinName := hne _ (by decide)
  have hpredicate : Naming.predicateType entity ≠ scalar.kotlinName := hne _ (by decide)
  simp [Naming.generatedTypes, hcontract.symm, hdata.symm, hentity.symm, hmetamodel.symm,
    horder.symm, hpredicate.symm]

/-- A persisted class or a metamodel is called like no type of a library and no scalar. -/
theorem Naming.notMem_libraryTypes (entity : String) {type : String}
    (htype : type = entityType entity ∨ type = metamodelType entity) :
    type ∉ libraryTypes ∧
      ∀ scalar : Scalar, type ≠ scalar.kotlinName ∧ type ≠ scalar.javaName := by
  have hne {text : String} (h : ∀ back ∈ ["Entity", "Entity_"], ¬ back.toList <:+ text.toList) :
      type ≠ text := by
    rcases htype with rfl | rfl
    · exact Text.append_ne_of_not_suffix (h _ (by decide))
    · rw [metamodelType, entityType, String.append_assoc]
      exact Text.append_ne_of_not_suffix (h "Entity_" (by decide))
  constructor
  · intro hmem
    have hlibrary : ∀ text ∈ libraryTypes, ∀ back ∈ ["Entity", "Entity_"],
        ¬ back.toList <:+ text.toList := by decide
    exact hne (hlibrary type hmem) rfl
  · intro scalar
    exact ⟨hne (by cases scalar <;> decide), hne (by cases scalar <;> decide)⟩

/-! ## Agreement of imports and mentions -/

/-- Whether a block of imports is canonical and exact. -/
structure ImportsExact (set : EntitySet) (options : Options) (entity : Entity) (kind : Kind)
    (block : List String) : Prop where
  /-- The imports are ordered by their bytes, so that none occurs twice. -/
  increasing : (block.map Text.bytes).Pairwise (· < ·)
  /-- Nothing is imported but what the kind and the attributes ask for, each in a statement of the
  artifact's language. -/
  mem_iff : ∀ line, line ∈ block ↔
    ∃ name, set.Imports options entity kind name ∧ line = kind.language.importLine name

/-- Whether a block of imports is sufficient for the types that are mentioned. -/
structure ImportsSuffice (set : EntitySet) (entity : Entity) (kind : Kind)
    (block mentions : List String) : Prop where
  /-- A scalar that is mentioned is imported if it has to be. -/
  scalars : ∀ (scalar : Scalar) (name : String), scalar.kotlinName ∈ mentions →
    scalar.qualifiedName? = some name → kind.language.importLine name ∈ block
  /-- A persisted class or a metamodel that is mentioned is the entity's own, or that of a target,
  which lies in the same package or is imported. -/
  types : ∀ (type other : String), type ∈ mentions →
    type = Naming.entityType other ∨ type = Naming.metamodelType other →
      type ∈ Naming.generatedTypes entity.name ∨
        ∃ target, set.HasRelationship entity target ∧
          (type = Naming.entityType target.name ∨
            kind = .extension ∧ type = Naming.metamodelType target.name) ∧
          (target.packageName = entity.packageName ∨
            kind.language.importLine (target.qualified type) ∈ block)

namespace EntitySet

variable {set : EntitySet} {options : Options} {entity : Entity} {kind : Kind}
  {artifact : Artifact}

/-- A scalar that is mentioned and has to be imported is one that an attribute flattens to. -/
theorem imports_of_mentioned_scalar {attrs : List MappedAttribute}
    (hattrs : set.mapEntity entity = .ok attrs) {scalar : Scalar} {name : String}
    (hname : scalar.qualifiedName? = some name)
    (h : kind.MentionedType entity.name attrs scalar.kotlinName) :
    set.Imports options entity kind name := by
  generalize htype : scalar.kotlinName = type at h
  cases h with
  | ownOrLibrary hown =>
    exact absurd (htype ▸ hown) (Scalar.kotlinName_ne_of_qualifiedName? hname entity.name).1
  | scalar hmapped hscalar =>
    obtain rfl := Scalar.eq_of_kotlinName_eq hname (htype ▸ hscalar)
    obtain ⟨hattr, hmapsTo⟩ := mapsTo_of_mem hattrs hmapped
    exact .scalar hattr ((flattensTo_iff hmapsTo).mpr rfl) hname
  | entityType _ _ =>
    exact absurd htype.symm (Scalar.kotlinName_ne_of_qualifiedName? hname _).2.1
  | metamodelType _ _ _ =>
    exact absurd htype.symm (Scalar.kotlinName_ne_of_qualifiedName? hname _).2.2

/-- A persisted class or a metamodel that is mentioned is the entity's own or that of a target. -/
theorem exists_target_of_mentioned_type {attrs : List MappedAttribute}
    (hattrs : set.mapEntity entity = .ok attrs) {type other : String}
    (htype : type = Naming.entityType other ∨ type = Naming.metamodelType other)
    (h : kind.MentionedType entity.name attrs type) :
    type ∈ Naming.generatedTypes entity.name ∨
      ∃ target, set.HasRelationship entity target ∧
        (type = Naming.entityType target.name ∨
          kind = .extension ∧ type = Naming.metamodelType target.name) := by
  obtain ⟨hlibrary, hscalar⟩ := Naming.notMem_libraryTypes other htype
  cases h with
  | ownOrLibrary hown => exact .inl (hown.resolve_left hlibrary)
  | @scalar mapped _ _ h => exact absurd h (not_or.mpr (hscalar mapped.type.scalar))
  | entityType hmapped h =>
    obtain ⟨found, hfound, -, hname⟩ := exists_hasRelationship hattrs hmapped h
    exact .inr ⟨found, hfound, .inl (by rw [hname])⟩
  | metamodelType hkind hmapped h =>
    obtain ⟨found, hfound, -, hname⟩ := exists_hasRelationship hattrs hmapped h
    exact .inr ⟨found, hfound, .inr ⟨hkind, by rw [hname]⟩⟩

/-- The import block of an artifact is canonical and exact, and sufficient for its body if a
persisted class quotes plain names. -/
theorem imports_fit_mentions (isLetter : Char → Bool) (hnames : set.HasIdentifierNames)
    (hpackages : set.HasPackageNamesOnOneLine) (hentity : entity ∈ set.entities)
    (h : set.render options entity kind = .ok artifact) :
    ∃ file, set.emit options entity kind = .ok file ∧ artifact = entity.artifactOf kind file ∧
      ImportsExact set options entity kind (SourceFile.importBlock artifact.contents) ∧
      ((kind = .persisted → entity.HasPlainNames isLetter) →
        ImportsSuffice set entity kind (SourceFile.importBlock artifact.contents)
          file.mentions) := by
  obtain ⟨file, hemit, rfl⟩ : ∃ file, set.emit options entity kind = .ok file ∧
      artifact = entity.artifactOf kind file := by
    rw [render] at h
    cases hemit : set.emit options entity kind with
    | error cause =>
      rw [hemit] at h
      cases h
    | ok file =>
      rw [hemit] at h
      exact ⟨file, rfl, (Except.ok.inj h).symm⟩
  obtain ⟨hblock, hlines⟩ := importBlock_emit hnames hpackages hentity hemit
  obtain ⟨attrs, hattrs, hfile⟩ := exists_attrs_of_emit hemit
  refine ⟨file, hemit, rfl, ?_, fun hplain => ?_⟩
  · change ImportsExact set options entity kind (SourceFile.importBlock file.text)
    rw [hblock]
    exact ⟨List.pairwise_map.mpr (file.imports.increasing.imp Text.bytes_lt), hlines⟩
  · have hmentions : ∀ type ∈ file.mentions, kind.MentionedType entity.name attrs type := by
      rw [hfile]
      exact fun type => Kind.mentionedType_of_mem_mentions options (hnames entity hentity).1
        (hnames.mapped hentity hattrs) fun hkind => (hplain hkind).quotesOnOneLine hattrs
    change ImportsSuffice set entity kind (SourceFile.importBlock file.text) file.mentions
    rw [hblock]
    refine ⟨fun scalar name htype hname => ?_, fun type other htype hother => ?_⟩
    · exact (hlines _).mpr
        ⟨name, imports_of_mentioned_scalar hattrs hname (hmentions _ htype), rfl⟩
    · refine (exists_target_of_mentioned_type hattrs hother (hmentions _ htype)).imp_right ?_
      rintro ⟨target, htarget, htype⟩
      refine ⟨target, htarget, htype, or_iff_not_imp_left.mpr fun hpackage => ?_⟩
      rw [hlines]
      rcases htype with rfl | ⟨hkind, rfl⟩
      · exact ⟨_, .entityType htarget hpackage, rfl⟩
      · exact ⟨_, .metamodelType hkind htarget hpackage, rfl⟩

/-- The imports of teams, which lie in a package, and of their members, who refer to them from
outside of it. -/
theorem imports_fit_mentions_teamAndMember :
    teamAndMember.HasIdentifierNames ∧ teamAndMember.HasPackageNamesOnOneLine ∧
      ∀ entity ∈ teamAndMember.entities, ∀ kind, ∃ artifact,
        teamAndMember.render {} entity kind = .ok artifact ∧
        ∃ file, teamAndMember.emit {} entity kind = .ok file ∧
          artifact = entity.artifactOf kind file ∧
          ImportsExact teamAndMember {} entity kind (SourceFile.importBlock artifact.contents) ∧
          ImportsSuffice teamAndMember entity kind (SourceFile.importBlock artifact.contents)
            file.mentions := by
  have hpackages : teamAndMember.HasPackageNamesOnOneLine := by
    unfold HasPackageNamesOnOneLine
    decide
  refine ⟨teamAndMember.hasIdentifierNames, hpackages, fun entity hentity kind => ?_⟩
  obtain ⟨artifacts, hrender⟩ := teamAndMember.exists_renderAll
  obtain ⟨attrs, hattrs, -⟩ := exists_generates rfl hrender hentity
  have hartifact : teamAndMember.render {} entity kind = .ok (entity.artifact {} attrs kind) := by
    rw [render_eq, hattrs]
    rfl
  obtain ⟨file, hemit, hartifactOf, hexact, hsuffice⟩ := imports_fit_mentions Char.isAlpha
    teamAndMember.hasIdentifierNames hpackages hentity hartifact
  exact ⟨_, hartifact, file, hemit, hartifactOf, hexact,
    hsuffice fun _ => teamAndMember.hasPlainNames Char.isAlpha entity hentity⟩

/-- The set is valid and lies in no package, and yet the user's persisted class mentions a scalar
that has to be imported and is not. -/
theorem import_missing_codedUsers :
    codedUsers.isValid = true ∧ codedUsers.HasPackageNamesOnOneLine ∧
      ∃ artifact, codedUsers.render {} codedUser .persisted = .ok artifact ∧
      ∃ file, codedUsers.emit {} codedUser .persisted = .ok file ∧
        artifact = codedUser.artifactOf .persisted file ∧
        ¬ ImportsSuffice codedUsers codedUser .persisted
          (SourceFile.importBlock artifact.contents) file.mentions := by
  have hpackages : codedUsers.HasPackageNamesOnOneLine := by
    unfold HasPackageNamesOnOneLine
    decide
  obtain ⟨file, hemit⟩ : ∃ file, codedUsers.emit {} codedUser .persisted = .ok file := ⟨_, rfl⟩
  have hrender : codedUsers.render {} codedUser .persisted =
      .ok (codedUser.artifactOf .persisted file) := by
    rw [render, hemit]
    rfl
  refine ⟨by decide, hpackages, _, hrender, file, hemit, rfl, fun hsuffice => ?_⟩
  have hmention : "BigDecimal" ∈ file.mentions := by
    rw [SourceFile.mentions, codedUsers.bodyLines_persisted hemit]
    decide +kernel
  have himport := hsuffice.scalars .bigDecimal "java.math.BigDecimal" hmention rfl
  have hblock := (importBlock_emit codedUsers.hasIdentifierNames hpackages (by decide) hemit).1
  change _ ∈ SourceFile.importBlock file.text at himport
  rw [hblock] at himport
  obtain rfl := Except.ok.inj hemit
  revert himport
  decide +kernel

end EntitySet

end PersistenceLayer
