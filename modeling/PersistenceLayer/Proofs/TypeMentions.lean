import PersistenceLayer.Proofs.CopyFunctions
import PersistenceLayer.Proofs.CriteriaPaths

/-!
# Types that bodies mention

Which types the body of an artifact mentions is read off the tokens of its
lines, by what stands in front of a word and behind it. Whatever a body mentions
is a type of a library, one that is generated for the entity itself, the scalar
of an attribute or a type that is generated for a relationship's target.
-/

namespace PersistenceLayer

open Text (tokens isWord tokens_of_isWord tokens_append_of_opens tokens_append_of_ends)

/-! ## Reading mentions -/

/-- Whether a word between two tokens is a type: one with arguments, the type of a declaration, an
argument of a type, the owner of a handle, or the receiver of a function. -/
def isTypePosition (before after : String) : Bool :=
  after == "<" || before == ":" && ["?", "=", "\x7b", ")", ","].contains after ||
    ["<", ","].contains before && [",", ">", "["].contains after ||
    ["[", "fun"].contains before && after == "."

/-- The types that tokens mention; those of class literals stand in front of two colons. -/
def typeMentions : List String → List String
  | before :: word :: after :: rest =>
    (if word == ":" && after == ":" then [before]
      else if isWord word && isTypePosition before after then [word] else []) ++
      typeMentions (word :: after :: rest)
  | _ => []

/-- The types that a line mentions. Annotations are not looked into. -/
def lineMentions (line : String) : List String :=
  if (tokens line).head? = some "@" then [] else typeMentions (tokens line)

/-- The types that a file mentions on the lines of its text behind the prelude. -/
def SourceFile.mentions (file : SourceFile) : List String :=
  file.bodyLines.flatMap lineMentions

/-- What is mentioned is read from three tokens at a time. -/
theorem typeMentions_append (front back : List String) (first second : String) :
    typeMentions (front ++ first :: second :: back) =
      typeMentions (front ++ [first, second]) ++ typeMentions (first :: second :: back) := by
  induction front with
  | nil => rfl
  | cons token front ih =>
    obtain ⟨next, third, others, hothers⟩ : ∃ next third others, ∀ back,
        front ++ first :: second :: back = next :: third :: (others ++ back) := by
      rcases front with - | ⟨next, - | ⟨third, front⟩⟩
      · exact ⟨first, second, [], fun _ => rfl⟩
      · exact ⟨next, first, [second], fun _ => rfl⟩
      · exact ⟨next, third, front ++ [first, second], fun back => by simp⟩
    have hmore := hothers back
    have hless := hothers []
    rw [hmore, hless] at ih
    rw [List.cons_append, List.cons_append, hmore, hless, typeMentions, typeMentions, ih,
      List.append_assoc]

/-- A word is none of the signs that surround types. -/
theorem Text.ne_sign_of_isWord {word : String} (h : isWord word = true) :
    word ≠ "@" ∧ word ≠ ":" ∧ word ≠ "<" ∧ word ≠ ">" ∧ word ≠ "," ∧ word ≠ "[" ∧ word ≠ "." ∧
      word ≠ "?" ∧ word ≠ "=" ∧ word ≠ "\x7b" ∧ word ≠ ")" ∧ word ≠ "(" ∧ word ≠ "]" := by
  and_intros <;> exact (Text.ne_of_isWord h (by decide)).symm

/-- An annotation mentions nothing. -/
theorem lineMentions_annotation {front : String} (back : String)
    (hfront : (tokens front).head? = some "@") (hends : Text.endsWithSign front = true) :
    lineMentions (front ++ back) = [] := by
  rw [lineMentions, tokens_append_of_ends hends, List.head?_append, hfront]
  rfl

/-! ## Lines of data and of persisted classes -/

section Declarations

variable {name type : String} (hname : isWord name = true) (htype : isWord type = true)

include hname

/-- The line that opens a declaration without a supertype mentions nothing. -/
theorem lineMentions_opening {front : String}
    (hfront : front ∈ ["interface ", "open class ", "public class ", "sealed class "]) :
    lineMentions (front ++ name ++ " \x7b") = [] := by
  obtain ⟨hends, hwords⟩ : Text.endsWithSign front = true ∧ tokens front ∈
      [["interface"], ["open", "class"], ["public", "class"], ["sealed", "class"]] := by
    revert front
    decide
  have htokens : tokens (front ++ name ++ " \x7b") = tokens front ++ [name, "\x7b"] := by
    rw [tokens_append_of_opens (by decide), tokens_append_of_ends hends, tokens_of_isWord hname,
      List.append_assoc]
    rfl
  rw [lineMentions, htokens]
  simp only [List.mem_cons, List.not_mem_nil, or_false] at hwords
  rcases hwords with h | h | h | h <;>
    simp +decide [h, typeMentions, isTypePosition, Text.ne_sign_of_isWord hname]

include htype

/-- The line that opens a data holder mentions the contract. -/
theorem DataHolder.lineMentions_opening :
    lineMentions ("open class " ++ name ++ " : " ++ type ++ " \x7b") = [type] := by
  have htokens : tokens ("open class " ++ name ++ " : " ++ type ++ " \x7b") =
      ["open", "class", name, ":", type, "\x7b"] := by
    simp (disch := simp +decide) only [tokens_append_of_opens, tokens_append_of_ends,
      tokens_of_isWord hname, tokens_of_isWord htype]
    rfl
  simp +decide [lineMentions, htokens, typeMentions, isTypePosition, hname, htype,
    Text.ne_sign_of_isWord hname, Text.ne_sign_of_isWord htype]

/-- A property of a contract mentions its type. -/
theorem ContractProperty.lineMentions_declaration :
    lineMentions ("    var " ++ name ++ ": " ++ type ++ "?") = [type] := by
  simp +decide [lineMentions, ContractProperty.tokens_line hname htype, typeMentions,
    isTypePosition, hname, htype, Text.ne_sign_of_isWord hname, Text.ne_sign_of_isWord htype]

/-- A property of a data holder mentions its type, whatever initializes it. -/
theorem DataHolder.lineMentions_declaration (options : Options) :
    lineMentions ("    override var " ++ name ++ ": " ++ type ++ "?" ++ initializer options) =
      [type] := by
  have hinitializer : tokens (initializer options) ∈
      [["by", "mutableStateOf", "(", "null", ")"], ["=", "null"]] := by
    unfold initializer
    split <;> decide
  rw [lineMentions, tokens_line options hname htype]
  simp only [List.mem_cons, List.not_mem_nil, or_false] at hinitializer
  rcases hinitializer with h | h <;>
    simp +decide [h, typeMentions, isTypePosition, hname, htype, Text.ne_sign_of_isWord hname,
      Text.ne_sign_of_isWord htype]

/-- A property of a persisted class mentions its type. -/
theorem PersistedProperty.lineMentions_declaration :
    lineMentions ("    open var " ++ name ++ ": " ++ type ++ "? = null") = [type] := by
  simp +decide [lineMentions, PersistedProperty.tokens_line hname htype, typeMentions,
    isTypePosition, hname, htype, Text.ne_sign_of_isWord hname, Text.ne_sign_of_isWord htype]

/-- A handle mentions the owner and the type of its property; an array is mentioned by its
elements. -/
theorem Metamodel.lineMentions_declaration {owner : String} (howner : isWord owner = true) :
    lineMentions ("    public static volatile SingularAttribute<" ++ owner ++ ", " ++ type ++
        "> " ++ name ++ ";") = ["SingularAttribute", owner, type] ∧
      lineMentions ("    public static volatile SingularAttribute<" ++ owner ++ ", " ++ "byte[]" ++
        "> " ++ name ++ ";") = ["SingularAttribute", owner, "byte"] := by
  have harray : tokens "byte[]" = ["byte", "[", "]"] := by decide
  constructor <;>
    simp +decide [lineMentions, Metamodel.tokens_line howner hname, tokens_of_isWord htype, harray,
      typeMentions, isTypePosition, hname, htype, howner, Text.ne_sign_of_isWord hname,
      Text.ne_sign_of_isWord htype, Text.ne_sign_of_isWord howner]

end Declarations

/-! ## Lines of vocabularies -/

section Vocabulary

variable {name base operand : String} (hname : isWord name = true)

include hname

/-- The line that opens a case mentions no type. -/
theorem Vocabulary.lineMentions_caseLine (hbase : isWord base = true) :
    lineMentions (caseLine name base) = [] := by
  simp +decide [lineMentions, Vocabulary.tokens_caseLine hname hbase, typeMentions,
    isTypePosition, hname, Text.ne_sign_of_isWord hname, Text.ne_sign_of_isWord hbase]

/-- The leaf of a direction mentions no type. -/
theorem Vocabulary.lineMentions_directionLine (direction : Direction) :
    lineMentions (directionLine name direction) = [] := by
  have htokens : tokens (directionLine name direction) = _ :=
    Vocabulary.tokens_directionLine direction.isWord_name hname
  simp +decide [lineMentions, htokens, typeMentions, isTypePosition,
    Text.ne_sign_of_isWord hname, Text.ne_sign_of_isWord direction.isWord_name]

end Vocabulary

/-- The leaf of an operator mentions the type of its operands. -/
theorem PredicateCase.lineMentions_leafLine (predicate : PredicateCase) (operator : Operator)
    (hname : isWord predicate.name = true) :
    ∀ type ∈ lineMentions (predicate.leafLine operator), type = predicate.operand.kotlinName := by
  have hoperator := operator.isWord_name
  have hoperand := predicate.operand.isWord_kotlinName
  have htokens : tokens (predicate.leafLine operator) = _ :=
    Vocabulary.tokens_leafLine _ hname
  rw [lineMentions, htokens]
  cases operator.arity with
  | nullary =>
    dsimp only
    rw [Vocabulary.tokens_object hoperator]
    simp +decide [typeMentions, isTypePosition, hname, hoperator, Text.ne_sign_of_isWord hname,
      Text.ne_sign_of_isWord hoperator]
  | unary =>
    dsimp only
    rw [Vocabulary.tokens_unaryClass hoperator hoperand]
    simp +decide [typeMentions, isTypePosition, hname, hoperator, hoperand,
      Text.ne_sign_of_isWord hname, Text.ne_sign_of_isWord hoperator,
      Text.ne_sign_of_isWord hoperand]
  | binary =>
    dsimp only
    rw [Vocabulary.tokens_binaryClass hoperator hoperand]
    simp +decide [typeMentions, isTypePosition, hname, hoperator, hoperand,
      Text.ne_sign_of_isWord hname, Text.ne_sign_of_isWord hoperator,
      Text.ne_sign_of_isWord hoperand]

/-! ## Lines of extensions -/

/-- The types of libraries that bodies mention. -/
def libraryTypes : List String :=
  ["Boolean", "CriteriaBuilder", "EntityManager", "From", "Int", "List", "LockModeType", "Long",
    "Order", "Predicate", "SingularAttribute", "byte"]

/-- The types that are generated for an entity. -/
def Naming.generatedTypes (entity : String) : List String :=
  [contractType entity, dataType entity, metamodelType entity, entityType entity,
    orderType entity, predicateType entity]

/-- Whether a type comes from a library or is generated for the given entity. -/
def IsOwnOrLibrary (entity type : String) : Prop :=
  type ∈ libraryTypes ∨ type ∈ Naming.generatedTypes entity

namespace Extension

/-- A line that is the same for all entities mentions types of libraries only. -/
theorem isOwnOrLibrary_of_literal {line entity : String}
    (h : ∀ type ∈ lineMentions line, type ∈ libraryTypes) :
    ∀ type ∈ lineMentions line, IsOwnOrLibrary entity type :=
  fun type htype => .inl (h type htype)

/-- A class literal mentions its type. -/
theorem lineMentions_classLiteral (front : String) {name : String} (hname : isWord name = true)
    (hfront : front ∈ ["    val criteriaQuery = criteriaBuilder.createQuery(",
      "    val root = criteriaQuery.from("]) :
    lineMentions (front ++ name ++ "::class.java)") = [name] := by
  obtain ⟨hends, hwords⟩ : Text.endsWithSign front = true ∧ tokens front ∈
      [["val", "criteriaQuery", "=", "criteriaBuilder", ".", "createQuery", "("],
        ["val", "root", "=", "criteriaQuery", ".", "from", "("]] := by
    revert front
    decide
  have htokens : tokens (front ++ name ++ "::class.java)") =
      tokens front ++ [name, ":", ":", "class", ".", "java", ")"] := by
    rw [tokens_append_of_opens (by decide), tokens_append_of_ends hends, tokens_of_isWord hname,
      List.append_assoc]
    rfl
  rw [lineMentions, htokens]
  simp only [List.mem_cons, List.not_mem_nil, or_false] at hwords
  rcases hwords with h | h <;>
    simp +decide [h, typeMentions, isTypePosition, Text.ne_sign_of_isWord hname]

section Headers

variable {receiver name result type : String}

/-- The header of a function that turns a leaf into a criterion mentions its receiver, the persisted
class and its result. -/
theorem lineMentions_criterionHeader (hreceiver : isWord receiver = true)
    (hname : isWord name = true) (htype : isWord type = true) (hresult : isWord result = true) :
    lineMentions ("fun " ++ receiver ++ "." ++ name ++
      "(criteriaBuilder: CriteriaBuilder, root: From<*, " ++ type ++ ">): " ++ result ++
      " \x7b") = [receiver, "CriteriaBuilder", "From", type, result] := by
  have htokens : tokens ("fun " ++ receiver ++ "." ++ name ++
      "(criteriaBuilder: CriteriaBuilder, root: From<*, " ++ type ++ ">): " ++ result ++
      " \x7b") = ["fun", receiver, ".", name, "(", "criteriaBuilder", ":", "CriteriaBuilder", ",",
        "root", ":", "From", "<", "*", ",", type, ">", ")", ":", result, "\x7b"] := by
    simp (disch := simp +decide) only [tokens_append_of_opens, tokens_append_of_ends,
      tokens_of_isWord hreceiver, tokens_of_isWord hname, tokens_of_isWord htype,
      tokens_of_isWord hresult, List.append_assoc]
    rfl
  simp +decide [lineMentions, htokens, typeMentions, isTypePosition, hname, hreceiver, htype,
    hresult, Text.ne_sign_of_isWord hname, Text.ne_sign_of_isWord hreceiver,
    Text.ne_sign_of_isWord htype, Text.ne_sign_of_isWord hresult]

/-- The header of the function that counts mentions the class of predicates. -/
theorem lineMentions_countHeader {predicateType : String} (hname : isWord ("count" ++ name) = true)
    (hpredicate : isWord predicateType = true) :
    lineMentions ("fun EntityManager.count" ++ name ++
      "(distinct: Boolean = false, filtering: List<" ++ predicateType ++
      "> = emptyList()): Long \x7b") =
        ["EntityManager", "Boolean", "List", predicateType, "Long"] := by
  have hverb : "fun EntityManager.count" = "fun EntityManager." ++ "count" := by decide
  have htokens : tokens ("fun EntityManager.count" ++ name ++
      "(distinct: Boolean = false, filtering: List<" ++ predicateType ++
      "> = emptyList()): Long \x7b") = ["fun", "EntityManager", ".", "count" ++ name, "(",
        "distinct", ":", "Boolean", "=", "false", ",", "filtering", ":", "List", "<",
        predicateType, ">", "=", "emptyList", "(", ")", ")", ":", "Long", "\x7b"] := by
    simp (disch := simp +decide) only [tokens_append_of_opens, tokens_append_of_ends, hverb,
      tokens_queryName hname, tokens_of_isWord hpredicate, List.append_assoc]
    rfl
  simp +decide [lineMentions, htokens, typeMentions, isTypePosition, hname, hpredicate,
    Text.ne_sign_of_isWord hname, Text.ne_sign_of_isWord hpredicate]

/-- The header of the function that lists mentions the classes of predicates and orders and the
persisted class. -/
theorem lineMentions_listHeader {predicateType orderType entityType : String}
    (hname : isWord ("list" ++ name) = true) (hpredicate : isWord predicateType = true)
    (horder : isWord orderType = true) (hentity : isWord entityType = true) :
    lineMentions ("fun EntityManager.list" ++ name ++
      "(distinct: Boolean = false, filtering: List<" ++ predicateType ++
      "> = emptyList(), ordering: List<" ++ orderType ++
      "> = emptyList(), lockMode: LockModeType = LockModeType.NONE, firstResult: Int = -1, " ++
      "maxResults: Int = -1): List<" ++ entityType ++ "> \x7b") =
        ["EntityManager", "Boolean", "List", predicateType, "List", orderType, "LockModeType",
          "Int", "Int", "List", entityType] := by
  have hverb : "fun EntityManager.list" = "fun EntityManager." ++ "list" := by decide
  have htokens : tokens ("fun EntityManager.list" ++ name ++
      "(distinct: Boolean = false, filtering: List<" ++ predicateType ++
      "> = emptyList(), ordering: List<" ++ orderType ++
      "> = emptyList(), lockMode: LockModeType = LockModeType.NONE, firstResult: Int = -1, " ++
      "maxResults: Int = -1): List<" ++ entityType ++ "> \x7b") =
        ["fun", "EntityManager", ".", "list" ++ name, "(",
        "distinct", ":", "Boolean", "=", "false", ",", "filtering", ":", "List", "<",
        predicateType, ">", "=", "emptyList", "(", ")", ",", "ordering", ":", "List", "<",
        orderType, ">", "=", "emptyList", "(", ")", ",", "lockMode", ":", "LockModeType", "=",
        "LockModeType", ".", "NONE", ",", "firstResult", ":", "Int", "=", "-", "1", ",",
        "maxResults", ":", "Int", "=", "-", "1", ")", ":", "List", "<", entityType, ">",
        "\x7b"] := by
    simp (disch := simp +decide) only [tokens_append_of_opens, tokens_append_of_ends, hverb,
      tokens_queryName hname, tokens_of_isWord hpredicate, tokens_of_isWord horder,
      tokens_of_isWord hentity, List.append_assoc]
    rfl
  simp +decide [lineMentions, htokens, typeMentions, isTypePosition, hname, hpredicate, horder,
    hentity, Text.ne_sign_of_isWord hname, Text.ne_sign_of_isWord hpredicate,
    Text.ne_sign_of_isWord horder, Text.ne_sign_of_isWord hentity]

/-- The header of a function that copies into a persisted object mentions both ends of the copy. -/
theorem lineMentions_entityCopyHeader (hreceiver : isWord receiver = true)
    (hname : isWord name = true) (htype : isWord type = true) :
    lineMentions ("fun " ++ receiver ++ "." ++ name ++
      "(entityManager: EntityManager, entity: " ++ type ++ ") \x7b") =
      [receiver, "EntityManager", type] := by
  have htokens : tokens ("fun " ++ receiver ++ "." ++ name ++
      "(entityManager: EntityManager, entity: " ++ type ++ ") \x7b") =
      ["fun", receiver, ".", name, "(", "entityManager", ":", "EntityManager", ",", "entity", ":",
        type, ")", "\x7b"] := by
    simp (disch := simp +decide) only [tokens_append_of_opens, tokens_append_of_ends,
      tokens_of_isWord hreceiver, tokens_of_isWord hname, tokens_of_isWord htype,
      List.append_assoc]
    rfl
  simp +decide [lineMentions, htokens, typeMentions, isTypePosition, hname, hreceiver, htype,
    Text.ne_sign_of_isWord hname, Text.ne_sign_of_isWord hreceiver, Text.ne_sign_of_isWord htype]

/-- The header of the function that copies into client-facing data mentions both ends of the copy.
-/
theorem lineMentions_dataCopyHeader (hreceiver : isWord receiver = true)
    (htype : isWord type = true) :
    lineMentions ("fun " ++ receiver ++ ".copyPropertiesTo(data: " ++ type ++ ") \x7b") =
      [receiver, type] := by
  have htokens : tokens ("fun " ++ receiver ++ ".copyPropertiesTo(data: " ++ type ++ ") \x7b") =
      ["fun", receiver, ".", "copyPropertiesTo", "(", "data", ":", type, ")", "\x7b"] := by
    simp (disch := simp +decide) only [tokens_append_of_opens, tokens_append_of_ends,
      tokens_of_isWord hreceiver, tokens_of_isWord htype, List.append_assoc]
    rfl
  simp +decide [lineMentions, htokens, typeMentions, isTypePosition, hreceiver, htype,
    Text.ne_sign_of_isWord hreceiver, Text.ne_sign_of_isWord htype]

end Headers

section Functions

variable {entity : String} (hentity : Text.isIdentifier entity = true)

/-- What is mentioned beside a few own types comes from libraries. -/
theorem isOwnOrLibrary_of_eq {line : String} {types : List String}
    (h : lineMentions line = types)
    (htypes : ∀ type ∈ types, type ∈ libraryTypes ∨ type ∈ Naming.generatedTypes entity) :
    ∀ type ∈ lineMentions line, IsOwnOrLibrary entity type := by
  rw [h]
  exact htypes

/-- The lines that queries share mention no types but those of libraries. -/
theorem isOwnOrLibrary_of_mem_query {line : String}
    (h : line ∈ predicateCollection ++ orderCollection ++ restriction) :
    ∀ type ∈ lineMentions line, IsOwnOrLibrary entity type := by
  refine isOwnOrLibrary_of_literal ?_
  revert line
  decide +kernel

include hentity

/-- The function that counts rows mentions nothing but own types and those of libraries. -/
theorem isOwnOrLibrary_countFunction : ∀ line ∈ countFunction entity,
    ∀ type ∈ lineMentions line, IsOwnOrLibrary entity type := by
  have hname : isWord ("count" ++ Text.capitalized entity) = true :=
    Text.isWord_append (by decide) (Text.isWord_capitalized hentity)
  have hheader := lineMentions_countHeader hname (Naming.isWord_predicateType hentity)
  have hroot := lineMentions_classLiteral "    val root = criteriaQuery.from("
    (Naming.isWord_entityType hentity) (by decide)
  rw [countFunction]
  simp only [List.forall_mem_append, List.forall_mem_cons, List.not_mem_nil, IsEmpty.forall_iff,
    implies_true, and_true]
  refine ⟨⟨⟨⟨?_, ?_, ?_, ?_, ?_, ?_⟩, fun line h => isOwnOrLibrary_of_mem_query (by simp [h])⟩,
    fun line h => isOwnOrLibrary_of_mem_query (by simp [h])⟩, ?_, ?_, ?_, ?_⟩
  · exact isOwnOrLibrary_of_eq hheader (by simp [libraryTypes, Naming.generatedTypes])
  · exact isOwnOrLibrary_of_literal (by decide +kernel)
  · exact isOwnOrLibrary_of_literal (by decide +kernel)
  · exact isOwnOrLibrary_of_eq hroot (by simp [libraryTypes, Naming.generatedTypes])
  all_goals exact isOwnOrLibrary_of_literal (by decide +kernel)

/-- The function that lists rows mentions nothing but own types and those of libraries. -/
theorem isOwnOrLibrary_listFunction : ∀ line ∈ listFunction entity,
    ∀ type ∈ lineMentions line, IsOwnOrLibrary entity type := by
  have hname : isWord ("list" ++ Text.capitalized entity) = true :=
    Text.isWord_append (by decide) (Text.isWord_capitalized hentity)
  have hheader := lineMentions_listHeader hname (Naming.isWord_predicateType hentity)
    (Naming.isWord_orderType hentity) (Naming.isWord_entityType hentity)
  have hquery := lineMentions_classLiteral
    "    val criteriaQuery = criteriaBuilder.createQuery(" (Naming.isWord_entityType hentity)
    (by decide)
  have hroot := lineMentions_classLiteral "    val root = criteriaQuery.from("
    (Naming.isWord_entityType hentity) (by decide)
  rw [listFunction]
  simp only [List.forall_mem_append, List.forall_mem_cons, List.not_mem_nil, IsEmpty.forall_iff,
    implies_true, and_true]
  refine ⟨⟨⟨⟨⟨?_, ?_, ?_, ?_, ?_, ?_⟩, fun line h => isOwnOrLibrary_of_mem_query (by simp [h])⟩,
    fun line h => isOwnOrLibrary_of_mem_query (by simp [h])⟩,
    fun line h => isOwnOrLibrary_of_mem_query (by simp [h])⟩, ?_⟩
  · exact isOwnOrLibrary_of_eq hheader (by simp [libraryTypes, Naming.generatedTypes])
  · exact isOwnOrLibrary_of_literal (by decide +kernel)
  · exact isOwnOrLibrary_of_eq hquery (by simp [Naming.generatedTypes])
  · exact isOwnOrLibrary_of_eq hroot (by simp [Naming.generatedTypes])
  · exact isOwnOrLibrary_of_literal (by decide +kernel)
  · exact isOwnOrLibrary_of_literal (by decide +kernel)
  · and_intros <;> exact isOwnOrLibrary_of_literal (by decide +kernel)

end Functions

end Extension

/-! ### Assignments -/

/-- A plain assignment to client-facing data mentions no type. -/
theorem DataAssignment.lineMentions_plain {property : String} (h : isWord property = true) :
    lineMentions (plain property).line = [] := by
  simp +decide [lineMentions, tokens_plain h, typeMentions, isTypePosition, h,
    Text.ne_sign_of_isWord h]

/-- An assignment to client-facing data that follows a relationship mentions no type. -/
theorem DataAssignment.lineMentions_navigated {foreignKey property identifier : String}
    (hforeignKey : isWord foreignKey = true) (hproperty : isWord property = true)
    (hidentifier : isWord identifier = true) :
    lineMentions (navigated foreignKey property identifier).line = [] := by
  simp +decide [lineMentions, tokens_navigated hforeignKey hproperty hidentifier, typeMentions,
    isTypePosition, hforeignKey, hproperty, Text.ne_sign_of_isWord hforeignKey,
    Text.ne_sign_of_isWord hproperty, Text.ne_sign_of_isWord hidentifier]

/-- A plain assignment to a persisted object mentions no type. -/
theorem EntityAssignment.lineMentions_plain {property : String} (h : isWord property = true) :
    (plain property).lines.flatMap lineMentions = [] := by
  have htokens : tokens ("    entity." ++ property ++ " = this." ++ property) =
      ["entity", ".", property, "=", "this", ".", property] := by
    simp (disch := simp +decide) only [tokens_append_of_opens, tokens_append_of_ends,
      tokens_of_isWord h]
    rfl
  rw [lines, List.flatMap_singleton]
  simp +decide [lineMentions, htokens, typeMentions, isTypePosition, h, Text.ne_sign_of_isWord h]

/-- A target is looked up by its type. -/
theorem EntityAssignment.lineMentions_lookup {property foreignKey targetType : String}
    (hproperty : isWord property = true) (hforeignKey : isWord foreignKey = true)
    (htargetType : isWord targetType = true) :
    (lookup property foreignKey targetType).lines.flatMap lineMentions = [targetType] := by
  have hcondition : tokens ("    entity." ++ property ++ " = if (this." ++ foreignKey ++
      " == null) \x7b") = ["entity", ".", property, "=", "if", "(", "this", ".", foreignKey, "=",
        "=", "null", ")", "\x7b"] := by
    simp (disch := simp +decide) only [tokens_append_of_opens, tokens_append_of_ends,
      tokens_of_isWord hproperty, tokens_of_isWord hforeignKey]
    rfl
  have hlookup : tokens ("        entityManager.find(" ++ targetType ++ "::class.java, this." ++
      foreignKey ++ ")") = ["entityManager", ".", "find", "(", targetType, ":", ":", "class", ".",
        "java", ",", "this", ".", foreignKey, ")"] := by
    simp (disch := simp +decide) only [tokens_append_of_opens, tokens_append_of_ends,
      tokens_of_isWord htargetType, tokens_of_isWord hforeignKey]
    rfl
  have hliterals :
      ["        null", "    \x7d else \x7b", "    \x7d"].flatMap lineMentions = [] := by
    decide +kernel
  simp only [List.flatMap_cons, List.flatMap_nil, List.append_nil, List.append_eq_nil_iff]
    at hliterals
  simp only [lines, List.flatMap_cons, List.flatMap_nil, hliterals, List.nil_append,
    List.append_nil]
  simp +decide [lineMentions, hcondition, hlookup, typeMentions, isTypePosition, hproperty,
    hforeignKey, Text.ne_sign_of_isWord hproperty, Text.ne_sign_of_isWord hforeignKey,
    Text.ne_sign_of_isWord htargetType]

/-! ### Branches -/

/-- A step of a path mentions the metamodel of its handle. -/
theorem HandleReference.typeMentions_tokens {reference : HandleReference} (h : reference.HasWords)
    (before : String) (rest : List String) :
    typeMentions (before :: (reference.tokens ++ rest)) =
      reference.metamodel :: typeMentions ("]" :: rest) := by
  have hmetamodel := Text.ne_sign_of_isWord h.metamodel
  have hhandle := Text.ne_sign_of_isWord h.handle
  have hlast : typeMentions (reference.handle :: "]" :: rest) = typeMentions ("]" :: rest) := by
    cases rest <;> simp +decide [typeMentions]
  simp +decide [HandleReference.tokens, typeMentions, isTypePosition, h.metamodel, h.handle,
    hmetamodel, hhandle, hlast]

/-- The metamodels that a path leads through. -/
def CriteriaPath.metamodels (path : CriteriaPath) : List String :=
  path.own.metamodel :: path.onward.toList.map HandleReference.metamodel

/-- A criteria path mentions its metamodels, and what follows it is read on its own. -/
theorem CriteriaPath.typeMentions_tokens {path : CriteriaPath} (h : path.HasWords)
    (rest : List String) :
    typeMentions (path.tokens ++ rest) = path.metamodels ++ typeMentions ("]" :: rest) := by
  obtain ⟨own, onward⟩ := path
  rw [tokens, List.append_assoc, List.cons_append, own.typeMentions_tokens h.own]
  cases onward with
  | none => rfl
  | some target =>
    change own.metamodel :: typeMentions ("]" :: (target.tokens ++ [] ++ rest)) = _
    rw [List.append_nil, target.typeMentions_tokens (h.onward target rfl)]
    rfl

/-- Whether a call takes a path in its parentheses and mentions no types beside it. -/
structure MentionsPath (path : CriteriaPath) (call : String) : Prop where
  exists_tokens : ∃ front back,
    tokens call = "criteriaBuilder" :: front ++ "(" :: (path.tokens ++ back) ∧
      typeMentions (">" :: "criteriaBuilder" :: front ++ ["(", "root"]) = [] ∧
      typeMentions ("]" :: back) = []

/-- A call, negated or not, mentions the path alone, for it reads its operands from the receiver. -/
theorem MentionsPath.of_operands {path : CriteriaPath} (hpath : path.HasWords) {method : String}
    (hmethod : isWord method = true) {operands : String}
    (hoperands : operands ∈ ["", ", this.x", ", this.x, this.y"]) (negated : Bool) :
    let call := "criteriaBuilder." ++ method ++ "(" ++ path.render ++ operands ++ ")"
    MentionsPath path (if negated then "criteriaBuilder.not(" ++ call ++ ")" else call) := by
  obtain ⟨hopens, hback, hnegated⟩ : Text.opensWithSign operands = true ∧
      typeMentions ("]" :: (tokens operands ++ [")"])) = [] ∧
      typeMentions ("]" :: (tokens operands ++ [")", ")"])) = [] := by
    revert operands
    decide
  cases negated with
  | false =>
    refine ⟨[".", method], tokens operands ++ [")"], ?_, ?_, hback⟩
    · rw [if_neg Bool.false_ne_true, Extension.tokens_call _ hmethod hopens,
        path.tokens_render hpath]
      rfl
    · simp +decide [typeMentions, isTypePosition, hmethod, Text.ne_sign_of_isWord hmethod]
  | true =>
    refine ⟨[".", "not", "(", "criteriaBuilder", ".", method], tokens operands ++ [")", ")"],
      ?_, ?_, hnegated⟩
    · rw [if_pos rfl, Extension.tokens_negatedCall, Extension.tokens_call _ hmethod hopens,
        path.tokens_render hpath]
      simp
    · simp +decide [typeMentions, isTypePosition, hmethod, Text.ne_sign_of_isWord hmethod]

/-- The call of an operator mentions its path alone. -/
theorem Operator.mentionsPath_criteriaCall (operator : Operator) {path : CriteriaPath}
    (hpath : path.HasWords) : MentionsPath path (operator.criteriaCall path.render) := by
  refine .of_operands hpath operator.isWord_method.1 ?_ operator.method.2
  cases operator.arity <;> decide

/-- A branch mentions the metamodels of its path. -/
theorem lineMentions_branch {line call : String} {asksForType : Bool} {leaf : LeafName}
    {path : CriteriaPath} (hline : tokens line = branchTokens asksForType leaf call)
    (hbase : isWord leaf.base = true) (hcaseName : isWord leaf.caseName = true)
    (hleaf : isWord leaf.name = true) (hpath : path.HasWords) (hcall : MentionsPath path call) :
    lineMentions line = path.metamodels := by
  obtain ⟨front, back, htokens, hfront, hback⟩ := hcall
  let opening := (if asksForType then ["is"] else []) ++
    [leaf.base, ".", leaf.caseName, ".", leaf.name, "-"]
  have hopening : opening.head? ≠ some "@" ∧
      typeMentions (opening ++ [">", "criteriaBuilder"]) = [] := by
    dsimp only [opening]
    cases asksForType <;>
      simp +decide [typeMentions, isTypePosition, hbase, hcaseName, hleaf,
        Text.ne_sign_of_isWord hbase, Text.ne_sign_of_isWord hcaseName,
        Text.ne_sign_of_isWord hleaf]
  have hbranch : tokens line = opening ++ ">" :: "criteriaBuilder" ::
      (front ++ "(" :: (path.tokens ++ back)) := by
    rw [hline, branchTokens, htokens]
    simp [opening]
  obtain ⟨rest, hrest⟩ : ∃ rest, path.tokens ++ back = "root" :: "[" :: rest := ⟨_, rfl⟩
  have hargument : typeMentions ("(" :: (path.tokens ++ back)) =
      typeMentions (path.tokens ++ back) := by
    simp +decide [hrest, typeMentions]
  have hcall : typeMentions (">" :: "criteriaBuilder" ::
      (front ++ "(" :: (path.tokens ++ back))) = typeMentions ("(" :: (path.tokens ++ back)) := by
    have hseam := typeMentions_append (">" :: "criteriaBuilder" :: front) ("[" :: rest) "(" "root"
    rwa [hfront, List.nil_append, ← hrest] at hseam
  have hhead : (tokens line).head? ≠ some "@" := by
    rw [hbranch, List.head?_append, Option.or_of_isSome (by
      dsimp only [opening]
      cases asksForType <;> rfl)]
    exact hopening.1
  rw [lineMentions, if_neg hhead, hbranch, typeMentions_append, hopening.2, List.nil_append, hcall,
    hargument, path.typeMentions_tokens hpath, hback, List.append_nil]

end PersistenceLayer
