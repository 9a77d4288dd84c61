import PersistenceLayer.Proofs.GeneratedDeclarations

/-!
# Functions of generated sources

An extension consists of functions, which are read off its lines as blocks: two
that turn orders and predicates into criteria, two that run queries and three
that copy data.
-/

namespace PersistenceLayer

open Text (tokens isWord isDeeper blocks tokens_of_isWord tokens_append_of_opens
  tokens_append_of_ends)

/-- What a function says before its first line: the type it extends, its name, and the tokens of
its parameters and of what follows them. -/
structure FunctionHead where
  receiver : String
  name : String
  signature : List String
  deriving DecidableEq, Repr

/-- The function that the tokens of a line open, if they do. -/
def FunctionHead.ofTokens? : List String → Option FunctionHead
  | "fun" :: receiver :: "." :: name :: signature => some ⟨receiver, name, signature⟩
  | _ => none

namespace SourceFile

/-- The functions of a file, each with the lines inside. Only what stands behind the prelude of the
text is read. -/
def functions (file : SourceFile) : List (FunctionHead × List String) :=
  blocks FunctionHead.ofTokens? 0 file.bodyLines

/-- The first function of a file with the given name, behind the prelude. -/
def function? (file : SourceFile) (name : String) : Option (FunctionHead × List String) :=
  file.functions.find? fun function => function.1.name == name

end SourceFile

namespace FunctionHead

/-- Whether some lines are read as one function, whatever comes after them. -/
def Reads (lines : List String) (head : FunctionHead) (inner : List String) : Prop :=
  ∀ rest, blocks ofTokens? 0 (lines ++ rest) = (head, inner) :: blocks ofTokens? 0 rest

variable {header : String} {head : FunctionHead}

/-- The tokens of a header are read as its receiver, its name and its signature. -/
theorem ofTokens?_append {receiver name : String} {signature : List String} :
    ofTokens? (["fun", receiver, ".", name] ++ signature) = some ⟨receiver, name, signature⟩ :=
  rfl

/-- A function is read from its first line up to the brace that closes it. -/
theorem reads_of_head {lines inner : List String} (hhead : ofTokens? (tokens header) = some head)
    (hlines : lines = header :: inner ++ ["\x7d", ""]) (hheader : isDeeper 0 header = false)
    (hinner : ∀ line ∈ inner, isDeeper 0 line = true) : Reads lines head inner := by
  intro rest
  have hrest : lines ++ rest = header :: inner ++ "\x7d" :: "" :: rest := by simp [hlines]
  rw [hrest, Text.blocks_cons_append hheader hinner (by decide) (by decide), hhead,
    Text.blocks_cons_of_none (.inr (by decide))]
  rfl

/-- A line in front of a function that opens none is passed over. -/
theorem Reads.cons {line : String} {lines inner : List String} (h : Reads lines head inner)
    (hline : ofTokens? (tokens line) = none) : Reads (line :: lines) head inner := by
  intro rest
  rw [List.cons_append, Text.blocks_cons_of_none (.inr hline), h]

end FunctionHead

/-! ## Lines inside -/

/-- A branch for an order is indented deeper than the block it stands in. -/
theorem OrderBranch.isDeeper_line (entity : String) (branch : OrderBranch) :
    isDeeper 4 (branch.line entity) = true := by
  unfold line
  simp only [String.append_assoc]
  exact Text.isDeeper_append _ (by decide)

/-- A branch for a predicate is indented deeper than the block it stands in. -/
theorem PredicateBranch.isDeeper_line (entity : String) (branch : PredicateBranch) :
    isDeeper 4 (branch.line entity) = true := by
  unfold line
  simp only [String.append_assoc]
  exact Text.isDeeper_append _ (by decide)

/-- The lines of an assignment to a persisted object are indented deeper than the function. -/
theorem EntityAssignment.isDeeper_of_mem_lines (assignment : EntityAssignment) :
    ∀ line ∈ assignment.lines, isDeeper 0 line = true := by
  unfold lines
  cases assignment with
  | plain property =>
    simp only [String.append_assoc, List.forall_mem_singleton]
    exact Text.isDeeper_append _ (by decide)
  | lookup property foreignKey targetType =>
    simp only [String.append_assoc, List.forall_mem_cons]
    exact ⟨Text.isDeeper_append _ (by decide), by decide, by decide,
      Text.isDeeper_append _ (by decide), by decide⟩

/-- An assignment to client-facing data is indented deeper than the function. -/
theorem DataAssignment.isDeeper_line (assignment : DataAssignment) :
    isDeeper 0 assignment.line = true := by
  unfold line
  cases assignment <;> simp only [String.append_assoc] <;>
    exact Text.isDeeper_append _ (by decide)

namespace Extension

/-- A choice between branches with the lines around it. -/
def whenLines (branches : List String) : List String :=
  "    return when (this) \x7b" :: branches ++ ["    \x7d"]

/-! ## Heads -/

/-- The header of a function that turns a leaf into a criterion is read back. -/
theorem ofTokens?_criterionHeader {receiver name entityType : String} (result : String)
    (hreceiver : isWord receiver = true) (hname : isWord name = true)
    (hentity : isWord entityType = true) :
    ∃ signature, FunctionHead.ofTokens? (tokens ("fun " ++ receiver ++ "." ++ name ++
      "(criteriaBuilder: CriteriaBuilder, root: From<*, " ++ entityType ++ ">): " ++ result ++
      " \x7b")) = some ⟨receiver, name, signature⟩ := by
  simp (disch := simp +decide) only [tokens_append_of_opens, tokens_append_of_ends,
    tokens_of_isWord hreceiver, tokens_of_isWord hname, tokens_of_isWord hentity, List.append_assoc]
  exact ⟨_, rfl⟩

/-- The name of a function that queries, by its tokens. -/
theorem tokens_queryName {verb name : String} (hname : isWord (verb ++ name) = true) :
    tokens ("fun EntityManager." ++ verb ++ name) =
      ["fun", "EntityManager", ".", verb ++ name] := by
  rw [String.append_assoc, tokens_append_of_ends (by decide), tokens_of_isWord hname]
  rfl

/-- The header of the function that counts is read back. -/
theorem ofTokens?_countHeader {name : String} (hname : isWord ("count" ++ name) = true)
    (predicateType : String) :
    ∃ signature, FunctionHead.ofTokens? (tokens ("fun EntityManager.count" ++ name ++
      "(distinct: Boolean = false, filtering: List<" ++ predicateType ++
      "> = emptyList()): Long \x7b")) = some ⟨"EntityManager", "count" ++ name, signature⟩ := by
  -- The literal ends inside the function's name.
  have hverb : "fun EntityManager.count" = "fun EntityManager." ++ "count" := by decide
  simp (disch := simp +decide) only [tokens_append_of_opens, tokens_append_of_ends, hverb,
    tokens_queryName hname, List.append_assoc]
  exact ⟨_, FunctionHead.ofTokens?_append⟩

/-- The header of the function that lists is read back. -/
theorem ofTokens?_listHeader {name : String} (hname : isWord ("list" ++ name) = true)
    (predicateType orderType entityType : String) :
    ∃ signature, FunctionHead.ofTokens? (tokens ("fun EntityManager.list" ++ name ++
      "(distinct: Boolean = false, filtering: List<" ++ predicateType ++
      "> = emptyList(), ordering: List<" ++ orderType ++
      "> = emptyList(), lockMode: LockModeType = LockModeType.NONE, firstResult: Int = -1, " ++
      "maxResults: Int = -1): List<" ++ entityType ++ "> \x7b")) =
      some ⟨"EntityManager", "list" ++ name, signature⟩ := by
  have hverb : "fun EntityManager.list" = "fun EntityManager." ++ "list" := by decide
  simp (disch := simp +decide) only [tokens_append_of_opens, tokens_append_of_ends, hverb,
    tokens_queryName hname, List.append_assoc]
  exact ⟨_, FunctionHead.ofTokens?_append⟩

/-- The header of a function that copies into a persisted object is read back. -/
theorem ofTokens?_entityCopyHeader {receiver name entityType : String}
    (hreceiver : isWord receiver = true) (hname : isWord name = true)
    (hentity : isWord entityType = true) :
    FunctionHead.ofTokens? (tokens ("fun " ++ receiver ++ "." ++ name ++
      "(entityManager: EntityManager, entity: " ++ entityType ++ ") \x7b")) =
      some ⟨receiver, name, ["(", "entityManager", ":", "EntityManager", ",", "entity", ":",
        entityType, ")", "\x7b"]⟩ := by
  simp (disch := simp +decide) only [tokens_append_of_opens, tokens_append_of_ends,
    tokens_of_isWord hreceiver, tokens_of_isWord hname, tokens_of_isWord hentity, List.append_assoc]
  rfl

/-- The header of the function that copies into client-facing data is read back. -/
theorem ofTokens?_dataCopyHeader {receiver contractType : String}
    (hreceiver : isWord receiver = true) (hcontract : isWord contractType = true) :
    FunctionHead.ofTokens? (tokens ("fun " ++ receiver ++ ".copyPropertiesTo(data: " ++
      contractType ++ ") \x7b")) =
      some ⟨receiver, "copyPropertiesTo", ["(", "data", ":", contractType, ")", "\x7b"]⟩ := by
  simp (disch := simp +decide) only [tokens_append_of_opens, tokens_append_of_ends,
    tokens_of_isWord hreceiver, tokens_of_isWord hcontract, List.append_assoc]
  rfl

/-! ## Functions -/

/-- Between its first line and the brace that closes it, the function that counts rows is
indented. -/
theorem isDeeper_countFunction (entity : String) :
    ∀ line ∈ (countFunction entity).tail.dropLast.dropLast, isDeeper 0 line = true := by
  have hroot : isDeeper 0 ("    val root = criteriaQuery.from(" ++
      (Naming.entityType entity ++ "::class.java)")) = true :=
    Text.isDeeper_append _ (Text.isDeeper_ofList (by decide))
  simp only [countFunction, predicateCollection, restriction, String.append_assoc,
    List.cons_append, List.nil_append, List.tail_cons, List.dropLast_cons_cons,
    List.dropLast_singleton, List.forall_mem_cons, hroot, List.not_mem_nil, IsEmpty.forall_iff,
    implies_true, and_true, true_and]
  and_intros <;> exact Text.isDeeper_ofList (by decide)

/-- Between its first line and the brace that closes it, the function that lists rows is
indented. -/
theorem isDeeper_listFunction (entity : String) :
    ∀ line ∈ (listFunction entity).tail.dropLast.dropLast, isDeeper 0 line = true := by
  have hquery : isDeeper 0 ("    val criteriaQuery = criteriaBuilder.createQuery(" ++
      (Naming.entityType entity ++ "::class.java)")) = true :=
    Text.isDeeper_append _ (Text.isDeeper_ofList (by decide))
  have hroot : isDeeper 0 ("    val root = criteriaQuery.from(" ++
      (Naming.entityType entity ++ "::class.java)")) = true :=
    Text.isDeeper_append _ (Text.isDeeper_ofList (by decide))
  simp only [listFunction, predicateCollection, orderCollection, restriction,
    String.append_assoc, List.cons_append, List.nil_append, List.tail_cons,
    List.dropLast_cons_cons, List.dropLast_singleton, List.forall_mem_cons, hquery, hroot,
    List.not_mem_nil, IsEmpty.forall_iff, implies_true, and_true, true_and]
  and_intros <;> exact Text.isDeeper_ofList (by decide)

section Functions

variable {entity : String} (hentity : Text.isIdentifier entity = true)

include hentity

/-- A function that makes criteria. -/
theorem reads_criterionFunction {receiver name : String} (result : String)
    (hreceiver : isWord receiver = true) (hname : isWord name = true) {branches : List String}
    (hbranches : ∀ line ∈ branches, isDeeper 0 line = true) :
    ∃ signature, FunctionHead.Reads
      (criterionFunction entity receiver name result branches) ⟨receiver, name, signature⟩
      (whenLines branches) := by
  obtain ⟨signature, hhead⟩ := ofTokens?_criterionHeader result hreceiver hname
    (Naming.isWord_entityType hentity)
  refine ⟨signature, FunctionHead.reads_of_head hhead (by simp [criterionFunction, whenLines])
    ?_ ?_⟩
  · simp only [String.append_assoc]
    exact Text.isDeeper_append_eq_false _ (by decide) (by decide)
  · rw [whenLines, List.cons_append, List.forall_mem_cons, List.forall_mem_append,
      List.forall_mem_singleton]
    exact ⟨by decide, hbranches, by decide⟩

/-- The function that counts rows. -/
theorem reads_countFunction :
    ∃ signature, FunctionHead.Reads (countFunction entity)
      ⟨"EntityManager", "count" ++ Text.capitalized entity, signature⟩
      (countFunction entity).tail.dropLast.dropLast := by
  have hname : isWord ("count" ++ Text.capitalized entity) = true :=
    Text.isWord_append (by decide) (Text.isWord_capitalized hentity)
  obtain ⟨signature, hhead⟩ := ofTokens?_countHeader hname (Naming.predicateType entity)
  refine ⟨signature, FunctionHead.reads_of_head hhead rfl ?_ (isDeeper_countFunction entity)⟩
  simp only [String.append_assoc]
  exact Text.isDeeper_append_eq_false _ (by decide) (by decide)

/-- The function that lists rows. -/
theorem reads_listFunction :
    ∃ signature, FunctionHead.Reads (listFunction entity)
      ⟨"EntityManager", "list" ++ Text.capitalized entity, signature⟩
      (listFunction entity).tail.dropLast.dropLast := by
  have hname : isWord ("list" ++ Text.capitalized entity) = true :=
    Text.isWord_append (by decide) (Text.isWord_capitalized hentity)
  obtain ⟨signature, hhead⟩ := ofTokens?_listHeader hname (Naming.predicateType entity)
    (Naming.orderType entity) (Naming.entityType entity)
  refine ⟨signature, FunctionHead.reads_of_head hhead rfl ?_ (isDeeper_listFunction entity)⟩
  simp only [String.append_assoc]
  exact Text.isDeeper_append_eq_false _ (by decide) (by decide)

/-- The functions that copy into a persisted object. -/
theorem reads_entityCopyFunction (mode : CopyMode) (assignments : List EntityAssignment) :
    FunctionHead.Reads (entityCopyFunction entity mode assignments)
      ⟨Naming.contractType entity, mode.functionName,
        ["(", "entityManager", ":", "EntityManager", ",", "entity", ":", Naming.entityType entity,
          ")", "\x7b"]⟩
      (assignments.flatMap EntityAssignment.lines) := by
  have hname : isWord mode.functionName = true := by cases mode <;> decide
  have hhead := ofTokens?_entityCopyHeader (Naming.isWord_contractType hentity) hname
    (Naming.isWord_entityType hentity)
  refine FunctionHead.Reads.cons (FunctionHead.reads_of_head hhead rfl ?_ ?_) (by decide)
  · simp only [String.append_assoc]
    exact Text.isDeeper_append_eq_false _ (by decide) (by decide)
  · rw [List.forall_mem_flatMap]
    intro assignment _
    exact assignment.isDeeper_of_mem_lines

/-- The function that copies into client-facing data. -/
theorem reads_dataCopyFunction (assignments : List DataAssignment) :
    FunctionHead.Reads (dataCopyFunction entity assignments)
      ⟨Naming.entityType entity, "copyPropertiesTo",
        ["(", "data", ":", Naming.contractType entity, ")", "\x7b"]⟩
      (assignments.map DataAssignment.line) := by
  have hhead := ofTokens?_dataCopyHeader (Naming.isWord_entityType hentity)
    (Naming.isWord_contractType hentity)
  refine FunctionHead.reads_of_head hhead rfl ?_ ?_
  · simp only [String.append_assoc]
    exact Text.isDeeper_append_eq_false _ (by decide) (by decide)
  · rw [List.forall_mem_map]
    intro assignment _
    exact assignment.isDeeper_line

end Functions

end Extension

/-- The functions of an extension, in the order in which they are written. -/
theorem SourceFile.functions_extension (options : Options) {entity : Entity}
    {attrs : List MappedAttribute} (hentity : Text.isIdentifier entity.name = true)
    (hnames : ∀ mapped ∈ attrs, mapped.HasIdentifierNames) :
    ∃ orderSignature predicateSignature countSignature countLines listSignature listLines,
      (Kind.extension.sourceFile options entity attrs).functions =
        [(⟨Naming.orderType entity.name, "toOrder", orderSignature⟩,
            Extension.whenLines ((Extension.orderBranches entity.name attrs).map
              (OrderBranch.line entity.name))),
          (⟨Naming.predicateType entity.name, "toPredicate", predicateSignature⟩,
            Extension.whenLines ((Extension.predicateBranches entity.name attrs).map
              (PredicateBranch.line entity.name))),
          (⟨"EntityManager", "count" ++ Text.capitalized entity.name, countSignature⟩, countLines),
          (⟨"EntityManager", "list" ++ Text.capitalized entity.name, listSignature⟩, listLines),
          (⟨Naming.contractType entity.name, "copyInsertablePropertiesTo",
              ["(", "entityManager", ":", "EntityManager", ",", "entity", ":",
                Naming.entityType entity.name, ")", "\x7b"]⟩,
            (Extension.entityAssignments .insertable attrs).flatMap EntityAssignment.lines),
          (⟨Naming.contractType entity.name, "copyUpdatablePropertiesTo",
              ["(", "entityManager", ":", "EntityManager", ",", "entity", ":",
                Naming.entityType entity.name, ")", "\x7b"]⟩,
            (Extension.entityAssignments .updatable attrs).flatMap EntityAssignment.lines),
          (⟨Naming.entityType entity.name, "copyPropertiesTo",
              ["(", "data", ":", Naming.contractType entity.name, ")", "\x7b"]⟩,
            (Extension.dataAssignments attrs).map DataAssignment.line)] := by
  have horderLines : ∀ line ∈ (Extension.orderBranches entity.name attrs).map
      (OrderBranch.line entity.name), isDeeper 0 line = true := by
    rw [List.forall_mem_map]
    exact fun branch _ => Text.isDeeper_mono (by decide) (branch.isDeeper_line entity.name)
  have hpredicateLines : ∀ line ∈ (Extension.predicateBranches entity.name attrs).map
      (PredicateBranch.line entity.name), isDeeper 0 line = true := by
    rw [List.forall_mem_map]
    exact fun branch _ => Text.isDeeper_mono (by decide) (branch.isDeeper_line entity.name)
  obtain ⟨orderSignature, horders⟩ := Extension.reads_criterionFunction hentity "Order"
    (Naming.isWord_orderType hentity) (by decide : isWord "toOrder" = true) horderLines
  obtain ⟨predicateSignature, hpredicates⟩ := Extension.reads_criterionFunction hentity "Predicate"
    (Naming.isWord_predicateType hentity) (by decide : isWord "toPredicate" = true) hpredicateLines
  obtain ⟨countSignature, hcount⟩ := Extension.reads_countFunction hentity
  obtain ⟨listSignature, hlist⟩ := Extension.reads_listFunction hentity
  have hinsertable := Extension.reads_entityCopyFunction hentity .insertable
    (Extension.entityAssignments .insertable attrs)
  have hupdatable := Extension.reads_entityCopyFunction hentity .updatable
    (Extension.entityAssignments .updatable attrs)
  have hdata := Extension.reads_dataCopyFunction hentity (Extension.dataAssignments attrs)
  refine ⟨orderSignature, predicateSignature,
    countSignature, (Extension.countFunction entity.name).tail.dropLast.dropLast,
    listSignature, (Extension.listFunction entity.name).tail.dropLast.dropLast, ?_⟩
  rw [functions, bodyLines_of_ne_persisted options hentity hnames (by decide)]
  change blocks _ 0 (Extension.body _ _ _ _ _ _) = _
  rw [Extension.body, ← List.append_nil (Extension.dataCopyFunction _ _)]
  simp only [List.append_assoc]
  rw [horders, hpredicates, hcount, hlist, hinsertable, hupdatable, hdata]
  rfl

/-! ## Functions by name -/

namespace SourceFile

variable (options : Options) {entity : Entity} {attrs : List MappedAttribute}
  (hentity : Text.isIdentifier entity.name = true)
  (hnames : ∀ mapped ∈ attrs, mapped.HasIdentifierNames)

include hentity hnames

/-- The function that turns orders into criteria has one branch for each attribute. -/
theorem function?_toOrder :
    ∃ signature, (Kind.extension.sourceFile options entity attrs).function? "toOrder" =
      some (⟨Naming.orderType entity.name, "toOrder", signature⟩,
        Extension.whenLines ((Extension.orderBranches entity.name attrs).map
          (OrderBranch.line entity.name))) := by
  obtain ⟨signature, _, _, _, _, _, hfunctions⟩ := functions_extension options hentity hnames
  rw [function?, hfunctions]
  exact ⟨signature, rfl⟩

/-- The function that turns predicates into criteria has one branch for each attribute and
operator. -/
theorem function?_toPredicate :
    ∃ signature, (Kind.extension.sourceFile options entity attrs).function? "toPredicate" =
      some (⟨Naming.predicateType entity.name, "toPredicate", signature⟩,
        Extension.whenLines ((Extension.predicateBranches entity.name attrs).map
          (PredicateBranch.line entity.name))) := by
  obtain ⟨_, signature, _, _, _, _, hfunctions⟩ := functions_extension options hentity hnames
  rw [function?, hfunctions]
  exact ⟨signature, rfl⟩

/-- A function that copies into a persisted object has the assignments of the attributes it
copies. -/
theorem function?_entityCopy (mode : CopyMode) :
    (Kind.extension.sourceFile options entity attrs).function? mode.functionName =
      some (⟨Naming.contractType entity.name, mode.functionName,
          ["(", "entityManager", ":", "EntityManager", ",", "entity", ":",
            Naming.entityType entity.name, ")", "\x7b"]⟩,
        (Extension.entityAssignments mode attrs).flatMap EntityAssignment.lines) := by
  obtain ⟨_, _, _, _, _, _, hfunctions⟩ := functions_extension options hentity hnames
  rw [function?, hfunctions]
  cases mode
  · simp [CopyMode.functionName, ← String.toList_inj]
  · simp [CopyMode.functionName, ← String.toList_inj]

/-- The function that copies into client-facing data has the assignments of all attributes. -/
theorem function?_dataCopy :
    (Kind.extension.sourceFile options entity attrs).function? "copyPropertiesTo" =
      some (⟨Naming.entityType entity.name, "copyPropertiesTo",
          ["(", "data", ":", Naming.contractType entity.name, ")", "\x7b"]⟩,
        (Extension.dataAssignments attrs).map DataAssignment.line) := by
  obtain ⟨_, _, _, _, _, _, hfunctions⟩ := functions_extension options hentity hnames
  rw [function?, hfunctions]
  simp [← String.toList_inj]

end SourceFile

end PersistenceLayer
