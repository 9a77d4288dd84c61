import PersistenceLayer.Artifact.Vocabulary

/-!
# Query and copy functions

The extension of an entity turns its orders and predicates into criteria, counts
and lists its rows, and copies data between contract and persisted class. Which
attributes a copy into the persisted class sets depends on their column flags.
-/

namespace PersistenceLayer

/-- A handle of a metamodel, as criteria refer to it. -/
structure HandleReference where
  metamodel : String
  handle : String
  deriving DecidableEq, Repr

/-- A path from the root of a query to the column of an attribute; for a relationship it leads on
to the identifier of the target. -/
structure CriteriaPath where
  own : HandleReference
  onward : Option HandleReference
  deriving DecidableEq, Repr

/-- A handle in the brackets that navigate to it. -/
def HandleReference.render (reference : HandleReference) : String :=
  "[" ++ reference.metamodel ++ "." ++ reference.handle ++ "]"

/-- A path as it is written. -/
def CriteriaPath.render (path : CriteriaPath) : String :=
  "root" ++ path.own.render ++ (path.onward.map HandleReference.render).getD ""

/-- The handle of a target's identifier. -/
def Target.identifierReference (target : Target) : HandleReference :=
  ⟨Naming.metamodelType target.entityName, Naming.property target.identifierName⟩

/-- The path to an attribute of an entity. -/
def MappedAttribute.criteriaPath (entity : String) (mapped : MappedAttribute) : CriteriaPath :=
  ⟨⟨Naming.metamodelType entity, mapped.property⟩, mapped.target?.map Target.identifierReference⟩

/-! ## Branches -/

/-- A branch that turns an order into a criterion. -/
structure OrderBranch where
  caseName : String
  direction : Direction
  path : CriteriaPath
  deriving DecidableEq, Repr

/-- A branch that turns a predicate into a criterion. -/
structure PredicateBranch where
  caseName : String
  operator : Operator
  path : CriteriaPath
  deriving DecidableEq, Repr

/-- The branches of an attribute's orders. -/
def MappedAttribute.orderBranches (entity : String) (mapped : MappedAttribute) :
    List OrderBranch :=
  Direction.all.map fun direction =>
    ⟨mapped.caseName, direction, mapped.criteriaPath entity⟩

/-- The branches of an attribute's predicates. -/
def MappedAttribute.predicateBranches (entity : String) (mapped : MappedAttribute) :
    List PredicateBranch :=
  mapped.operators.map fun operator =>
    ⟨mapped.caseName, operator, mapped.criteriaPath entity⟩

/-- The line of a branch over orders. -/
def OrderBranch.line (entity : String) (branch : OrderBranch) : String :=
  "        " ++ Naming.orderType entity ++ "." ++ branch.caseName ++ "." ++ branch.direction.name ++
    " -> criteriaBuilder." ++ branch.direction.method ++ "(" ++ branch.path.render ++ ")"

namespace PredicateBranch

/-- Whether a branch asks for the type of its leaf; a singleton is compared by value. -/
def asksForType (branch : PredicateBranch) : Bool :=
  branch.operator.arity != .nullary

/-- The line of a branch over predicates. -/
def line (entity : String) (branch : PredicateBranch) : String :=
  "        " ++ (if branch.asksForType then "is " else "") ++ Naming.predicateType entity ++ "." ++
    branch.caseName ++ "." ++ branch.operator.name ++ " -> " ++
    branch.operator.criteriaCall branch.path.render

end PredicateBranch

/-! ## Copies -/

/-- The copies from the contract into a persisted object. -/
inductive CopyMode where
  | insertable
  | updatable
  deriving DecidableEq, Repr

namespace CopyMode

/-- The function that performs a copy. -/
def functionName : CopyMode → String
  | insertable => "copyInsertablePropertiesTo"
  | updatable => "copyUpdatablePropertiesTo"

/-- Whether the flags of an attribute allow a copy. -/
def allows (mode : CopyMode) (attr : Attribute) : Bool :=
  match mode with
  | insertable => attr.allowsInsert
  | updatable => attr.allowsUpdate

end CopyMode

/-- An assignment to a property of a persisted object. A relationship is looked up by its key,
unless there is no key. -/
inductive EntityAssignment where
  | plain (property : String)
  | lookup (property foreignKey targetType : String)
  deriving DecidableEq, Repr

namespace EntityAssignment

/-- The property that is assigned. -/
def property : EntityAssignment → String
  | plain property | lookup property _ _ => property

/-- The lines of an assignment. -/
def lines : EntityAssignment → List String
  | plain property => ["    entity." ++ property ++ " = this." ++ property]
  | lookup property foreignKey targetType =>
    ["    entity." ++ property ++ " = if (this." ++ foreignKey ++ " == null) \x7b",
      "        null",
      "    \x7d else \x7b",
      "        entityManager.find(" ++ targetType ++ "::class.java, this." ++ foreignKey ++ ")",
      "    \x7d"]

end EntityAssignment

/-- An assignment to a property of client-facing data. A relationship is followed to the identifier
of its target. -/
inductive DataAssignment where
  | plain (property : String)
  | navigated (foreignKey property identifier : String)
  deriving DecidableEq, Repr

namespace DataAssignment

/-- The property that is assigned. -/
def property : DataAssignment → String
  | plain property => property
  | navigated foreignKey _ _ => foreignKey

/-- The line of an assignment. -/
def line : DataAssignment → String
  | plain property => "    data." ++ property ++ " = this." ++ property
  | navigated foreignKey property identifier =>
    "    data." ++ foreignKey ++ " = this." ++ property ++ "?." ++ identifier

end DataAssignment

namespace MappedAttribute

/-- Whether the persistence runtime manages an attribute, so that no copy sets it. -/
def isManaged (mapped : MappedAttribute) : Bool :=
  match mapped.type with
  | .identifier _ _ | .version _ => true
  | .basic _ | .manyToOne _ => false

/-- Whether a copy into the persisted object sets an attribute. -/
def isCopied (mode : CopyMode) (mapped : MappedAttribute) : Bool :=
  mode.allows mapped.source && !mapped.isManaged

/-- The assignment that copies an attribute into the persisted object. -/
def entityAssignment (mapped : MappedAttribute) : EntityAssignment :=
  match mapped.type with
  | .manyToOne target =>
    .lookup mapped.property (Naming.foreignKey mapped.name target.identifierName)
      (Naming.entityType target.entityName)
  | _ => .plain mapped.property

/-- The assignment that copies an attribute into client-facing data. -/
def dataAssignment (mapped : MappedAttribute) : DataAssignment :=
  match mapped.type with
  | .manyToOne target =>
    .navigated (Naming.foreignKey mapped.name target.identifierName) mapped.property
      (Naming.property target.identifierName)
  | _ => .plain mapped.property

end MappedAttribute

/-! ## Functions -/

namespace Extension

/-- The imports of an extension apart from those of its types and metamodels. -/
def fixedImports : List String := ["jakarta.persistence.*", "jakarta.persistence.criteria.*"]

/-- The branches over all orders of an entity. -/
def orderBranches (entity : String) (attrs : List MappedAttribute) : List OrderBranch :=
  attrs.flatMap (MappedAttribute.orderBranches entity)

/-- The branches over all predicates of an entity. -/
def predicateBranches (entity : String) (attrs : List MappedAttribute) : List PredicateBranch :=
  attrs.flatMap (MappedAttribute.predicateBranches entity)

/-- The assignments of a copy into the persisted object. -/
def entityAssignments (mode : CopyMode) (attrs : List MappedAttribute) : List EntityAssignment :=
  (attrs.filter (MappedAttribute.isCopied mode)).map MappedAttribute.entityAssignment

/-- The assignments of the copy into client-facing data. -/
def dataAssignments (attrs : List MappedAttribute) : List DataAssignment :=
  attrs.map MappedAttribute.dataAssignment

/-- The function that makes one criterion of one order or predicate. -/
def criterionFunction (entity receiver name result : String) (branches : List String) :
    List String :=
  ["fun " ++ receiver ++ "." ++ name ++ "(criteriaBuilder: CriteriaBuilder, root: From<*, " ++
      Naming.entityType entity ++ ">): " ++ result ++ " \x7b",
    "    return when (this) \x7b"] ++ branches ++ ["    \x7d", "\x7d", ""]

/-- The lines that collect the predicates of a query. -/
def predicateCollection : List String :=
  ["    val predicates = buildList \x7b",
    "        for (predicate in filtering) \x7b",
    "            add(predicate.toPredicate(criteriaBuilder, root))",
    "        \x7d",
    "    \x7d"]

/-- The lines that collect the orders of a query. -/
def orderCollection : List String :=
  ["    val orders = buildList \x7b",
    "        for (order in ordering) \x7b",
    "            add(order.toOrder(criteriaBuilder, root))",
    "        \x7d",
    "    \x7d"]

/-- The lines that restrict a query to its predicates. -/
def restriction : List String :=
  ["    if (predicates.isNotEmpty()) \x7b",
    "        criteriaQuery.where(*predicates.toTypedArray())",
    "    \x7d"]

/-- The function that counts rows. -/
def countFunction (entity : String) : List String :=
  ["fun EntityManager.count" ++ Text.capitalized entity ++
      "(distinct: Boolean = false, filtering: List<" ++ Naming.predicateType entity ++
      "> = emptyList()): Long \x7b",
    "    val criteriaBuilder = this.criteriaBuilder",
    "    val criteriaQuery = criteriaBuilder.createQuery(Long::class.java)",
    "    val root = criteriaQuery.from(" ++ Naming.entityType entity ++ "::class.java)",
    "    criteriaQuery.select(criteriaBuilder.count(root))",
    "    criteriaQuery.distinct(distinct)"] ++
    predicateCollection ++ restriction ++
    ["    val typedQuery = this.createQuery(criteriaQuery)",
      "    return typedQuery.singleResult",
      "\x7d", ""]

/-- The function that lists rows. -/
def listFunction (entity : String) : List String :=
  let entityType := Naming.entityType entity
  ["fun EntityManager.list" ++ Text.capitalized entity ++
      "(distinct: Boolean = false, filtering: List<" ++ Naming.predicateType entity ++
      "> = emptyList(), ordering: List<" ++ Naming.orderType entity ++
      "> = emptyList(), lockMode: LockModeType = LockModeType.NONE, firstResult: Int = -1, " ++
      "maxResults: Int = -1): List<" ++ entityType ++ "> \x7b",
    "    val criteriaBuilder = this.criteriaBuilder",
    "    val criteriaQuery = criteriaBuilder.createQuery(" ++ entityType ++ "::class.java)",
    "    val root = criteriaQuery.from(" ++ entityType ++ "::class.java)",
    "    criteriaQuery.select(root)",
    "    criteriaQuery.distinct(distinct)"] ++
    predicateCollection ++ orderCollection ++ restriction ++
    ["    if (ordering.isNotEmpty()) \x7b",
      "        criteriaQuery.orderBy(*orders.toTypedArray())",
      "    \x7d",
      "    val typedQuery = this.createQuery(criteriaQuery)",
      "    typedQuery.setLockMode(lockMode)",
      "    if (firstResult >= 0) \x7b",
      "        typedQuery.setFirstResult(firstResult)",
      "    \x7d",
      "    if (maxResults >= 0) \x7b",
      "        typedQuery.setMaxResults(maxResults)",
      "    \x7d",
      "    return typedQuery.resultList",
      "\x7d", ""]

/-- The function that copies from the contract into a persisted object. -/
def entityCopyFunction (entity : String) (mode : CopyMode) (assignments : List EntityAssignment) :
    List String :=
  ["@Suppress(\"UNUSED_PARAMETER\")",
    "fun " ++ Naming.contractType entity ++ "." ++ mode.functionName ++
      "(entityManager: EntityManager, entity: " ++ Naming.entityType entity ++ ") \x7b"] ++
    assignments.flatMap EntityAssignment.lines ++ ["\x7d", ""]

/-- The function that copies from a persisted object into client-facing data. -/
def dataCopyFunction (entity : String) (assignments : List DataAssignment) : List String :=
  ["fun " ++ Naming.entityType entity ++ ".copyPropertiesTo(data: " ++
      Naming.contractType entity ++ ") \x7b"] ++
    assignments.map DataAssignment.line ++ ["\x7d", ""]

/-- The body of an extension. -/
def body (entity : String) (orders : List OrderBranch) (predicates : List PredicateBranch)
    (insertable updatable : List EntityAssignment) (data : List DataAssignment) : List String :=
  criterionFunction entity (Naming.orderType entity) "toOrder" "Order"
      (orders.map (OrderBranch.line entity)) ++
    criterionFunction entity (Naming.predicateType entity) "toPredicate" "Predicate"
      (predicates.map (PredicateBranch.line entity)) ++
    countFunction entity ++ listFunction entity ++
    entityCopyFunction entity .insertable insertable ++
    entityCopyFunction entity .updatable updatable ++
    dataCopyFunction entity data

end Extension

end PersistenceLayer
