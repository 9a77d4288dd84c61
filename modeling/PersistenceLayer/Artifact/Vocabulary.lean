import PersistenceLayer.Artifact.SourceFile

/-!
# Query vocabularies

The vocabulary of an entity declares what its queries can be ordered and
filtered by: for each attribute a sealed class of two orders and one of
predicates, with one leaf per operator that the attribute's type admits.
-/

namespace PersistenceLayer

/-- The number of operands of an operator, which are called `x` and `y`. -/
inductive Arity where
  | nullary
  | unary
  | binary
  deriving DecidableEq, Repr

/-- The filtering operators. -/
inductive Operator where
  | between
  | equal
  | greaterThan
  | greaterThanOrEqualTo
  | isNotNull
  | isNull
  | lessThan
  | lessThanOrEqualTo
  | like
  | notBetween
  | notEqual
  | notGreaterThan
  | notGreaterThanOrEqualTo
  | notLessThan
  | notLessThanOrEqualTo
  | notLike
  deriving DecidableEq, Repr

namespace Operator

/-- All operators, in the order in which they are declared. -/
def all : List Operator :=
  [between, equal, greaterThan, greaterThanOrEqualTo, isNotNull, isNull, lessThan,
    lessThanOrEqualTo, like, notBetween, notEqual, notGreaterThan, notGreaterThanOrEqualTo,
    notLessThan, notLessThanOrEqualTo, notLike]

/-- The name of an operator's leaf. -/
def name : Operator → String
  | between => "Between"
  | equal => "Equal"
  | greaterThan => "GreaterThan"
  | greaterThanOrEqualTo => "GreaterThanOrEqualTo"
  | isNotNull => "IsNotNull"
  | isNull => "IsNull"
  | lessThan => "LessThan"
  | lessThanOrEqualTo => "LessThanOrEqualTo"
  | like => "Like"
  | notBetween => "NotBetween"
  | notEqual => "NotEqual"
  | notGreaterThan => "NotGreaterThan"
  | notGreaterThanOrEqualTo => "NotGreaterThanOrEqualTo"
  | notLessThan => "NotLessThan"
  | notLessThanOrEqualTo => "NotLessThanOrEqualTo"
  | notLike => "NotLike"

/-- The number of operands of an operator. -/
def arity : Operator → Arity
  | isNotNull | isNull => .nullary
  | between | notBetween => .binary
  | _ => .unary

/-- Whether an operator matches patterns, which only columns of text admit. -/
def isTextual : Operator → Bool
  | like | notLike => true
  | _ => false

/-- The criteria method of an operator, and whether its result is negated. The negated comparisons
have no method of their own, whereas `notEqual` and `notLike` do. -/
def method : Operator → String × Bool
  | between => ("between", false)
  | equal => ("equal", false)
  | greaterThan => ("greaterThan", false)
  | greaterThanOrEqualTo => ("greaterThanOrEqualTo", false)
  | isNotNull => ("isNotNull", false)
  | isNull => ("isNull", false)
  | lessThan => ("lessThan", false)
  | lessThanOrEqualTo => ("lessThanOrEqualTo", false)
  | like => ("like", false)
  | notBetween => ("between", true)
  | notEqual => ("notEqual", false)
  | notGreaterThan => ("greaterThan", true)
  | notGreaterThanOrEqualTo => ("greaterThanOrEqualTo", true)
  | notLessThan => ("lessThan", true)
  | notLessThanOrEqualTo => ("lessThanOrEqualTo", true)
  | notLike => ("notLike", false)

/-- The call that builds an operator's predicate over a path, with the operands of the leaf it is
called in. -/
def criteriaCall (operator : Operator) (path : String) : String :=
  let operands :=
    match operator.arity with
    | .nullary => ""
    | .unary => ", this.x"
    | .binary => ", this.x, this.y"
  let call := "criteriaBuilder." ++ operator.method.1 ++ "(" ++ path ++ operands ++ ")"
  if operator.method.2 then "criteriaBuilder.not(" ++ call ++ ")" else call

/-- The operators that a column admits, given whether it holds text. -/
def admitted (isText : Bool) : List Operator :=
  all.filter fun operator => isText || !operator.isTextual

end Operator

/-- The two directions of an order. -/
inductive Direction where
  | ascending
  | descending
  deriving DecidableEq, Repr

namespace Direction

/-- Both directions, in the order in which they are declared. -/
def all : List Direction := [ascending, descending]

/-- The name of a direction's leaf. -/
def name : Direction → String
  | ascending => "Ascending"
  | descending => "Descending"

/-- The criteria method of a direction. -/
def method : Direction → String
  | ascending => "asc"
  | descending => "desc"

end Direction

/-- Whether a mapped type holds text. -/
def MappedType.isText : MappedType → Bool
  | basic (.string _) => true
  | _ => false

/-- The predicates of an attribute: the name of their class, the scalar of their operands, and the
operators they are made by. -/
structure PredicateCase where
  name : String
  operand : Scalar
  operators : List Operator
  deriving DecidableEq, Repr

namespace MappedAttribute

/-- The operators that an attribute admits. -/
def operators (mapped : MappedAttribute) : List Operator :=
  Operator.admitted mapped.type.isText

/-- The predicates that an attribute contributes to a vocabulary. -/
def predicateCase (mapped : MappedAttribute) : PredicateCase :=
  ⟨mapped.caseName, mapped.type.scalar, mapped.operators⟩

end MappedAttribute

namespace PredicateCase

/-- The line that declares the leaf of an operator: a singleton without operands, a class with. -/
def leafLine (predicate : PredicateCase) (operator : Operator) : String :=
  let operand := predicate.operand.kotlinName
  let declaration :=
    match operator.arity with
    | .nullary => "object " ++ operator.name
    | .unary => "class " ++ operator.name ++ "(val x: " ++ operand ++ ")"
    | .binary => "class " ++ operator.name ++ "(val x: " ++ operand ++ ", val y: " ++ operand ++ ")"
  "        " ++ declaration ++ ": " ++ predicate.name ++ "()"

end PredicateCase

namespace Vocabulary

/-- The line that opens the class of a case. -/
def caseLine (name base : String) : String :=
  "    sealed class " ++ name ++ ": " ++ base ++ "() \x7b"

/-- The line that declares the leaf of a direction. -/
def directionLine (name : String) (direction : Direction) : String :=
  "        object " ++ direction.name ++ ": " ++ name ++ "()"

/-- The lines of an attribute's orders. -/
def orderLines (base name : String) : List String :=
  [caseLine name base] ++ Direction.all.map (directionLine name) ++ ["    \x7d"]

/-- The lines of an attribute's predicates. -/
def predicateLines (base : String) (predicate : PredicateCase) : List String :=
  [caseLine predicate.name base] ++ predicate.operators.map predicate.leafLine ++ ["    \x7d"]

/-- The cases of the orders, by name. -/
def orderCases (attrs : List MappedAttribute) : List String :=
  attrs.map MappedAttribute.caseName

/-- The cases of the predicates. -/
def predicateCases (attrs : List MappedAttribute) : List PredicateCase :=
  attrs.map MappedAttribute.predicateCase

/-- A sealed class with the given lines inside. -/
def sealedClass (name : String) (inner : List String) : List String :=
  ["sealed class " ++ name ++ " \x7b"] ++ inner ++ ["\x7d", ""]

/-- The body of a vocabulary. -/
def body (entity : String) (orders : List String) (predicates : List PredicateCase) :
    List String :=
  let orderType := Naming.orderType entity
  let predicateType := Naming.predicateType entity
  sealedClass orderType (orders.flatMap (orderLines orderType)) ++
    sealedClass predicateType (predicates.flatMap (predicateLines predicateType))

end Vocabulary

end PersistenceLayer
