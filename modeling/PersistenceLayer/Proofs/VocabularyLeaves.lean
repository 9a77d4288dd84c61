import PersistenceLayer.Proofs.GeneratedDeclarations

/-!
# Leaves of vocabularies

The vocabulary of an entity declares two sealed classes, of orders and of
predicates, each with a case for every attribute and leaves inside the cases.
The leaves are read off the lines by their blocks: those of the orders are the
two directions, those of the predicates the operators that an attribute admits.
-/

namespace PersistenceLayer

open Text (tokens isWord isDeeper blocks tokens_of_isWord tokens_append_of_opens
  tokens_append_of_ends)

/-! ## Reading leaves -/

/-- The qualified name of a leaf. -/
structure LeafName where
  base : String
  caseName : String
  name : String
  deriving DecidableEq, Repr

/-- A leaf that a vocabulary declares: a singleton, or a class with parameters. -/
structure DeclaredLeaf where
  name : LeafName
  isClass : Bool
  parameters : List String
  deriving DecidableEq, Repr

/-- The leaf that the tokens of a line declare inside the given case, if they do. -/
def DeclaredLeaf.ofTokens? (base caseName : String) : List String → Option DeclaredLeaf
  | ["object", name, ":", parent, "(", ")"] =>
    if parent = caseName then some ⟨⟨base, caseName, name⟩, false, []⟩ else none
  | ["class", name, "(", "val", x, ":", _, ")", ":", parent, "(", ")"] =>
    if parent = caseName then some ⟨⟨base, caseName, name⟩, true, [x]⟩ else none
  | ["class", name, "(", "val", x, ":", _, ",", "val", y, ":", _, ")", ":", parent, "(", ")"] =>
    if parent = caseName then some ⟨⟨base, caseName, name⟩, true, [x, y]⟩ else none
  | _ => none

/-- The leaf that a line declares inside the given case, if it does. -/
def DeclaredLeaf.ofLine? (base caseName line : String) : Option DeclaredLeaf :=
  ofTokens? base caseName (tokens line)

/-- The leaves that a case of the given sealed class declares, if it holds nothing else. -/
def DeclaredLeaf.ofCase? (base : String) :
    (String × String) × List String → Option (List DeclaredLeaf)
  | ((caseName, parent), lines) =>
    if parent = base then lines.mapM (ofLine? base caseName) else none

/-- The name of the sealed class that the tokens of a line open, if they do. -/
def sealedHead? : List String → Option String
  | ["sealed", "class", name, "\x7b"] => some name
  | _ => none

/-- The name of the sealed class that the tokens of a line open inside another one, and the name of
the class it extends, if they do. -/
def caseHead? : List String → Option (String × String)
  | ["sealed", "class", name, ":", parent, "(", ")", "\x7b"] => some (name, parent)
  | _ => none

/-- The leaves that a file declares inside the cases of a sealed class, if each case extends that
class and holds nothing but leaves. Only what stands behind the prelude of the text is read. -/
def SourceFile.leaves? (file : SourceFile) (base : String) : Option (List DeclaredLeaf) := do
  let lines ← (blocks sealedHead? 0 file.bodyLines).lookup base
  let leaves ← (blocks caseHead? 4 lines).mapM (DeclaredLeaf.ofCase? base)
  return leaves.flatten

/-! ## Vocabularies -/

namespace Vocabulary

variable {base name : String}

/-- The line that opens a sealed class, by its tokens. -/
theorem tokens_sealedLine (hname : isWord name = true) :
    tokens ("sealed class " ++ name ++ " \x7b") = ["sealed", "class", name, "\x7b"] := by
  simp (disch := simp +decide) only [tokens_append_of_opens, tokens_append_of_ends,
    tokens_of_isWord hname]
  rfl

/-- The line that opens a case, by its tokens. -/
theorem tokens_caseLine (hname : isWord name = true) (hbase : isWord base = true) :
    tokens (caseLine name base) = ["sealed", "class", name, ":", base, "(", ")", "\x7b"] := by
  unfold caseLine
  simp (disch := simp +decide) only [tokens_append_of_opens, tokens_append_of_ends,
    tokens_of_isWord hname, tokens_of_isWord hbase]
  rfl

/-- The line that declares the leaf of a direction, by its tokens. -/
theorem tokens_directionLine {leaf : String} (hleaf : isWord leaf = true)
    (hname : isWord name = true) :
    tokens ("        object " ++ leaf ++ ": " ++ name ++ "()") =
      ["object", leaf, ":", name, "(", ")"] := by
  simp (disch := simp +decide) only [tokens_append_of_opens, tokens_append_of_ends,
    tokens_of_isWord hleaf, tokens_of_isWord hname]
  rfl

/-- The line that declares some leaf of a case, by its tokens. -/
theorem tokens_leafLine (declaration : String) (hname : isWord name = true) :
    tokens ("        " ++ declaration ++ ": " ++ name ++ "()") =
      tokens declaration ++ [":", name, "(", ")"] := by
  simp (disch := simp +decide) only [tokens_append_of_opens, tokens_append_of_ends,
    tokens_of_isWord hname, List.append_assoc]
  rfl

/-- A leaf without operands, by its tokens. -/
theorem tokens_object {leaf : String} (hleaf : isWord leaf = true) :
    tokens ("object " ++ leaf) = ["object", leaf] := by
  rw [tokens_append_of_ends (by decide), tokens_of_isWord hleaf]
  rfl

/-- A leaf with one operand, by its tokens. -/
theorem tokens_unaryClass {leaf operand : String} (hleaf : isWord leaf = true)
    (hoperand : isWord operand = true) :
    tokens ("class " ++ leaf ++ "(val x: " ++ operand ++ ")") =
      ["class", leaf, "(", "val", "x", ":", operand, ")"] := by
  simp (disch := simp +decide) only [tokens_append_of_opens, tokens_append_of_ends,
    tokens_of_isWord hleaf, tokens_of_isWord hoperand]
  rfl

/-- A leaf with two operands, by its tokens. -/
theorem tokens_binaryClass {leaf operand : String} (hleaf : isWord leaf = true)
    (hoperand : isWord operand = true) :
    tokens ("class " ++ leaf ++ "(val x: " ++ operand ++ ", val y: " ++ operand ++ ")") =
      ["class", leaf, "(", "val", "x", ":", operand, ",", "val", "y", ":", operand, ")"] := by
  simp (disch := simp +decide) only [tokens_append_of_opens, tokens_append_of_ends,
    tokens_of_isWord hleaf, tokens_of_isWord hoperand]
  rfl

end Vocabulary

/-- The names by which an operator's leaf declares its operands. -/
def Arity.operands : Arity → List String
  | nullary => []
  | unary => ["x"]
  | binary => ["x", "y"]

/-- The leaf of an order. -/
def Direction.leaf (direction : Direction) (base caseName : String) : DeclaredLeaf :=
  ⟨⟨base, caseName, direction.name⟩, false, []⟩

/-- The leaf of a predicate. -/
def Operator.leaf (operator : Operator) (base caseName : String) : DeclaredLeaf :=
  ⟨⟨base, caseName, operator.name⟩, operator.arity != .nullary, operator.arity.operands⟩

/-- The line of an order declares its leaf. -/
theorem Vocabulary.ofLine?_directionLine {name : String} (base : String) (direction : Direction)
    (hname : isWord name = true) :
    DeclaredLeaf.ofLine? base name (directionLine name direction) =
      some (direction.leaf base name) := by
  have htokens : tokens (directionLine name direction) = _ :=
    tokens_directionLine direction.isWord_name hname
  rw [DeclaredLeaf.ofLine?, htokens]
  exact if_pos rfl

/-- The line of a predicate declares its leaf. -/
theorem PredicateCase.ofLine?_leafLine (base : String) (predicate : PredicateCase)
    (operator : Operator) (hname : isWord predicate.name = true) :
    DeclaredLeaf.ofLine? base predicate.name (predicate.leafLine operator) =
      some (operator.leaf base predicate.name) := by
  have hoperator := operator.isWord_name
  have hoperand := predicate.operand.isWord_kotlinName
  have htokens : tokens (predicate.leafLine operator) = _ :=
    Vocabulary.tokens_leafLine _ hname
  rw [DeclaredLeaf.ofLine?, htokens, Operator.leaf]
  cases operator.arity with
  | nullary =>
    dsimp only
    rw [Vocabulary.tokens_object hoperator]
    exact if_pos rfl
  | unary =>
    dsimp only
    rw [Vocabulary.tokens_unaryClass hoperator hoperand]
    exact if_pos rfl
  | binary =>
    dsimp only
    rw [Vocabulary.tokens_binaryClass hoperator hoperand]
    exact if_pos rfl

/-- Everything inside the classes of a vocabulary is indented. -/
theorem Vocabulary.isDeeper_caseLine (name base : String) :
    isDeeper 0 (caseLine name base) = true ∧ isDeeper 4 (caseLine name base) = false := by
  unfold caseLine
  simp only [String.append_assoc]
  exact ⟨Text.isDeeper_append _ (by decide),
    Text.isDeeper_append_eq_false _ (by decide) (by decide)⟩

/-- The leaf of a direction is indented deeper than its case. -/
theorem Vocabulary.isDeeper_directionLine (name : String) (direction : Direction) :
    isDeeper 4 (directionLine name direction) = true := by
  unfold directionLine
  simp only [String.append_assoc]
  exact Text.isDeeper_append _ (by decide)

/-- The leaf of an operator is indented deeper than its case. -/
theorem PredicateCase.isDeeper_leafLine (predicate : PredicateCase) (operator : Operator) :
    isDeeper 4 (predicate.leafLine operator) = true := by
  unfold leafLine
  simp only [String.append_assoc]
  exact Text.isDeeper_append _ (by decide)

/-- A sealed class is read up to the brace that closes it. -/
theorem Vocabulary.blocks_sealedClass {name : String} {inner rest : List String}
    (hname : isWord name = true) (hinner : ∀ line ∈ inner, isDeeper 0 line = true) :
    blocks sealedHead? 0 (sealedClass name inner ++ rest) =
      (name, inner) :: blocks sealedHead? 0 rest := by
  have hlines : sealedClass name inner ++ rest =
      ("sealed class " ++ name ++ " \x7b") :: inner ++ "\x7d" :: "" :: rest := by
    simp [sealedClass]
  have hopening : isDeeper 0 ("sealed class " ++ name ++ " \x7b") = false := by
    simp only [String.append_assoc]
    exact Text.isDeeper_append_eq_false _ (by decide) (by decide)
  rw [hlines, Text.blocks_cons_append hopening hinner (by decide) (by decide),
    Text.blocks_cons_of_none (.inr (by decide)), tokens_sealedLine hname]
  rfl

section Cases

variable {α : Type} {items : List α} {base : String} {caseName : α → String}
  {lines : α → List String} (hlines : ∀ item ∈ items, ∀ line ∈ lines item, isDeeper 4 line = true)

include hlines

/-- Cases are indented by less than their leaves. -/
theorem Vocabulary.isDeeper_cases :
    ∀ line ∈ items.flatMap fun item =>
      caseLine (caseName item) base :: lines item ++ ["    \x7d"], isDeeper 0 line = true := by
  rw [List.forall_mem_flatMap]
  intro item hitem
  rw [List.cons_append, List.forall_mem_cons, List.forall_mem_append, List.forall_mem_singleton]
  exact ⟨(isDeeper_caseLine _ _).1,
    fun line hline => Text.isDeeper_mono (by decide) (hlines item hitem line hline), by decide⟩

/-- The leaves of the cases of a sealed class. -/
theorem Vocabulary.mapM_ofCase? {leaves : α → List DeclaredLeaf} (hbase : isWord base = true)
    (hcaseName : ∀ item ∈ items, isWord (caseName item) = true)
    (hleaves : ∀ item ∈ items, (lines item).mapM (DeclaredLeaf.ofLine? base (caseName item)) =
      some (leaves item)) :
    (blocks caseHead? 4 (items.flatMap fun item =>
        caseLine (caseName item) base :: lines item ++ ["    \x7d"])).mapM
      (DeclaredLeaf.ofCase? base) = some (items.map leaves) := by
  have hopening : ∀ item ∈ items, isDeeper 4 (caseLine (caseName item) base) = false ∧
      caseHead? (tokens (caseLine (caseName item) base)) = some (caseName item, base) := by
    intro item hitem
    rw [tokens_caseLine (hcaseName item hitem) hbase]
    exact ⟨(isDeeper_caseLine _ _).2, rfl⟩
  rw [Text.blocks_flatMap hopening hlines (by decide) (by decide)]
  refine mapM_map_eq_some fun item hitem => ?_
  rw [DeclaredLeaf.ofCase?, if_pos rfl, hleaves item hitem]

end Cases

/-- The lines of orders are indented deeper than their class. -/
theorem Vocabulary.isDeeper_orders (base : String) (attrs : List MappedAttribute) :
    ∀ line ∈ (orderCases attrs).flatMap (orderLines base), isDeeper 0 line = true :=
  isDeeper_cases fun name _ =>
    List.forall_mem_map.mpr fun direction _ => isDeeper_directionLine name direction

/-- The lines of predicates are indented deeper than their class. -/
theorem Vocabulary.isDeeper_predicates (base : String) (attrs : List MappedAttribute) :
    ∀ line ∈ (predicateCases attrs).flatMap (predicateLines base), isDeeper 0 line = true :=
  isDeeper_cases fun predicate _ =>
    List.forall_mem_map.mpr fun operator _ => predicate.isDeeper_leafLine operator

/-- The classes of orders and predicates have different names. -/
theorem Naming.predicateType_ne_orderType (entity : String) :
    predicateType entity ≠ orderType entity := by
  intro h
  have hchars := congrArg String.toList h
  simp [predicateType, orderType] at hchars

/-- The leaves of an attribute's orders. -/
def MappedAttribute.orderLeaves (base : String) (mapped : MappedAttribute) : List DeclaredLeaf :=
  Direction.all.map fun direction => direction.leaf base mapped.caseName

/-- The leaves of an attribute's predicates. -/
def MappedAttribute.predicateLeaves (base : String) (mapped : MappedAttribute) :
    List DeclaredLeaf :=
  mapped.operators.map fun operator => operator.leaf base mapped.caseName

namespace SourceFile

variable (options : Options) {entity : Entity} {attrs : List MappedAttribute}
  (hentity : Text.isIdentifier entity.name = true)
  (hnames : ∀ mapped ∈ attrs, mapped.HasIdentifierNames)

include hentity hnames

/-- The sealed classes of a vocabulary are those of orders and predicates. -/
theorem sealedClasses_vocabulary :
    blocks sealedHead? 0 (Kind.vocabulary.sourceFile options entity attrs).bodyLines =
      [(Naming.orderType entity.name, (Vocabulary.orderCases attrs).flatMap
          (Vocabulary.orderLines (Naming.orderType entity.name))),
        (Naming.predicateType entity.name, (Vocabulary.predicateCases attrs).flatMap
          (Vocabulary.predicateLines (Naming.predicateType entity.name)))] := by
  have horders := Vocabulary.isDeeper_orders (Naming.orderType entity.name) attrs
  have hpredicates := Vocabulary.isDeeper_predicates (Naming.predicateType entity.name) attrs
  rw [bodyLines_of_ne_persisted options hentity hnames (by decide)]
  change blocks sealedHead? 0 (Vocabulary.body _ _ _) = _
  rw [Vocabulary.body, Vocabulary.blocks_sealedClass (Naming.isWord_orderType hentity) horders,
    ← List.append_nil (Vocabulary.sealedClass (Naming.predicateType entity.name) _),
    Vocabulary.blocks_sealedClass (Naming.isWord_predicateType hentity) hpredicates]
  rfl

/-- A vocabulary declares two leaves for each attribute, by which results are ordered. -/
theorem leaves?_orderType :
    (Kind.vocabulary.sourceFile options entity attrs).leaves? (Naming.orderType entity.name) =
      some (attrs.flatMap (MappedAttribute.orderLeaves (Naming.orderType entity.name))) := by
  have hwords : ∀ name ∈ Vocabulary.orderCases attrs, isWord name = true :=
    List.forall_mem_map.mpr fun mapped hmapped => (hnames mapped hmapped).isWord_caseName
  have hcases : (blocks caseHead? 4 ((Vocabulary.orderCases attrs).flatMap
      (Vocabulary.orderLines (Naming.orderType entity.name)))).mapM
        (DeclaredLeaf.ofCase? (Naming.orderType entity.name)) =
      some ((Vocabulary.orderCases attrs).map fun name =>
        Direction.all.map fun direction => direction.leaf (Naming.orderType entity.name) name) := by
    refine Vocabulary.mapM_ofCase? (fun name _ => List.forall_mem_map.mpr fun direction _ =>
      Vocabulary.isDeeper_directionLine name direction) (Naming.isWord_orderType hentity) hwords ?_
    intro name hname
    exact mapM_map_eq_some fun direction _ =>
      Vocabulary.ofLine?_directionLine _ direction (hwords name hname)
  rw [leaves?, sealedClasses_vocabulary options hentity hnames, List.lookup_cons_self]
  simp only [Option.bind_eq_bind, Option.bind_some, hcases]
  rw [Vocabulary.orderCases, List.map_map]
  rfl

/-- A vocabulary declares a leaf for each operator that an attribute admits. -/
theorem leaves?_predicateType :
    (Kind.vocabulary.sourceFile options entity attrs).leaves?
        (Naming.predicateType entity.name) =
      some (attrs.flatMap
        (MappedAttribute.predicateLeaves (Naming.predicateType entity.name))) := by
  have hwords : ∀ predicate ∈ Vocabulary.predicateCases attrs, isWord predicate.name = true :=
    List.forall_mem_map.mpr fun mapped hmapped => (hnames mapped hmapped).isWord_caseName
  have hcases : (blocks caseHead? 4 ((Vocabulary.predicateCases attrs).flatMap
      (Vocabulary.predicateLines (Naming.predicateType entity.name)))).mapM
        (DeclaredLeaf.ofCase? (Naming.predicateType entity.name)) =
      some ((Vocabulary.predicateCases attrs).map fun predicate =>
        predicate.operators.map fun operator =>
          operator.leaf (Naming.predicateType entity.name) predicate.name) := by
    refine Vocabulary.mapM_ofCase? (fun predicate _ => List.forall_mem_map.mpr fun operator _ =>
      predicate.isDeeper_leafLine operator) (Naming.isWord_predicateType hentity) hwords ?_
    intro predicate hpredicate
    exact mapM_map_eq_some fun operator _ =>
      predicate.ofLine?_leafLine _ operator (hwords predicate hpredicate)
  have hlookup : (Naming.predicateType entity.name == Naming.orderType entity.name) = false :=
    beq_eq_false_iff_ne.mpr (Naming.predicateType_ne_orderType entity.name)
  rw [leaves?, sealedClasses_vocabulary options hentity hnames, List.lookup_cons, hlookup,
    List.lookup_cons_self]
  simp only [Option.bind_eq_bind, Option.bind_some, hcases]
  rw [Vocabulary.predicateCases, List.map_map]
  rfl

end SourceFile

end PersistenceLayer
