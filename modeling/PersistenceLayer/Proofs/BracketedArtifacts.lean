import PersistenceLayer.Proofs.Brackets
import PersistenceLayer.Proofs.CriteriaCalls
import PersistenceLayer.Proofs.ImportLines
import PersistenceLayer.Proofs.MappingAnnotations

/-!
# Bracketed artifacts

Every artifact of a valid set is scanned to its end with nothing left open. Each
kind of line is scanned once, for any words between its literal parts; the lines
of an attribute leave open what was open in front of them, and so do those of
all attributes together.
-/

namespace PersistenceLayer

open Brackets
open Text (isWord)

/-! ## Client-facing data -/

/-- The lines of a property of a contract close what they open. -/
theorem ContractProperty.leads_lines (property : ContractProperty)
    (h : isWord property.property.name = true) : Leads property.lines ['\x7d'] ['\x7d'] := by
  have hmarkers : Leads (property.markers.map markerLine) ['\x7d'] ['\x7d'] := by
    refine leads_map fun constraint _ => ?_
    have hname : isWord constraint.name = true := by cases constraint <;> decide
    exact scans_ofList rfl |>.word hname |>.leads
  have hdeclaration : Leads [declarationLine property.property] ['\x7d'] ['\x7d'] :=
    scans_ofList rfl |>.word h |>.literal rfl |>.word (Scalar.isWord_kotlinName _) |>.literal rfl
      |>.leads
  exact hmarkers.append (hdeclaration.cons leads_empty)

/-- The body of a contract closes what it opens. -/
theorem Contract.leads_body {entity : String} {properties : List ContractProperty}
    (hentity : Text.isIdentifier entity = true)
    (hproperties : ∀ property ∈ properties, isWord property.property.name = true) :
    Leads (body entity properties) [] [] := by
  have hopening : Leads ["interface " ++ Naming.contractType entity ++ " \x7b"] [] ['\x7d'] :=
    scans_ofList rfl |>.word (Naming.isWord_contractType hentity) |>.literal rfl |>.leads
  have hlines := leads_flatMap fun property hmem =>
    ContractProperty.leads_lines property (hproperties property hmem)
  exact ((hopening.cons leads_empty).append hlines).append leads_closing

/-- The body of a data holder closes what it opens. -/
theorem DataHolder.leads_body {options : Options} {entity : String} {properties : List FlatProperty}
    (hentity : Text.isIdentifier entity = true)
    (hproperties : ∀ property ∈ properties, isWord property.name = true) :
    Leads (body options entity properties) [] [] := by
  have hinitializer : Balances (initializer options) := by
    rw [initializer]
    split
    · exact fun expected => scans_ofList rfl
    · exact fun expected => scans_ofList rfl
  have hopening : Leads ["open class " ++ Naming.dataType entity ++ " : " ++
      Naming.contractType entity ++ " \x7b"] [] ['\x7d'] :=
    scans_ofList rfl |>.word (Naming.isWord_dataType hentity) |>.literal rfl
      |>.word (Naming.isWord_contractType hentity) |>.literal rfl |>.leads
  have hdeclaration : ∀ property ∈ properties,
      Leads [declarationLine options property] ['\x7d'] ['\x7d'] := fun property hmem =>
    scans_ofList rfl |>.word (hproperties property hmem) |>.literal rfl
      |>.word (Scalar.isWord_kotlinName _) |>.literal rfl |>.balanced hinitializer |>.leads
  have hlines := leads_flatMap fun property hmem =>
    (hdeclaration property hmem).cons leads_empty
  exact ((hopening.cons leads_empty).append hlines).append leads_closing

/-! ## Metamodels -/

/-- The body of a metamodel closes what it opens. -/
theorem Metamodel.leads_body {entity : String} {handles : List Handle}
    (hentity : Text.isIdentifier entity = true)
    (hhandles : ∀ handle ∈ handles, isWord handle.name = true ∧
      (handle.type = .scalar .byteArray ∨ isWord handle.type.javaName = true)) :
    Leads (body entity handles) [] [] := by
  have htype := Naming.isWord_entityType hentity
  have hmark : Leads ["@StaticMetamodel(" ++ Naming.entityType entity ++ ".class)"] [] [] :=
    scans_ofList rfl |>.word htype |>.literal rfl |>.leads
  have hopening : Leads ["public class " ++ Naming.metamodelType entity ++ " \x7b"] [] ['\x7d'] :=
    scans_ofList rfl |>.word (Naming.isWord_metamodelType hentity) |>.literal rfl |>.leads
  have hdeclaration : ∀ handle ∈ handles,
      Leads [declarationLine entity handle] ['\x7d'] ['\x7d'] := by
    intro handle hmem
    obtain ⟨hname, hjava⟩ := hhandles handle hmem
    have htypeName : Balances handle.type.javaName := by
      rcases hjava with harray | hword
      · rw [harray]
        exact fun expected => scans_ofList rfl
      · exact balances_of_isWord hword
    exact scans_ofList rfl |>.word htype |>.literal rfl |>.balanced htypeName |>.literal rfl
      |>.word hname |>.literal rfl |>.leads
  have hlines := leads_flatMap fun handle hmem => (hdeclaration handle hmem).cons leads_empty
  exact ((hmark.cons (hopening.cons leads_empty)).append hlines).append leads_closing

/-! ## Persisted classes -/

/-- An argument closes what it opens, quoted text included. -/
theorem Argument.IsMadeOf.balances {argument : Argument} (h : argument.IsMadeOf IsQuotable) :
    Balances argument.render := by
  rcases exists_text_or_isBarePart h with ⟨value, rfl⟩ | ⟨-, hbare⟩
  · exact fun expected => (scans_ofList rfl).append (scans_of_isQuotable h) |>.literal rfl
  · exact balances_of_forall (by decide) hbare

/-- A parameter whose text can be quoted has matching brackets. -/
theorem Parameter.IsMadeOf.balances {parameter : Parameter} (h : parameter.IsMadeOf IsQuotable) :
    Balances parameter.render := fun _ =>
  (balances_of_isWord h.name _).literal rfl |>.balanced h.argument.balances

/-- Parameters whose texts can be quoted make up a list with matching brackets. -/
theorem Annotation.balances_parameterList {parameters : List Parameter}
    (h : ∀ parameter ∈ parameters, parameter.IsMadeOf IsQuotable) :
    Balances (parameterList parameters) := by
  cases parameters with
  | nil => exact fun _ => rfl
  | cons first others =>
    obtain ⟨hfirst, hothers⟩ := List.forall_mem_cons.mp h
    have hjoin : Balances (String.join (others.map fun other => ", " ++ other.render)) :=
      balances_join <| List.forall_mem_map.mpr fun other hother _ =>
        scans_ofList rfl |>.balanced (hothers other hother).balances
    rw [parameterList_cons]
    exact fun _ => scans_ofList rfl |>.balanced hfirst.balances |>.balanced hjoin |>.literal rfl

/-- Behind its first sign, an annotation closes what it opens. -/
theorem Annotation.IsMadeOf.balances {mark : Annotation} (h : mark.IsMadeOf IsQuotable) :
    Balances (mark.name ++ parameterList mark.parameters) := by
  have hname : Balances mark.name := balances_of_forall (by decide) h.name
  exact fun expected => (hname expected).balanced (balances_parameterList h.parameters)

/-- The lines of a property of a persisted class close what they open, its annotations included. -/
theorem PersistedProperty.leads_lines {property : PersistedProperty}
    (hname : isWord property.name = true) (htype : isWord property.type.kotlinName = true)
    (h : ∀ mark ∈ property.annotations, mark.IsMadeOf IsQuotable) :
    Leads property.lines ['\x7d'] ['\x7d'] := by
  have hmarks : Leads (property.annotations.map fun mark => "    " ++ mark.render)
      ['\x7d'] ['\x7d'] := by
    refine leads_map fun mark hmark => ?_
    unfold Annotation.render
    rw [String.append_assoc]
    exact (scans_ofList rfl).append (scans_ofList rfl |>.balanced (h mark hmark).balances) |>.leads
  have hdeclaration : Leads ["    open var " ++ property.name ++ ": " ++ property.type.kotlinName ++
      "? = null"] ['\x7d'] ['\x7d'] :=
    scans_ofList rfl |>.word hname |>.literal rfl |>.word htype |>.literal rfl |>.leads
  exact hmarks.append hdeclaration

/-- The body of a persisted class closes what it opens if the texts in its annotations can be
quoted. -/
theorem Persisted.leads_body {entity : String} {annotations : List Annotation}
    {properties : List PersistedProperty} (hentity : Text.isIdentifier entity = true)
    (hannotations : ∀ mark ∈ annotations, mark.IsMadeOf IsQuotable)
    (hproperties : ∀ property ∈ properties, isWord property.name = true ∧
      isWord property.type.kotlinName = true ∧
      ∀ mark ∈ property.annotations, mark.IsMadeOf IsQuotable) :
    Leads (body entity annotations properties) [] [] := by
  have hmarks : Leads (annotations.map Annotation.render) [] [] := by
    refine leads_map fun mark hmark => ?_
    unfold Annotation.render
    rw [String.append_assoc]
    exact scans_ofList rfl |>.balanced (hannotations mark hmark).balances |>.leads
  have hopening : Leads ["open class " ++ Naming.entityType entity ++ " \x7b"] [] ['\x7d'] :=
    scans_ofList rfl |>.word (Naming.isWord_entityType hentity) |>.literal rfl |>.leads
  have hlines := leads_flatMap fun property hmem =>
    (PersistedProperty.leads_lines (hproperties property hmem).1 (hproperties property hmem).2.1
      (hproperties property hmem).2.2).append leads_empty
  exact ((hmarks.append (hopening.cons leads_empty)).append hlines).append leads_closing

/-! ## Vocabularies -/

namespace Vocabulary

/-- A sealed class closes what it opens if the lines within do. -/
theorem leads_sealedClass {name : String} {inner : List String} (hname : isWord name = true)
    (hinner : Leads inner ['\x7d'] ['\x7d']) : Leads (sealedClass name inner) [] [] := by
  have hopening : Leads ["sealed class " ++ name ++ " \x7b"] [] ['\x7d'] :=
    scans_ofList rfl |>.word hname |>.literal rfl |>.leads
  exact (hopening.append hinner).append (leads_closing.cons leads_empty)

/-- The line that declares a case leaves the case open within its class. -/
theorem leads_caseLine {name base : String} (hname : isWord name = true)
    (hbase : isWord base = true) : Leads [caseLine name base] ['\x7d'] ['\x7d', '\x7d'] :=
  scans_ofList rfl |>.word hname |>.literal rfl |>.word hbase |>.literal rfl |>.leads

/-- The lines of an order case close what they open. -/
theorem leads_orderLines {base name : String} (hbase : isWord base = true)
    (hname : isWord name = true) : Leads (orderLines base name) ['\x7d'] ['\x7d'] := by
  have hdirections : Leads (Direction.all.map (directionLine name)) ['\x7d', '\x7d']
      ['\x7d', '\x7d'] := by
    refine leads_map fun direction _ => ?_
    have hdirection : isWord direction.name = true := by cases direction <;> decide
    exact scans_ofList rfl |>.word hdirection |>.literal rfl |>.word hname |>.literal rfl |>.leads
  exact ((leads_caseLine hname hbase).append hdirections).append leads_blockClosing

/-- A leaf is declared within its case and leaves it open. -/
theorem leads_leafLine {predicate : PredicateCase} (hname : isWord predicate.name = true)
    (operator : Operator) :
    Leads [predicate.leafLine operator] ['\x7d', '\x7d'] ['\x7d', '\x7d'] := by
  have hoperator : isWord operator.name = true := by cases operator <;> decide
  have hoperand := Scalar.isWord_kotlinName predicate.operand
  have hline {declaration : String} (h : Balances declaration) :
      Leads ["        " ++ declaration ++ ": " ++ predicate.name ++ "()"] ['\x7d', '\x7d']
        ['\x7d', '\x7d'] :=
    scans_ofList rfl |>.balanced h |>.literal rfl |>.word hname |>.literal rfl |>.leads
  rw [PredicateCase.leafLine]
  refine hline ?_
  cases operator.arity with
  | nullary => exact fun _ => scans_ofList rfl |>.word hoperator
  | unary =>
    exact fun _ => scans_ofList rfl |>.word hoperator |>.literal rfl |>.word hoperand
      |>.literal rfl
  | binary =>
    exact fun _ => scans_ofList rfl |>.word hoperator |>.literal rfl |>.word hoperand
      |>.literal rfl |>.word hoperand |>.literal rfl

/-- The lines of a predicate case close what they open, one leaf for each operator. -/
theorem leads_predicateLines {base : String} {predicate : PredicateCase}
    (hbase : isWord base = true) (hname : isWord predicate.name = true) :
    Leads (predicateLines base predicate) ['\x7d'] ['\x7d'] :=
  ((leads_caseLine hname hbase).append (leads_map fun operator _ =>
    leads_leafLine hname operator)).append leads_blockClosing

/-- The body of a vocabulary closes what it opens. -/
theorem leads_body {entity : String} {orders : List String} {predicates : List PredicateCase}
    (hentity : Text.isIdentifier entity = true) (horders : ∀ name ∈ orders, isWord name = true)
    (hpredicates : ∀ predicate ∈ predicates, isWord predicate.name = true) :
    Leads (body entity orders predicates) [] [] := by
  have horderType := Naming.isWord_orderType hentity
  have hpredicateType := Naming.isWord_predicateType hentity
  exact (leads_sealedClass horderType (leads_flatMap fun name hmem =>
    leads_orderLines horderType (horders name hmem))).append
      (leads_sealedClass hpredicateType (leads_flatMap fun predicate hmem =>
        leads_predicateLines hpredicateType (hpredicates predicate hmem)))

end Vocabulary

/-! ## Extensions -/

/-- A reference to a handle closes the bracket that it opens. -/
theorem HandleReference.HasWords.balances {reference : HandleReference} (h : reference.HasWords) :
    Balances reference.render := fun _ =>
  scans_ofList rfl |>.word h.metamodel |>.literal rfl |>.word h.handle |>.literal rfl

/-- A criteria path has matching brackets. -/
theorem CriteriaPath.HasWords.balances {path : CriteriaPath} (h : path.HasWords) :
    Balances path.render := by
  have honward : Balances ((path.onward.map HandleReference.render).getD "") := by
    cases htarget : path.onward with
    | none => exact fun _ => rfl
    | some target => exact (h.onward target htarget).balances
  exact fun _ => scans_ofList rfl |>.balanced h.own.balances |>.balanced honward

/-- The criteria call of an operator has matching brackets if the path it is made on does. -/
theorem Operator.balances_criteriaCall (operator : Operator) {path : String} (h : Balances path) :
    Balances (operator.criteriaCall path) := by
  have hcall {operands : String} (hoperands : Balances operands) :
      Balances ("criteriaBuilder." ++ operator.method.1 ++ "(" ++ path ++ operands ++ ")") :=
    fun _ => scans_ofList rfl |>.word operator.isWord_method.1 |>.literal rfl |>.balanced h
      |>.balanced hoperands |>.literal rfl
  have hnegated {call : String} (hbalances : Balances call) :
      Balances (if operator.method.2 then "criteriaBuilder.not(" ++ call ++ ")" else call) := by
    split
    · exact fun _ => scans_ofList rfl |>.balanced hbalances |>.literal rfl
    · exact hbalances
  refine hnegated (hcall ?_)
  cases operator.arity <;> exact fun _ => scans_ofList rfl

namespace Extension

/-- The collection of predicates closes what it opens. -/
theorem leads_predicateCollection : Leads predicateCollection ['\x7d'] ['\x7d'] :=
  leads_map_ofList [_, _, _, _, _] (by decide)

/-- The collection of orders closes what it opens. -/
theorem leads_orderCollection : Leads orderCollection ['\x7d'] ['\x7d'] :=
  leads_map_ofList [_, _, _, _, _] (by decide)

/-- The restriction of a query closes what it opens. -/
theorem leads_restriction : Leads restriction ['\x7d'] ['\x7d'] :=
  leads_map_ofList [_, _, _] (by decide)

variable {entity : String} (hentity : Text.isIdentifier entity = true)

include hentity

/-- A branch for an order closes what it opens. -/
theorem leads_orderBranch {branch : OrderBranch} (hname : isWord branch.caseName = true)
    (hpath : Balances branch.path.render) :
    Leads [branch.line entity] ['\x7d', '\x7d'] ['\x7d', '\x7d'] := by
  have hdirection : isWord branch.direction.name = true := by
    cases branch.direction <;> decide
  exact scans_ofList rfl |>.word (Naming.isWord_orderType hentity) |>.literal rfl |>.word hname
    |>.literal rfl |>.word hdirection |>.literal rfl |>.word branch.direction.isWord_method.1
    |>.literal rfl |>.balanced hpath |>.literal rfl |>.leads

/-- A branch for a predicate closes what it opens. -/
theorem leads_predicateBranch {branch : PredicateBranch} (hname : isWord branch.caseName = true)
    (hpath : Balances branch.path.render) :
    Leads [branch.line entity] ['\x7d', '\x7d'] ['\x7d', '\x7d'] := by
  have hoperator : isWord branch.operator.name = true := by
    cases branch.operator <;> decide
  have htest : Balances (if branch.asksForType then "is " else "") := by
    split <;> exact fun _ => scans_ofList rfl
  exact scans_ofList rfl |>.balanced htest |>.word (Naming.isWord_predicateType hentity)
    |>.literal rfl |>.word hname |>.literal rfl |>.word hoperator |>.literal rfl
    |>.balanced (branch.operator.balances_criteriaCall hpath) |>.leads

/-- A function that turns a leaf into a criterion closes what it opens if its branches do. -/
theorem leads_criterionFunction {receiver name result : String} {branches : List String}
    (hreceiver : isWord receiver = true) (hname : isWord name = true)
    (hresult : isWord result = true)
    (hbranches : Leads branches ['\x7d', '\x7d'] ['\x7d', '\x7d']) :
    Leads (criterionFunction entity receiver name result branches) [] [] := by
  have hheader : Leads ["fun " ++ receiver ++ "." ++ name ++
      "(criteriaBuilder: CriteriaBuilder, root: From<*, " ++ Naming.entityType entity ++ ">): " ++
      result ++ " \x7b"] [] ['\x7d'] :=
    scans_ofList rfl |>.word hreceiver |>.literal rfl |>.word hname |>.literal rfl
      |>.word (Naming.isWord_entityType hentity) |>.literal rfl |>.word hresult |>.literal rfl
      |>.leads
  have hopening : Leads ["    return when (this) \x7b"] ['\x7d'] ['\x7d', '\x7d'] :=
    (scans_ofList rfl).leads
  have hclosing : Leads ["    \x7d", "\x7d", ""] ['\x7d', '\x7d'] [] :=
    leads_map_ofList [_, _, _] (by decide)
  exact ((hheader.cons hopening).append hbranches).append hclosing

/-- The root of a query closes what it opens. -/
theorem leads_root : Leads ["    val root = criteriaQuery.from(" ++ Naming.entityType entity ++
    "::class.java)"] ['\x7d'] ['\x7d'] :=
  scans_ofList rfl |>.word (Naming.isWord_entityType hentity) |>.literal rfl |>.leads

/-- The function that counts closes what it opens. -/
theorem leads_countFunction : Leads (countFunction entity) [] [] := by
  have hheader : Leads ["fun EntityManager.count" ++ Text.capitalized entity ++
      "(distinct: Boolean = false, filtering: List<" ++ Naming.predicateType entity ++
      "> = emptyList()): Long \x7b"] [] ['\x7d'] :=
    scans_ofList rfl |>.word (Text.isWord_capitalized hentity) |>.literal rfl
      |>.word (Naming.isWord_predicateType hentity) |>.literal rfl |>.leads
  have hquery : Leads ["    val criteriaBuilder = this.criteriaBuilder",
      "    val criteriaQuery = criteriaBuilder.createQuery(Long::class.java)"]
      ['\x7d'] ['\x7d'] := leads_map_ofList [_, _] (by decide)
  have hselection : Leads ["    criteriaQuery.select(criteriaBuilder.count(root))",
      "    criteriaQuery.distinct(distinct)"] ['\x7d'] ['\x7d'] :=
    leads_map_ofList [_, _] (by decide)
  have hresult : Leads ["    val typedQuery = this.createQuery(criteriaQuery)",
      "    return typedQuery.singleResult", "\x7d", ""] ['\x7d'] [] :=
    leads_map_ofList [_, _, _, _] (by decide)
  have hquery := hquery.append ((leads_root hentity).append hselection)
  exact (((hheader.append hquery).append leads_predicateCollection).append leads_restriction).append
    hresult

/-- The function that lists closes what it opens. -/
theorem leads_listFunction : Leads (listFunction entity) [] [] := by
  have htype := Naming.isWord_entityType hentity
  have hheader : Leads ["fun EntityManager.list" ++ Text.capitalized entity ++
      "(distinct: Boolean = false, filtering: List<" ++ Naming.predicateType entity ++
      "> = emptyList(), ordering: List<" ++ Naming.orderType entity ++
      "> = emptyList(), lockMode: LockModeType = LockModeType.NONE, firstResult: Int = -1, " ++
      "maxResults: Int = -1): List<" ++ Naming.entityType entity ++ "> \x7b"] [] ['\x7d'] :=
    scans_ofList rfl |>.word (Text.isWord_capitalized hentity) |>.literal rfl
      |>.word (Naming.isWord_predicateType hentity) |>.literal rfl
      |>.word (Naming.isWord_orderType hentity) |>.literal rfl |>.literal rfl |>.word htype
      |>.literal rfl |>.leads
  have hbuilder : Leads ["    val criteriaBuilder = this.criteriaBuilder"] ['\x7d'] ['\x7d'] :=
    (scans_ofList rfl).leads
  have hquery : Leads ["    val criteriaQuery = criteriaBuilder.createQuery(" ++
      Naming.entityType entity ++ "::class.java)"] ['\x7d'] ['\x7d'] :=
    scans_ofList rfl |>.word htype |>.literal rfl |>.leads
  have hselection : Leads ["    criteriaQuery.select(root)",
      "    criteriaQuery.distinct(distinct)"] ['\x7d'] ['\x7d'] :=
    leads_map_ofList [_, _] (by decide)
  have hresult : Leads ["    if (ordering.isNotEmpty()) \x7b",
      "        criteriaQuery.orderBy(*orders.toTypedArray())", "    \x7d",
      "    val typedQuery = this.createQuery(criteriaQuery)",
      "    typedQuery.setLockMode(lockMode)", "    if (firstResult >= 0) \x7b",
      "        typedQuery.setFirstResult(firstResult)", "    \x7d",
      "    if (maxResults >= 0) \x7b", "        typedQuery.setMaxResults(maxResults)", "    \x7d",
      "    return typedQuery.resultList", "\x7d", ""] ['\x7d'] [] :=
    leads_map_ofList [_, _, _, _, _, _, _, _, _, _, _, _, _, _] (by decide +kernel)
  have hquery := hbuilder.append (hquery.append ((leads_root hentity).append hselection))
  exact ((((hheader.append hquery).append leads_predicateCollection).append
    leads_orderCollection).append leads_restriction).append hresult

/-- A function that copies into a persisted object closes what it opens if its assignments do. -/
theorem leads_entityCopyFunction (mode : CopyMode) {assignments : List EntityAssignment}
    (h : ∀ assignment ∈ assignments, Leads assignment.lines ['\x7d'] ['\x7d']) :
    Leads (entityCopyFunction entity mode assignments) [] [] := by
  have hmode : isWord mode.functionName = true := by cases mode <;> decide
  have hmark : Leads ["@Suppress(\"UNUSED_PARAMETER\")"] [] [] := (scans_ofList rfl).leads
  have hheader : Leads ["fun " ++ Naming.contractType entity ++ "." ++ mode.functionName ++
      "(entityManager: EntityManager, entity: " ++ Naming.entityType entity ++ ") \x7b"] []
      ['\x7d'] :=
    scans_ofList rfl |>.word (Naming.isWord_contractType hentity) |>.literal rfl |>.word hmode
      |>.literal rfl |>.word (Naming.isWord_entityType hentity) |>.literal rfl |>.leads
  exact ((hmark.cons hheader).append (leads_flatMap h)).append
    (leads_closing.cons leads_empty)

/-- The function that copies into client-facing data closes what it opens if its assignments do. -/
theorem leads_dataCopyFunction {assignments : List DataAssignment}
    (h : ∀ assignment ∈ assignments, Leads [assignment.line] ['\x7d'] ['\x7d']) :
    Leads (dataCopyFunction entity assignments) [] [] := by
  have hheader : Leads ["fun " ++ Naming.entityType entity ++ ".copyPropertiesTo(data: " ++
      Naming.contractType entity ++ ") \x7b"] [] ['\x7d'] :=
    scans_ofList rfl |>.word (Naming.isWord_entityType hentity) |>.literal rfl
      |>.word (Naming.isWord_contractType hentity) |>.literal rfl |>.leads
  exact (hheader.append (leads_map h)).append (leads_closing.cons leads_empty)

/-- The body of an extension closes what it opens if its branches and assignments do. -/
theorem leads_body {orders : List OrderBranch} {predicates : List PredicateBranch}
    {insertable updatable : List EntityAssignment} {data : List DataAssignment}
    (horders : ∀ branch ∈ orders, Leads [branch.line entity] ['\x7d', '\x7d'] ['\x7d', '\x7d'])
    (hpredicates : ∀ branch ∈ predicates,
      Leads [branch.line entity] ['\x7d', '\x7d'] ['\x7d', '\x7d'])
    (hinsertable : ∀ assignment ∈ insertable, Leads assignment.lines ['\x7d'] ['\x7d'])
    (hupdatable : ∀ assignment ∈ updatable, Leads assignment.lines ['\x7d'] ['\x7d'])
    (hdata : ∀ assignment ∈ data, Leads [assignment.line] ['\x7d'] ['\x7d']) :
    Leads (body entity orders predicates insertable updatable data) [] [] := by
  have horder : Leads (criterionFunction entity (Naming.orderType entity) "toOrder" "Order"
      (orders.map (OrderBranch.line entity))) [] [] :=
    leads_criterionFunction hentity (Naming.isWord_orderType hentity) (by decide) (by decide)
      (leads_map horders)
  have hpredicate : Leads (criterionFunction entity (Naming.predicateType entity) "toPredicate"
      "Predicate" (predicates.map (PredicateBranch.line entity))) [] [] :=
    leads_criterionFunction hentity (Naming.isWord_predicateType hentity) (by decide) (by decide)
      (leads_map hpredicates)
  have hinsert := leads_entityCopyFunction hentity .insertable hinsertable
  have hupdate := leads_entityCopyFunction hentity .updatable hupdatable
  exact (((((horder.append hpredicate).append (leads_countFunction hentity)).append
    (leads_listFunction hentity)).append hinsert).append hupdate).append
    (leads_dataCopyFunction hentity hdata)

end Extension

namespace MappedAttribute.HasIdentifierNames

variable {mapped : MappedAttribute} (h : mapped.HasIdentifierNames)

include h

/-- An assignment to a persisted object closes what it opens, a look-up its two branches. -/
theorem leads_entityAssignment : Leads mapped.entityAssignment.lines ['\x7d'] ['\x7d'] := by
  have hproperty := h.isWord_property
  rw [entityAssignment]
  cases htype : mapped.type with
  | manyToOne target =>
    have hforeignKey := Naming.isWord_foreignKey h.name (h.identifierName target htype)
    have htest : Leads ["    entity." ++ mapped.property ++ " = if (this." ++
        Naming.foreignKey mapped.name target.identifierName ++ " == null) \x7b"] ['\x7d']
        ['\x7d', '\x7d'] :=
      scans_ofList rfl |>.word hproperty |>.literal rfl |>.word hforeignKey |>.literal rfl |>.leads
    have helse : Leads ["        null", "    \x7d else \x7b"] ['\x7d', '\x7d'] ['\x7d', '\x7d'] :=
      leads_map_ofList [_, _] (by decide)
    have hlookup : Leads ["        entityManager.find(" ++ Naming.entityType target.entityName ++
        "::class.java, this." ++ Naming.foreignKey mapped.name target.identifierName ++ ")"]
        ['\x7d', '\x7d'] ['\x7d', '\x7d'] :=
      scans_ofList rfl |>.word (Naming.isWord_entityType (h.entityName target htype))
        |>.literal rfl |>.word hforeignKey |>.literal rfl |>.leads
    exact htest.cons (helse.append (hlookup.cons leads_blockClosing))
  | identifier | version | basic =>
    exact scans_ofList rfl |>.word hproperty |>.literal rfl |>.word hproperty |>.leads

/-- An assignment to client-facing data closes what it opens. -/
theorem leads_dataAssignment : Leads [mapped.dataAssignment.line] ['\x7d'] ['\x7d'] := by
  have hproperty := h.isWord_property
  rw [dataAssignment]
  cases htype : mapped.type with
  | manyToOne target =>
    exact scans_ofList rfl
      |>.word (Naming.isWord_foreignKey h.name (h.identifierName target htype)) |>.literal rfl
      |>.word hproperty |>.literal rfl
      |>.word (Naming.isWord_property (h.identifierName target htype)) |>.leads
  | identifier | version | basic =>
    exact scans_ofList rfl |>.word hproperty |>.literal rfl |>.word hproperty |>.leads

end MappedAttribute.HasIdentifierNames

/-! ## Bodies and preludes -/

/-- The body of an artifact leaves nothing open. -/
theorem Kind.leads_body (kind : Kind) (options : Options) {entity : Entity}
    {attrs : List MappedAttribute} (hentity : Text.isIdentifier entity.name = true)
    (hnames : ∀ mapped ∈ attrs, mapped.HasIdentifierNames)
    (hsources : ∀ mapped ∈ attrs, mapped.source ∈ entity.attributes)
    (hquotable : ∀ name ∈ entity.quotedNames, IsQuotable name) :
    Leads (kind.body options entity attrs) [] [] := by
  cases kind with
  | contract =>
    exact Contract.leads_body hentity (List.forall_mem_map.mpr fun mapped hmem =>
      (hnames mapped hmem).isWord_flat)
  | dataHolder =>
    exact DataHolder.leads_body hentity (List.forall_mem_map.mpr fun mapped hmem =>
      (hnames mapped hmem).isWord_flat)
  | metamodel =>
    exact Metamodel.leads_body hentity (List.forall_mem_map.mpr fun mapped hmem =>
      ⟨(hnames mapped hmem).isWord_property, (hnames mapped hmem).isWord_javaName⟩)
  | persisted =>
    exact Persisted.leads_body hentity (Persisted.isMadeOf_of_mem_classAnnotations hquotable)
      (List.forall_mem_map.mpr fun mapped hmem => ⟨(hnames mapped hmem).isWord_property,
        (hnames mapped hmem).isWord_kotlinName,
        Persisted.isMadeOf_of_mem_annotations hquotable (hsources mapped hmem)⟩)
  | vocabulary =>
    exact Vocabulary.leads_body hentity
      (List.forall_mem_map.mpr fun mapped hmem => (hnames mapped hmem).isWord_caseName)
      (List.forall_mem_map.mpr fun mapped hmem => (hnames mapped hmem).isWord_caseName)
  | extension =>
    have hpath : ∀ mapped ∈ attrs, Balances (mapped.criteriaPath entity.name).render :=
      fun mapped hmem => ((hnames mapped hmem).hasWords_criteriaPath hentity).balances
    refine Extension.leads_body hentity (List.forall_mem_flatMap.mpr fun mapped hmem => ?_)
      (List.forall_mem_flatMap.mpr fun mapped hmem => ?_) ?_ ?_
      (List.forall_mem_map.mpr fun mapped hmem => (hnames mapped hmem).leads_dataAssignment)
    · exact List.forall_mem_map.mpr fun direction _ =>
        Extension.leads_orderBranch hentity (hnames mapped hmem).isWord_caseName (hpath mapped hmem)
    · exact List.forall_mem_map.mpr fun operator _ =>
        Extension.leads_predicateBranch hentity (hnames mapped hmem).isWord_caseName
          (hpath mapped hmem)
    all_goals exact List.forall_mem_map.mpr fun mapped hmem =>
      (hnames mapped (List.mem_of_mem_filter hmem)).leads_entityAssignment

/-! ### Packages -/

/-- Whether the package of an entity is not given, or formed from identifiers. -/
def Entity.HasDottedPackage (entity : Entity) : Prop :=
  entity.packageName = "" ∨
    ∀ segment ∈ Text.splitAt '.' entity.packageName, Text.isIdentifier segment = true

/-- The characters of a text are separators, or belong to its segments. -/
theorem Text.exists_mem_segments {separator c : Char} {chars : List Char} (h : c ∈ chars)
    (hc : c ≠ separator) : ∃ segment ∈ segments separator chars, c ∈ segment := by
  induction chars with
  | nil => cases h
  | cons d chars ih =>
    rw [segments]
    by_cases hd : d = separator
    · rw [if_pos hd]
      obtain ⟨segment, hsegment, hmem⟩ :=
        ih ((List.mem_cons.mp h).resolve_left fun heq => hc (heq.trans hd))
      exact ⟨segment, List.mem_cons_of_mem _ hsegment, hmem⟩
    · rw [if_neg hd]
      obtain ⟨first, rest, hsegments⟩ :=
        List.exists_cons_of_ne_nil (segments_ne_nil separator chars)
      rw [hsegments] at ih ⊢
      rcases List.mem_cons.mp h with rfl | hmem
      · exact ⟨_, List.mem_cons_self, List.mem_cons_self⟩
      · obtain ⟨segment, hsegment, hmem⟩ := ih hmem
        rcases List.mem_cons.mp hsegment with rfl | hrest
        · exact ⟨_, List.mem_cons_self, List.mem_cons_of_mem _ hmem⟩
        · exact ⟨segment, List.mem_cons_of_mem _ hrest, hmem⟩

/-- A package that is formed from identifiers has no brackets. -/
theorem Entity.HasDottedPackage.balances {entity : Entity} (h : entity.HasDottedPackage) :
    Balances entity.packageName := by
  rcases h with hempty | hsegments
  · rw [hempty]
    exact fun _ => rfl
  · refine @balances_of_forall _ Argument.isBarePart (by decide) fun c hc => ?_
    by_cases hdot : c = '.'
    · rw [hdot]
      decide
    · obtain ⟨segment, hsegment, hmem⟩ := Text.exists_mem_segments hc hdot
      have hword := Text.isWord_of_isIdentifier
        (hsegments (String.ofList segment) (List.mem_map_of_mem hsegment))
      have hpart := (Text.isWord_iff.mp hword).2 c (by simpa using hmem)
      simp [Argument.isBarePart, hpart]

/-- Lines end with a line break if there are any. -/
theorem SourceFile.exists_unlines_eq {lines : List String} (h : lines ≠ []) :
    ∃ text, unlines lines = text ++ "\n" := by
  obtain ⟨front, last, rfl⟩ := (List.eq_nil_or_concat lines).resolve_left h
  refine ⟨unlines front ++ last, ?_⟩
  rw [List.concat_eq_append, unlines_append, String.append_assoc]
  simp [unlines]

/-- What ends a statement has no brackets. -/
theorem Language.balances_terminator (language : Language) : Balances language.terminator := by
  cases language <;> exact fun _ => scans_ofList rfl

namespace EntitySet

variable {set : EntitySet} {options : Options} {entity : Entity} {kind : Kind}

/-- The names that are imported have no brackets. -/
theorem Imports.balances {name : String} (hnames : set.HasIdentifierNames)
    (hpackages : ∀ entity ∈ set.entities, entity.HasDottedPackage)
    (h : set.Imports options entity kind name) : Balances name := by
  have hqualified {target : Entity} {typeName : String} (htarget : target ∈ set.entities)
      (hword : isWord typeName = true) : Balances (target.qualified typeName) := by
    rw [Entity.qualified, Naming.qualified]
    split
    · exact balances_of_isWord hword
    · exact fun expected =>
        ((hpackages target htarget).balances expected).literal rfl |>.word hword
  have hlibrary : ∀ other ∈ libraryImports,
      (other.toList.all fun c => Argument.isBarePart c || c == '*') = true := by decide
  cases h with
  | fixed hname =>
    exact balances_of_forall (by decide)
      (List.all_eq_true.mp (hlibrary name (Kind.mem_libraryImports_of_fixed hname)))
  | scalar _ _ hname =>
    exact balances_of_forall (by decide)
      (List.all_eq_true.mp (hlibrary name (Scalar.mem_libraryImports hname)))
  | entityType htarget _ =>
    exact hqualified htarget.mem (Naming.isWord_entityType (hnames _ htarget.mem).1)
  | metamodelType _ htarget _ =>
    exact hqualified htarget.mem (Naming.isWord_metamodelType (hnames _ htarget.mem).1)

/-- The lines of a file leave nothing open. -/
theorem leads_lines (hnames : set.HasIdentifierNames)
    (hpackages : ∀ entity ∈ set.entities, entity.HasDottedPackage)
    (hentity : entity ∈ set.entities) (hquotable : ∀ name ∈ entity.quotedNames, IsQuotable name)
    {attrs : List MappedAttribute} (hattrs : set.mapEntity entity = .ok attrs) :
    Leads (kind.sourceFile options entity attrs).lines [] [] := by
  have hpackage : Leads (if Text.isBlank entity.packageName then []
      else ["package " ++ entity.packageName ++ kind.language.terminator, ""]) [] [] := by
    split
    · exact leads_nil
    · exact scans_ofList rfl |>.balanced (hpackages entity hentity).balances
        |>.balanced kind.language.balances_terminator |>.leads |>.cons leads_empty
  have himports : ∀ line ∈ (kind.sourceFile options entity attrs).imports.lines,
      Leads [line] [] [] := by
    intro line hline
    obtain ⟨name, hname, rfl⟩ := List.mem_map.mp (Text.LineSet.mem_ofList.mp hline)
    have himported := (mem_importedNames_iff hattrs).mp hname
    exact scans_ofList rfl |>.balanced (himported.balances hnames hpackages)
      |>.balanced kind.language.balances_terminator |>.leads
  have hblock : Leads (if (kind.sourceFile options entity attrs).imports.lines.isEmpty then []
      else (kind.sourceFile options entity attrs).imports.lines ++ [""]) [] [] := by
    split
    · exact leads_nil
    · rw [← List.map_id (kind.sourceFile options entity attrs).imports.lines]
      exact (leads_map himports).append leads_empty
  have hbody := kind.leads_body options (hnames entity hentity).1 (hnames.mapped hentity hattrs)
    (fun mapped hmem => (mapsTo_of_mem hattrs hmem).1) hquotable
  exact (hpackage.append hblock).append hbody

/-- Every artifact of a valid set whose packages are formed from identifiers, and whose names
between quotes can stand there as they are, is scanned to its end with nothing left open. Where a
line begins that is not empty, it begins a declaration exactly if nothing is open. The last line is
ended. -/
theorem brackets_match (hvalid : set.isValid = true)
    (hpackages : ∀ entity ∈ set.entities, entity.HasDottedPackage)
    (hquotable : ∀ entity ∈ set.entities, ∀ name ∈ entity.quotedNames, IsQuotable name)
    (hentity : entity ∈ set.entities) (options : Options) (kind : Kind) :
    ∃ artifact, set.render options entity kind = .ok artifact ∧
      scan atRest artifact.contents.toList = some atRest ∧
      (∀ front c back, artifact.contents.toList = front ++ c :: back →
        ∃ reached, scan atRest front = some reached ∧
          (reached.mode = .lineStart → StringLiteral.isLineBreak c = false →
            (beginsDeclaration c = true ↔ reached.expected = []))) ∧
      ∃ text, artifact.contents = text ++ "\n" := by
  obtain ⟨attrs, hattrs⟩ := exists_mapEntity_of_isValid hvalid hentity
  have hscan : scan atRest (kind.sourceFile options entity attrs).text.toList = some atRest :=
    leads_lines (hasIdentifierNames_of_isValid hvalid) hpackages hentity (hquotable entity hentity)
      hattrs
  have hlines : (kind.sourceFile options entity attrs).lines ≠ [] := by
    obtain ⟨tail, rest, hbody⟩ := kind.exists_body_eq options entity attrs
    have hbody : (kind.sourceFile options entity attrs).body = _ := hbody
    rw [SourceFile.lines, hbody]
    simp
  refine ⟨entity.artifact options attrs kind, render_eq_ok_iff.mpr ⟨attrs, hattrs, rfl⟩, hscan,
    fun front c back hcontents => ?_, SourceFile.exists_unlines_eq hlines⟩
  exact exists_scan_of_append (hcontents ▸ hscan : scan atRest (front ++ c :: back) = some atRest)

end EntitySet

/-- A shop, whose names in the database have brackets in them, and the visits to it, which lie in
another package. -/
def shopAndVisit : EntitySet where
  entities :=
    [{ name := "shop", packageName := "org.shops", tableName := some "shops (all)",
       attributes :=
        [{ name := "id", columnType := some (.identifier .uuid true), columnName := some "[id" },
          { name := "sign", columnType := some (.basic .byteArray) }] },
      { name := "Visit", entityName := some "visit", tableSchema := some "main",
        attributes :=
        [{ name := "id", columnType := some (.identifier .long true) },
          { name := "note", columnType := some (.basic (.string none)),
            constraints := [.notBlank] },
          { name := "shop", columnType := some (.manyToOne "shop"),
            columnName := some "shop\x7d" }] }]
  names_nodup := by decide
  attributes_nodup := by decide

namespace EntitySet

/-- The artifacts of shop and visit are scanned to their ends, whatever is quoted in them. -/
theorem brackets_match_shopAndVisit :
    shopAndVisit.isValid = true ∧
      (∀ entity ∈ shopAndVisit.entities, entity.HasDottedPackage) ∧
      (∀ entity ∈ shopAndVisit.entities, ∀ name ∈ entity.quotedNames, IsQuotable name) ∧
      ∀ entity ∈ shopAndVisit.entities, ∀ kind, ∃ artifact,
        shopAndVisit.render {} entity kind = .ok artifact ∧
        scan atRest artifact.contents.toList = some atRest ∧
        ∃ text, artifact.contents = text ++ "\n" := by
  have hvalid : shopAndVisit.isValid = true := by decide
  have hpackages : ∀ entity ∈ shopAndVisit.entities, entity.HasDottedPackage := by
    unfold Entity.HasDottedPackage
    decide
  have hordinary : ∀ entity ∈ shopAndVisit.entities, ∀ name ∈ entity.quotedNames,
      name.toList.all StringLiteral.isOrdinary = true := by decide
  have hquotable : ∀ entity ∈ shopAndVisit.entities, ∀ name ∈ entity.quotedNames,
      IsQuotable name :=
    fun entity hentity name hname => List.all_eq_true.mp (hordinary entity hentity name hname)
  refine ⟨hvalid, hpackages, hquotable, fun entity hentity kind => ?_⟩
  obtain ⟨artifact, hrender, hscan, -, hended⟩ :=
    brackets_match hvalid hpackages hquotable hentity {} kind
  exact ⟨artifact, hrender, hscan, hended⟩

end EntitySet

/-- A shop whose table has a name of two lines. -/
def shopOfTwoLines : EntitySet where
  entities :=
    [{ name := "shop", tableName := some "shops\nof the town",
       attributes := [{ name := "id", columnType := some (.identifier .long true) }] }]
  names_nodup := by decide
  attributes_nodup := by decide

/-- The set is valid, its entity lies in no package, and no name in it has a double quote, a
backslash or a dollar sign. And yet the persisted class of the shop is not scanned to its end: a
line ends within a literal while the bracket of an annotation is open. -/
theorem EntitySet.literal_unended_shopOfTwoLines :
    shopOfTwoLines.isValid = true ∧ ∀ entity ∈ shopOfTwoLines.entities,
      entity.HasDottedPackage ∧
      (∀ name ∈ entity.quotedNames,
        '"' ∉ name.toList ∧ '\\' ∉ name.toList ∧ '$' ∉ name.toList) ∧
      ∃ artifact, shopOfTwoLines.render {} entity .persisted = .ok artifact ∧
        scan atRest artifact.contents.toList = none ∧
        ∃ front, front ++ ['\n'] <+: artifact.contents.toList ∧
          scan atRest front = some ⟨[')'], .literal⟩ := by
  have hfront :
      scan atRest "import jakarta.persistence.*\n\n@Entity\n@Table(name = \"shops".toList =
        some ⟨[')'], .literal⟩ := by decide +kernel
  refine ⟨by decide, List.forall_mem_singleton.mpr ⟨.inl rfl, by decide, _, rfl, ?_⟩⟩
  refine and_iff_right_of_imp ?_ |>.mpr ⟨_, by decide +kernel, hfront⟩
  -- Whatever follows, no scan gets past the end of a line within a literal.
  rintro ⟨front, ⟨back, hback⟩, hscan⟩
  rw [← hback, List.append_assoc, scan_append, hscan]
  rfl

end PersistenceLayer
