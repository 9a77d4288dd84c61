import PersistenceLayer.Proofs.CriteriaCalls
import PersistenceLayer.Proofs.GeneratedFunctions

/-!
# Branches over orders and predicates

The vocabulary of an entity declares the leaves of two sealed classes, and the
extension turns each leaf into a criterion by a branch of its own. The branches
are read off the functions of the extension, and they turn out to be those of the
declared leaves, one after the other.
-/

namespace PersistenceLayer

open Text (tokens isDeeper blocks)

/-! ## Reading branches -/

/-- A branch over leaves: whether it asks for the type of the leaf, and the properties of the leaf
that its criteria call reads. -/
structure LeafBranch where
  name : LeafName
  asksForType : Bool
  reads : List String
  deriving DecidableEq, Repr

/-- The branch that fits a leaf. -/
def DeclaredLeaf.branch (leaf : DeclaredLeaf) : LeafBranch :=
  ⟨leaf.name, leaf.isClass, leaf.parameters⟩

/-- The branch that the tokens of a line make, if they do. -/
def LeafBranch.ofTokens? : List String → Option LeafBranch
  | "is" :: base :: "." :: caseName :: "." :: name :: "-" :: ">" :: "criteriaBuilder" :: "." ::
      call =>
    some ⟨⟨base, caseName, name⟩, true, receiverReads call⟩
  | base :: "." :: caseName :: "." :: name :: "-" :: ">" :: "criteriaBuilder" :: "." :: call =>
    some ⟨⟨base, caseName, name⟩, false, receiverReads call⟩
  | _ => none

/-- The branch that a line makes, if it does. -/
def LeafBranch.ofLine? (line : String) : Option LeafBranch :=
  ofTokens? (tokens line)

/-- Whether the tokens of a line open the choice between branches. -/
def whenHead? : List String → Option Unit
  | ["return", "when", "(", "this", ")", "\x7b"] => some ()
  | _ => none

/-- The type that a function of a file extends and the branches that it chooses between, if it makes
one choice between nothing but branches. The function is looked for behind the prelude. -/
def SourceFile.branches? (file : SourceFile) (name : String) : Option (String × List LeafBranch) := do
  let (head, lines) ← file.function? name
  match blocks whenHead? 4 lines with
  | [(_, lines)] => return (head.receiver, ← lines.mapM LeafBranch.ofLine?)
  | _ => none

/-! ## Branches of leaves -/

/-- A branch is read as far as its call, which makes the difference between a class and a singleton
by whether it asks for a type. -/
theorem LeafBranch.ofTokens?_branchTokens {path : CriteriaPath} (hpath : path.HasWords)
    {names : List String} {call : String} (hcall : CallsOver path names call) (asksForType : Bool)
    (leaf : LeafName) :
    ofTokens? (branchTokens asksForType leaf call) = some ⟨leaf, asksForType, names⟩ := by
  obtain ⟨front, back, htokens, -⟩ := hcall.exists_tokens
  rw [branchTokens, ← hcall.receiverReads_eq hpath htokens, htokens]
  cases asksForType with
  | true => rfl
  | false =>
    -- The other pattern has its arrow one token later, so it does not fit, whatever the names are.
    change ofTokens? (leaf.base :: "." :: leaf.caseName :: "." :: leaf.name :: "-" :: ">" ::
      "criteriaBuilder" :: "." :: _) = _
    rw [ofTokens?]

section Lines

variable {entity : String} (hentity : Text.isIdentifier entity = true)
  {mapped : MappedAttribute} (h : mapped.HasIdentifierNames)

include hentity h

/-- The branches of an attribute's orders are those of their leaves. -/
theorem OrderBranch.ofLine?_line (direction : Direction) :
    LeafBranch.ofLine?
        (line entity ⟨mapped.caseName, direction, mapped.criteriaPath entity⟩) =
      some (direction.leaf (Naming.orderType entity) mapped.caseName).branch := by
  obtain ⟨call, htokens, hcall⟩ := exists_call_line hentity h direction
  rw [LeafBranch.ofLine?, htokens]
  exact LeafBranch.ofTokens?_branchTokens (h.hasWords_criteriaPath hentity) hcall _ _

/-- The branches of an attribute's predicates are those of their leaves. -/
theorem PredicateBranch.ofLine?_line (operator : Operator) :
    LeafBranch.ofLine?
        (line entity ⟨mapped.caseName, operator, mapped.criteriaPath entity⟩) =
      some (operator.leaf (Naming.predicateType entity) mapped.caseName).branch := by
  obtain ⟨call, htokens, hcall⟩ := exists_call_line hentity h operator
  rw [LeafBranch.ofLine?, htokens]
  exact LeafBranch.ofTokens?_branchTokens (h.hasWords_criteriaPath hentity) hcall _ _

end Lines

/-- A class is asked for and its operand is read. -/
example : LeafBranch.ofLine? ("        is MemberPredicate.Name.Equal -> " ++
    "criteriaBuilder.equal(root[MemberEntity_.name], this.x)") =
    some ⟨⟨"MemberPredicate", "Name", "Equal"⟩, true, ["x"]⟩ := by decide +kernel

namespace SourceFile

/-- A function that makes nothing but one choice between branches. -/
theorem branches?_of_whenLines {file : SourceFile} {name : String} {head : FunctionHead}
    {lines : List String} {branches : List LeafBranch}
    (hfunction : file.function? name = some (head, Extension.whenLines lines))
    (hlines : ∀ line ∈ lines, isDeeper 4 line = true)
    (hbranches : lines.mapM LeafBranch.ofLine? = some branches) :
    file.branches? name = some (head.receiver, branches) := by
  have hwhen : blocks whenHead? 4 (Extension.whenLines lines) = [((), lines)] :=
    Text.blocks_cons_append (by decide) hlines (by decide) (by decide)
  rw [branches?, hfunction]
  simp only [Option.bind_eq_bind, Option.bind_some, hwhen, hbranches]
  rfl

section Branches

variable (options : Options) {entity : Entity} {attrs : List MappedAttribute}
  (hentity : Text.isIdentifier entity.name = true)
  (hnames : ∀ mapped ∈ attrs, mapped.HasIdentifierNames)

include hentity hnames

/-- The orders of an entity are turned into criteria by the branches of their leaves. -/
theorem branches?_toOrder :
    (Kind.extension.sourceFile options entity attrs).branches? "toOrder" =
      some (Naming.orderType entity.name, (attrs.flatMap
        (MappedAttribute.orderLeaves (Naming.orderType entity.name))).map DeclaredLeaf.branch) := by
  obtain ⟨signature, hfunction⟩ := function?_toOrder options hentity hnames
  refine branches?_of_whenLines hfunction (List.forall_mem_map.mpr fun branch _ =>
    branch.isDeeper_line entity.name) ?_
  rw [Extension.orderBranches, List.map_flatMap, List.map_flatMap]
  refine mapM_flatMap_eq_some fun mapped hmapped => ?_
  rw [MappedAttribute.orderBranches, MappedAttribute.orderLeaves, List.map_map, List.map_map]
  exact mapM_map_eq_some fun direction _ =>
    OrderBranch.ofLine?_line hentity (hnames mapped hmapped) direction

/-- The predicates of an entity are turned into criteria by the branches of their leaves. -/
theorem branches?_toPredicate :
    (Kind.extension.sourceFile options entity attrs).branches? "toPredicate" =
      some (Naming.predicateType entity.name, (attrs.flatMap
        (MappedAttribute.predicateLeaves (Naming.predicateType entity.name))).map
          DeclaredLeaf.branch) := by
  obtain ⟨signature, hfunction⟩ := function?_toPredicate options hentity hnames
  refine branches?_of_whenLines hfunction (List.forall_mem_map.mpr fun branch _ =>
    branch.isDeeper_line entity.name) ?_
  rw [Extension.predicateBranches, List.map_flatMap, List.map_flatMap]
  refine mapM_flatMap_eq_some fun mapped hmapped => ?_
  rw [MappedAttribute.predicateBranches, MappedAttribute.predicateLeaves, List.map_map,
    List.map_map]
  exact mapM_map_eq_some fun operator _ =>
    PredicateBranch.ofLine?_line hentity (hnames mapped hmapped) operator

end Branches

end SourceFile

/-! ## Agreement -/

namespace EntitySet

/-- Whether the branches of an entity's extension are exactly those of the leaves that its
vocabulary declares, in the same order: for each leaf one branch, by the same name, which asks for
the type of the leaf if that is a class and reads the parameters of the leaf. -/
def BranchesMatchLeaves (set : EntitySet) (options : Options) (entity : Entity) : Prop :=
  ∃ vocabulary extension orders predicates,
    set.emit options entity .vocabulary = .ok vocabulary ∧
    set.emit options entity .extension = .ok extension ∧
    vocabulary.leaves? (Naming.orderType entity.name) = some orders ∧
    extension.branches? "toOrder" =
      some (Naming.orderType entity.name, orders.map DeclaredLeaf.branch) ∧
    vocabulary.leaves? (Naming.predicateType entity.name) = some predicates ∧
    extension.branches? "toPredicate" =
      some (Naming.predicateType entity.name, predicates.map DeclaredLeaf.branch)

/-- The branches of an entity that renders, in a set whose names are identifiers, match its
leaves. -/
theorem branches_match_leaves {set : EntitySet} {options : Options} {entity : Entity}
    {artifact : Artifact} {kind : Kind} (hnames : set.HasIdentifierNames)
    (hentity : entity ∈ set.entities) (hrender : set.render options entity kind = .ok artifact) :
    BranchesMatchLeaves set options entity := by
  obtain ⟨attrs, hattrs⟩ : ∃ attrs, set.mapEntity entity = .ok attrs := by
    cases hattrs : set.mapEntity entity with
    | ok attrs => exact ⟨attrs, rfl⟩
    | error cause =>
      rw [render_eq, hattrs] at hrender
      cases hrender
  have hname := (hnames entity hentity).1
  have hmappedNames := hnames.mapped hentity hattrs
  have hemit : ∀ kind : Kind, set.emit options entity kind =
      .ok (kind.sourceFile options entity attrs) := by
    intro kind
    rw [emit_eq, hattrs]
    rfl
  exact ⟨_, _, _, _, hemit .vocabulary, hemit .extension,
    SourceFile.leaves?_orderType options hname hmappedNames,
    SourceFile.branches?_toOrder options hname hmappedNames,
    SourceFile.leaves?_predicateType options hname hmappedNames,
    SourceFile.branches?_toPredicate options hname hmappedNames⟩

/-- The branches of teams and their members match their leaves. -/
theorem branches_match_leaves_teamAndMember :
    ∃ artifacts, teamAndMember.renderAll {} = .ok artifacts ∧
      ∀ entity ∈ teamAndMember.entities, BranchesMatchLeaves teamAndMember {} entity := by
  obtain ⟨artifacts, hrender⟩ := teamAndMember.exists_renderAll
  refine ⟨artifacts, hrender, fun entity hentity => ?_⟩
  obtain ⟨attrs, hattrs, -⟩ := exists_generates rfl hrender hentity
  have hrendered : teamAndMember.render {} entity .extension =
      .ok (entity.artifact {} attrs .extension) := by
    rw [render_eq, hattrs]
    rfl
  exact branches_match_leaves teamAndMember.hasIdentifierNames hentity hrendered

end EntitySet

end PersistenceLayer
