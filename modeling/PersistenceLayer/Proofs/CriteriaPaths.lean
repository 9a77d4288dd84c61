import PersistenceLayer.Proofs.CriteriaCalls

/-!
# Criteria paths

Criteria refer to attributes by navigations, which are read off an extension
wherever brackets stand. Each of them starts at the root of a query and follows
handles that the static metamodels declare: the one of an attribute and, if the
attribute is a relationship, the one of the identifier that the relationship
leads to. The handles in turn correspond to the properties of persisted classes.
-/

namespace PersistenceLayer

open Text (tokens isWord)

/-! ## Reading navigations -/

/-- A token with bracketed steps behind it. -/
structure Navigation where
  start : String
  steps : List (List String)
  deriving DecidableEq, Repr

namespace Navigation

/-- The navigation that is complete when no further step follows, if there are any steps. -/
def complete (start : String) (steps : List (List String)) : List Navigation :=
  if steps.isEmpty then [] else [⟨start, steps⟩]

/-- The navigations in some tokens, given the token in front of them with the steps behind it and,
inside brackets, the part of the step that is read already. -/
def allFrom (start : String) (steps : List (List String)) :
    Option (List String) → List String → List Navigation
  | step?, [] => complete start (steps ++ step?.toList)
  | some step, token :: rest =>
    if token = "]" then allFrom start (steps ++ [step]) none rest
    else allFrom start steps (some (step ++ [token])) rest
  | none, token :: rest =>
    if token = "[" then allFrom start steps (some []) rest
    else complete start steps ++ allFrom token [] none rest

/-- The navigations in a line. -/
def ofLine (line : String) : List Navigation :=
  allFrom "" [] none (tokens line)

end Navigation

/-- The navigations in a file, on the lines of its text behind the prelude. -/
def SourceFile.navigations (file : SourceFile) : List Navigation :=
  file.bodyLines.flatMap Navigation.ofLine

/-- The step that leads along a handle. -/
def HandleReference.step (reference : HandleReference) : List String :=
  [reference.metamodel, ".", reference.handle]

/-- A criteria path as it is read. -/
def CriteriaPath.navigation (path : CriteriaPath) : Navigation :=
  ⟨"root", path.own.step :: path.onward.toList.map HandleReference.step⟩

namespace Navigation

variable {start token : String} {steps : List (List String)} {front back : List String}

/-- Without brackets there are no further steps. -/
theorem allFrom_of_notMem (h : "[" ∉ back) :
    allFrom start steps none back = complete start steps := by
  induction back generalizing start steps with
  | nil => rw [allFrom, Option.toList_none, List.append_nil]
  | cons token back ih =>
    rw [List.mem_cons, not_or] at h
    rw [allFrom, if_neg (Ne.symm h.1), ih h.2]
    exact List.append_nil _

/-- Tokens without brackets are passed over. -/
theorem allFrom_append (h : "[" ∉ front) (htoken : token ≠ "[") :
    allFrom start [] none (front ++ token :: back) = allFrom token [] none back := by
  -- Every token passed over is the start of the next navigation until another one takes its place.
  induction front generalizing start with
  | nil =>
    rw [List.nil_append, allFrom, if_neg htoken]
    rfl
  | cons other front ih =>
    rw [List.mem_cons, not_or] at h
    rw [List.cons_append, allFrom, if_neg (Ne.symm h.1), ih h.2]
    rfl

/-- A handle in brackets is a step. -/
theorem allFrom_handle {reference : HandleReference} (h : reference.HasWords) :
    allFrom start steps none (reference.tokens ++ back) =
      allFrom start (steps ++ [reference.step]) none back := by
  have hmetamodel : "]" ≠ reference.metamodel := Text.ne_of_isWord h.metamodel (by decide)
  have hhandle : "]" ≠ reference.handle := Text.ne_of_isWord h.handle (by decide)
  simp [HandleReference.tokens, HandleReference.step, allFrom, hmetamodel.symm, hhandle.symm]

/-- Lines without brackets have no navigation. -/
theorem ofLine_of_notMem {line : String} (h : '[' ∉ line.toList) : ofLine line = [] :=
  allFrom_of_notMem fun hmem => h (Text.mem_toList_of_mem_tokens hmem (by decide))

/-- A path without brackets around it is what is read. -/
theorem allFrom_path {path : CriteriaPath} (hpath : path.HasWords) (hfront : "[" ∉ front)
    (hback : "[" ∉ back) :
    allFrom "" [] none (front ++ (path.tokens ++ back)) = [path.navigation] := by
  obtain ⟨own, onward⟩ := path
  rw [CriteriaPath.tokens, List.append_assoc, List.cons_append, allFrom_append hfront (by decide),
    allFrom_handle hpath.own]
  cases onward with
  | none => exact allFrom_of_notMem hback
  | some target =>
    rw [Option.toList_some, List.flatMap_singleton, allFrom_handle (hpath.onward target rfl),
      allFrom_of_notMem hback]
    rfl

/-- The path that a branch's call takes is the only navigation of the branch. -/
theorem allFrom_branchTokens {path : CriteriaPath} (hpath : path.HasWords) {names : List String}
    {call : String} (hcall : CallsOver path names call) (asksForType : Bool) {leaf : LeafName}
    (hleaf : isWord leaf.base = true ∧ isWord leaf.caseName = true ∧ isWord leaf.name = true) :
    allFrom "" [] none (branchTokens asksForType leaf call) = [path.navigation] := by
  have hbracket : ∀ {word : String}, isWord word = true → "[" ≠ word :=
    fun hword => Text.ne_of_isWord hword (by decide)
  obtain ⟨hbase, hcaseName, hname⟩ := hleaf
  obtain ⟨front, back, htokens, ⟨-, hnone⟩, -⟩ := hcall.exists_tokens
  rw [List.mem_append, not_or] at hnone
  have hfront : "[" ∉ (if asksForType then ["is"] else []) ++
      ([leaf.base, ".", leaf.caseName, ".", leaf.name, "-", ">", "criteriaBuilder", "."] ++
        front) := by
    cases asksForType <;>
      simp [hbracket hbase, hbracket hcaseName, hbracket hname, hnone.1]
  rw [branchTokens, htokens, ← allFrom_path hpath hfront hnone.2]
  simp

end Navigation

/-! ## Navigations of extensions -/

section Lines

variable {entity : String} (hentity : Text.isIdentifier entity = true)
  {mapped : MappedAttribute} (h : mapped.HasIdentifierNames)

include hentity h

/-- The path of an attribute is the only navigation in the branches of its orders. -/
theorem OrderBranch.navigations_line (direction : Direction) :
    Navigation.ofLine (line entity ⟨mapped.caseName, direction, mapped.criteriaPath entity⟩) =
      [(mapped.criteriaPath entity).navigation] := by
  obtain ⟨call, htokens, hcall⟩ := exists_call_line hentity h direction
  rw [Navigation.ofLine, htokens]
  exact Navigation.allFrom_branchTokens (h.hasWords_criteriaPath hentity) hcall _
    ⟨Naming.isWord_orderType hentity, h.isWord_caseName, direction.isWord_name⟩

/-- The path of an attribute is the only navigation in the branches of its predicates. -/
theorem PredicateBranch.navigations_line (operator : Operator) :
    Navigation.ofLine (line entity ⟨mapped.caseName, operator, mapped.criteriaPath entity⟩) =
      [(mapped.criteriaPath entity).navigation] := by
  obtain ⟨call, htokens, hcall⟩ := exists_call_line hentity h operator
  rw [Navigation.ofLine, htokens]
  exact Navigation.allFrom_branchTokens (h.hasWords_criteriaPath hentity) hcall _
    ⟨Naming.isWord_predicateType hentity, h.isWord_caseName, operator.isWord_name⟩

end Lines

/-- A relationship is navigated in two steps. -/
example : Navigation.ofLine ("        MemberOrder.Team.Ascending -> " ++
    "criteriaBuilder.asc(root[MemberEntity_.team][TeamEntity_.code])") =
    [⟨"root", [["MemberEntity_", ".", "team"], ["TeamEntity_", ".", "code"]]⟩] := by decide +kernel

/-! ### Lines without brackets -/

/-- Lines without brackets have no navigations. -/
theorem Navigation.flatMap_ofLine_of_notMem {lines : List String}
    (h : ∀ line ∈ lines, '[' ∉ line.toList) : lines.flatMap ofLine = [] :=
  List.flatMap_eq_nil_iff.mpr fun line hline => ofLine_of_notMem (h line hline)

/-- Navigations of a function that makes criteria stand in its branches. -/
theorem Extension.flatMap_criterionFunction {entity : String}
    (hentity : Text.isIdentifier entity = true) {receiver name result : String}
    (hreceiver : isWord receiver = true) (hname : isWord name = true)
    (hresult : isWord result = true) (branches : List String) :
    (criterionFunction entity receiver name result branches).flatMap Navigation.ofLine =
      branches.flatMap Navigation.ofLine := by
  obtain ⟨opening, closing, heq, hframe⟩ := exists_criterionFunction_eq
    (by decide : '[' ∈ foreignSigns) hentity hreceiver hname hresult branches
  rw [List.forall_mem_append] at hframe
  rw [heq, List.flatMap_append, List.flatMap_append,
    Navigation.flatMap_ofLine_of_notMem hframe.1, Navigation.flatMap_ofLine_of_notMem hframe.2,
    List.nil_append, List.append_nil]

section Extension

variable (options : Options) {entity : Entity} {attrs : List MappedAttribute}
  (hentity : Text.isIdentifier entity.name = true)
  (hnames : ∀ mapped ∈ attrs, mapped.HasIdentifierNames)

include hentity hnames

/-- The navigations of an extension are the paths of its attributes, once for each order and once
for each predicate. -/
theorem SourceFile.navigations_extension :
    (Kind.extension.sourceFile options entity attrs).navigations =
      attrs.flatMap (fun mapped =>
          Direction.all.map fun _ => (mapped.criteriaPath entity.name).navigation) ++
        attrs.flatMap fun mapped =>
          mapped.operators.map fun _ => (mapped.criteriaPath entity.name).navigation := by
  have horders : ((Extension.orderBranches entity.name attrs).map
      (OrderBranch.line entity.name)).flatMap Navigation.ofLine =
        attrs.flatMap fun mapped =>
          Direction.all.map fun _ => (mapped.criteriaPath entity.name).navigation := by
    rw [Extension.orderBranches, List.map_flatMap, List.flatMap_assoc]
    refine List.flatMap_congr fun mapped hmapped => ?_
    rw [MappedAttribute.orderBranches, List.map_map, List.flatMap_map, List.map_eq_flatMap]
    exact List.flatMap_congr fun direction _ =>
      OrderBranch.navigations_line hentity (hnames mapped hmapped) direction
  have hpredicates : ((Extension.predicateBranches entity.name attrs).map
      (PredicateBranch.line entity.name)).flatMap Navigation.ofLine =
        attrs.flatMap fun mapped =>
          mapped.operators.map fun _ => (mapped.criteriaPath entity.name).navigation := by
    rw [Extension.predicateBranches, List.map_flatMap, List.flatMap_assoc]
    refine List.flatMap_congr fun mapped hmapped => ?_
    rw [MappedAttribute.predicateBranches, List.map_map, List.flatMap_map, List.map_eq_flatMap]
    exact List.flatMap_congr fun operator _ =>
      PredicateBranch.navigations_line hentity (hnames mapped hmapped) operator
  have hsign : '[' ∈ Extension.foreignSigns := by decide
  have hcount : (Extension.countFunction entity.name).flatMap Navigation.ofLine = [] :=
    Navigation.flatMap_ofLine_of_notMem (Extension.notMem_countFunction hsign hentity)
  have hlist : (Extension.listFunction entity.name).flatMap Navigation.ofLine = [] :=
    Navigation.flatMap_ofLine_of_notMem (Extension.notMem_listFunction hsign hentity)
  have hcopies : ∀ mode, (Extension.entityCopyFunction entity.name mode
      (Extension.entityAssignments mode attrs)).flatMap Navigation.ofLine = [] := fun mode =>
    Navigation.flatMap_ofLine_of_notMem
      (Extension.notMem_entityCopyFunction_of_mapped hsign hentity hnames mode)
  have hdata : (Extension.dataCopyFunction entity.name
      (Extension.dataAssignments attrs)).flatMap Navigation.ofLine = [] :=
    Navigation.flatMap_ofLine_of_notMem
      (Extension.notMem_dataCopyFunction_of_mapped hsign hentity hnames)
  rw [navigations, bodyLines_of_ne_persisted options hentity hnames (by decide)]
  change (Extension.body _ _ _ _ _ _).flatMap Navigation.ofLine = _
  simp only [Extension.body, List.flatMap_append, hcount, hlist, hcopies, hdata,
    Extension.flatMap_criterionFunction hentity (Naming.isWord_orderType hentity)
      (by decide : isWord "toOrder" = true) (by decide : isWord "Order" = true),
    Extension.flatMap_criterionFunction hentity (Naming.isWord_predicateType hentity)
      (by decide : isWord "toPredicate" = true) (by decide : isWord "Predicate" = true),
    horders, hpredicates, List.append_nil]

/-- What an extension navigates to. -/
theorem SourceFile.mem_navigations_extension {navigation : Navigation} :
    navigation ∈ (Kind.extension.sourceFile options entity attrs).navigations ↔
      ∃ mapped ∈ attrs, navigation = (mapped.criteriaPath entity.name).navigation := by
  rw [navigations_extension options hentity hnames, List.mem_append, List.mem_flatMap,
    List.mem_flatMap]
  constructor
  · rintro (⟨mapped, hmapped, hmem⟩ | ⟨mapped, hmapped, hmem⟩)
    · obtain ⟨_, _, rfl⟩ := List.mem_map.mp hmem
      exact ⟨mapped, hmapped, rfl⟩
    · obtain ⟨_, _, rfl⟩ := List.mem_map.mp hmem
      exact ⟨mapped, hmapped, rfl⟩
  · rintro ⟨mapped, hmapped, rfl⟩
    exact .inl ⟨mapped, hmapped, List.mem_cons_self⟩

end Extension

/-! ## Agreement with metamodels -/

/-- Whether the persisted class and the metamodel give an attribute's property and handle the right
type: the scalar of its column, or the persisted class of the entity that it is related to. -/
inductive HasValueType (set : EntitySet) (attr : Attribute) : ValueType → Prop where
  | identifier {kind : IdKind} {generated : Bool}
      (hcolumn : attr.columnType = some (.identifier kind generated)) :
      HasValueType set attr (.scalar kind.scalar)
  | version {kind : VersionKind} (hcolumn : attr.columnType = some (.version kind)) :
      HasValueType set attr (.scalar kind.scalar)
  | basic {type : BasicType} (hcolumn : attr.columnType = some (.basic type)) :
      HasValueType set attr (.scalar type.scalar)
  | manyToOne {target : Entity} (hmem : target ∈ set.entities)
      (hcolumn : attr.columnType = some (.manyToOne target.name)) :
      HasValueType set attr (.entity (Naming.entityType target.name))

/-- Whether a navigation leads from the root of a query along the handle that the metamodel of an
entity declares for the attribute at the given place. -/
inductive Navigation.Agrees (set : EntitySet) (options : Options) (artifacts : List Artifact)
    (entity : Entity) (metamodel : SourceFile) (place : Nat) (attr : Attribute) :
    Navigation → Prop where
  /-- The attribute is not a relationship. -/
  | column {type handle : String}
      (hcolumn : ∀ target, attr.columnType ≠ some (.manyToOne target))
      (hhandle : metamodel.handles[place]? =
        some ⟨Naming.entityType entity.name, type, handle⟩) :
      Agrees set options artifacts entity metamodel place attr
        ⟨"root", [[Naming.metamodelType entity.name, ".", handle]]⟩
  /-- The attribute is a relationship, and the navigation leads on along the handle that the
  metamodel of its target declares for the first identifier. -/
  | relationship {handle onward type : String} {target : Entity} {file : SourceFile}
      {first : Nat} {identifier : Attribute}
      (htarget : RelatesTo set options artifacts attr target .metamodel file)
      (hhandle : metamodel.handles[place]? =
        some ⟨Naming.entityType entity.name, Naming.entityType target.name, handle⟩)
      (hfirst : IsFirstIdentifier target.attributes first identifier)
      (honward : file.handles[first]? =
        some ⟨Naming.entityType target.name, type, onward⟩) :
      Agrees set options artifacts entity metamodel place attr
        ⟨"root", [[Naming.metamodelType entity.name, ".", handle],
          [Naming.metamodelType target.name, ".", onward]]⟩

namespace EntitySet

variable {set : EntitySet} {options : Options} {artifacts : List Artifact} {entity : Entity}
  {attrs : List MappedAttribute}

/-- A mapped attribute has the type of its column. -/
theorem MapsTo.hasValueType {owner : String} {attr : Attribute} {type : MappedType}
    (h : set.MapsTo owner attr type) :
    HasValueType set attr (MappedAttribute.mk attr type).valueType := by
  cases h with
  | identifier hcolumn => exact .identifier hcolumn
  | version hcolumn => exact .version hcolumn
  | basic hcolumn => exact .basic hcolumn
  | manyToOne hcolumn htarget =>
    obtain ⟨other, hother, rfl, hresolved⟩ := exists_entity_of_resolveTarget htarget
    change HasValueType set attr (.entity (Naming.entityType _))
    rw [Entity.entityName_of_target? hresolved]
    exact .manyToOne hother hcolumn

/-- The path of an attribute agrees with the metamodels of a full run. -/
theorem navigation_agrees (hnames : set.HasIdentifierNames) (hfull : options.onlyData = false)
    (hrender : set.renderAll options = .ok artifacts) (hentity : entity ∈ set.entities)
    (hattrs : set.mapEntity entity = .ok attrs) {place : Nat} {mapped : MappedAttribute}
    (hplace : attrs[place]? = some mapped) :
    Navigation.Agrees set options artifacts entity
      (Kind.metamodel.sourceFile options entity attrs) place mapped.source
      (mapped.criteriaPath entity.name).navigation := by
  obtain ⟨-, hmapsTo⟩ := getElem?_of_mapEntity hattrs hplace
  have hhandle : (Kind.metamodel.sourceFile options entity attrs).handles[place]? =
      some ⟨Naming.entityType entity.name, mapped.valueType.javaName, mapped.property⟩ := by
    rw [SourceFile.handles_metamodel (hnames entity hentity).1 (hnames.mapped hentity hattrs),
      List.getElem?_map, hplace]
    rfl
  obtain ⟨attr, type⟩ := mapped
  cases hmapsTo with
  | identifier hcolumn | version hcolumn | basic hcolumn =>
    exact .column (fun _ h => nomatch hcolumn.symm.trans h) hhandle
  | @manyToOne name target hcolumn htarget =>
    obtain ⟨other, hother, rfl, hresolved⟩ := exists_entity_of_resolveTarget htarget
    obtain ⟨others, hothers, hgenerates⟩ := exists_generates hfull hrender hother
    obtain ⟨first, identifier, generated, hfirst, hidentifier, hmapped, -⟩ :=
      exists_first_mapped_identifier hothers hresolved
    have honward : (Kind.metamodel.sourceFile options other others).handles[first]? =
        some ⟨Naming.entityType other.name, target.idKind.scalar.javaName,
          Naming.property identifier.name⟩ := by
      rw [SourceFile.handles_metamodel (hnames other hother).1 (hnames.mapped hother hothers),
        List.getElem?_map, hmapped]
      rfl
    have hname := Entity.entityName_of_target? hresolved
    have hpath : ((⟨attr, .manyToOne target⟩ : MappedAttribute).criteriaPath
        entity.name).navigation = ⟨"root",
          [[Naming.metamodelType entity.name, ".", Naming.property attr.name],
            [Naming.metamodelType other.name, ".", Naming.property identifier.name]]⟩ := by
      rw [← hname, ← hidentifier]
      rfl
    rw [hpath]
    refine .relationship ⟨hcolumn, hother, hgenerates .metamodel⟩ ?_ hfirst honward
    rw [← hname]
    exact hhandle

/-- Whether a metamodel corresponds to a persisted class. The metamodel declares one handle and the
persisted class one property for each attribute, in the order of the attributes, by the same name
and with the type of the column in either language. -/
structure HandlesMatchProperties (set : EntitySet) (entity : Entity)
    (metamodel persisted : SourceFile) : Prop where
  handles_length : metamodel.handles.length = entity.attributes.length
  properties_length : persisted.properties.length = entity.attributes.length
  exists_type : ∀ (place : Nat) (attr : Attribute), entity.attributes[place]? = some attr →
    ∃ type name, HasValueType set attr type ∧
      metamodel.handles[place]? = some ⟨Naming.entityType entity.name, type.javaName, name⟩ ∧
      persisted.properties[place]? = some ⟨name, type.kotlinName⟩

/-- Whether the navigations of an extension follow the handles of metamodels: each leads along the
handle of some attribute, and each attribute is navigated to. -/
structure NavigationsFollowHandles (set : EntitySet) (options : Options)
    (artifacts : List Artifact) (entity : Entity) (metamodel extension : SourceFile) : Prop where
  sound : ∀ navigation ∈ extension.navigations, ∃ place attr,
    entity.attributes[place]? = some attr ∧
      Navigation.Agrees set options artifacts entity metamodel place attr navigation
  complete : ∀ place attr, entity.attributes[place]? = some attr →
    ∃ navigation ∈ extension.navigations,
      Navigation.Agrees set options artifacts entity metamodel place attr navigation

end EntitySet

end PersistenceLayer
