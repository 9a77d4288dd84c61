import PersistenceLayer.Proofs.ImportLines
import PersistenceLayer.Proofs.TypeMentions

/-!
# Declared types

Which types a file declares is read off the lines of its text, by those at the
margin. As long as names between quotes are plain, a run declares the types that
are generated for each entity in the package of that entity, and two of these
types have the same name only if the names of their entities are told apart by
the case of their first letter alone, or if one of them is a contract.
-/

namespace PersistenceLayer

open Text (tokens isWord isDeeper tokens_of_isWord tokens_append_of_opens tokens_append_of_ends)

/-! ## Reading declarations of types -/

/-- The type that the tokens of a line declare, if they do. -/
def typeHead? : List String → Option String
  | "interface" :: name :: _ => some name
  | "open" :: "class" :: name :: _ => some name
  | "public" :: "class" :: name :: _ => some name
  | "sealed" :: "class" :: name :: _ => some name
  | _ => none

/-- The type that a line declares, if it does so at the margin. -/
def declaredType? (line : String) : Option String :=
  if isDeeper 0 line then none else typeHead? (tokens line)

/-- The types that a file declares on the lines of its text behind the prelude. -/
def SourceFile.declaredTypes (file : SourceFile) : List String :=
  file.bodyLines.filterMap declaredType?

/-- A line that is indented declares no type of the file. -/
theorem declaredType?_of_isDeeper {line : String} (h : isDeeper 0 line = true) :
    declaredType? line = none :=
  if_pos h

/-- A line declares no type if its first words say that it declares something else. -/
theorem declaredType?_of_head {front : String} (back : String)
    (hends : Text.endsWithSign front = true)
    (hhead : (tokens front).head? = some "fun" ∨ (tokens front).head? = some "@") :
    declaredType? (front ++ back) = none := by
  obtain ⟨head, rest, hfront⟩ : ∃ head rest, tokens front = head :: rest := by
    cases hfront : tokens front with
    | nil => simp [hfront] at hhead
    | cons head rest => exact ⟨head, rest, rfl⟩
  have htokens : tokens (front ++ back) = head :: (rest ++ tokens back) := by
    rw [tokens_append_of_ends hends, hfront, List.cons_append]
  rw [hfront, List.head?_cons, Option.some.injEq, Option.some.injEq] at hhead
  rw [declaredType?, htokens]
  rcases hhead with rfl | rfl <;> split <;> rfl

/-- The line that opens a declaration says what is declared. -/
theorem declaredType?_opening {front name back : String}
    (hfront : front ∈ ["interface ", "open class ", "public class ", "sealed class "])
    (hname : isWord name = true) (hback : Text.opensWithSign back = true) :
    declaredType? (front ++ name ++ back) = some name := by
  obtain ⟨hends, hmargin, hlength, hwords⟩ : Text.endsWithSign front = true ∧
      isDeeper 0 front = false ∧ 0 < front.toList.length ∧ tokens front ∈
        [["interface"], ["open", "class"], ["public", "class"], ["sealed", "class"]] := by
    revert front
    decide
  have htokens : tokens (front ++ name ++ back) = tokens front ++ name :: tokens back := by
    rw [tokens_append_of_opens hback, tokens_append_of_ends hends, tokens_of_isWord hname,
      List.append_assoc, List.singleton_append]
  have hdeeper : isDeeper 0 (front ++ name ++ back) = false := by
    rw [String.append_assoc]
    exact Text.isDeeper_append_eq_false _ hlength hmargin
  rw [declaredType?, if_neg (Bool.eq_false_iff.mp hdeeper), htokens]
  simp only [List.mem_cons, List.not_mem_nil, or_false] at hwords
  rcases hwords with h | h | h | h <;> rw [h] <;> rfl

/-! ## Types of files -/

/-- The types that an artifact of an entity declares. -/
def Kind.declaredTypes (kind : Kind) (entity : String) : List String :=
  match kind with
  | contract => [Naming.contractType entity]
  | dataHolder => [Naming.dataType entity]
  | metamodel => [Naming.metamodelType entity]
  | persisted => [Naming.entityType entity]
  | vocabulary => [Naming.orderType entity, Naming.predicateType entity]
  | extension => []

/-- The types that are generated for an entity are those that its artifacts declare. -/
theorem Naming.mem_generatedTypes_iff {entity type : String} :
    type ∈ generatedTypes entity ↔ ∃ kind ∈ Kind.all, type ∈ kind.declaredTypes entity := by
  simp [generatedTypes, Kind.all, Kind.declaredTypes]

/-! ### Lines of members -/

/-- An annotation declares no type. -/
theorem Annotation.declaredType?_render (mark : Annotation) : declaredType? mark.render = none := by
  rw [render, String.append_assoc]
  exact declaredType?_of_head _ (by decide) (.inr (by decide))

/-- The lines of a property of a contract are indented or empty. -/
theorem ContractProperty.isDeeper_of_mem_lines (property : ContractProperty) :
    ∀ line ∈ property.lines, isDeeper 0 line = true ∨ line = "" := by
  simp only [lines, markerLine, declarationLine, String.append_assoc, List.forall_mem_append,
    List.forall_mem_cons, List.forall_mem_map, List.not_mem_nil, IsEmpty.forall_iff, implies_true,
    and_true, or_true]
  exact ⟨fun _ _ => .inl (Text.isDeeper_append _ (by decide)),
    .inl (Text.isDeeper_append _ (by decide))⟩

/-- A property of a data holder is indented. -/
theorem DataHolder.isDeeper_declarationLine (options : Options) (property : FlatProperty) :
    isDeeper 0 (declarationLine options property) = true := by
  unfold declarationLine
  simp only [String.append_assoc]
  exact Text.isDeeper_append _ (by decide)

/-- A handle is indented. -/
theorem Metamodel.isDeeper_declarationLine (entity : String) (handle : Handle) :
    isDeeper 0 (declarationLine entity handle) = true := by
  unfold declarationLine
  simp only [String.append_assoc]
  exact Text.isDeeper_append _ (Text.isDeeper_ofList (by decide))

/-- The lines of a property of a persisted class are indented. -/
theorem PersistedProperty.isDeeper_of_mem_lines (property : PersistedProperty) :
    ∀ line ∈ property.lines, isDeeper 0 line = true := by
  simp only [lines, declarationLine, String.append_assoc, List.forall_mem_append,
    List.forall_mem_map, List.forall_mem_singleton]
  exact ⟨fun _ _ => Text.isDeeper_append _ (by decide), Text.isDeeper_append _ (by decide)⟩

/-- Lines that are indented or empty declare no types of the file. -/
theorem filterMap_declaredType?_eq_nil {lines : List String}
    (h : ∀ line ∈ lines, isDeeper 0 line = true ∨ line = "") :
    lines.filterMap declaredType? = [] := by
  rw [List.filterMap_eq_nil_iff]
  intro line hline
  rcases h line hline with hdeeper | rfl
  · exact declaredType?_of_isDeeper hdeeper
  · decide

/-- An empty line and a brace declare nothing. -/
theorem filterMap_declaredType?_closing :
    [""].filterMap declaredType? = [] ∧ ["\x7d"].filterMap declaredType? = [] := by
  decide

/-- A sealed class declares nothing at the margin but itself. -/
theorem Vocabulary.filterMap_declaredType?_sealedClass {name : String} {inner : List String}
    (hname : isWord name = true) (hinner : ∀ line ∈ inner, isDeeper 0 line = true) :
    (sealedClass name inner).filterMap declaredType? = [name] := by
  have hopening := declaredType?_opening (by decide : "sealed class " ∈ _) hname
    (by decide : Text.opensWithSign " \x7b" = true)
  have hclosing : ["\x7d", ""].filterMap declaredType? = [] := by decide
  rw [sealedClass, List.filterMap_append, List.filterMap_append,
    List.filterMap_cons_some hopening, hclosing,
    filterMap_declaredType?_eq_nil fun line hline => .inl (hinner line hline)]
  rfl

namespace Extension

/-- The header of a function declares no type. -/
theorem declaredType?_function (back : String) : declaredType? ("fun " ++ back) = none :=
  declaredType?_of_head back (by decide) (.inl (by decide))

/-- A function that turns leaves into criteria declares no type. -/
theorem declaredType?_criterionFunction (entity receiver name result : String)
    {branches : List String} (hbranches : ∀ line ∈ branches, isDeeper 0 line = true) :
    ∀ line ∈ criterionFunction entity receiver name result branches, declaredType? line = none := by
  simp only [criterionFunction, String.append_assoc, List.forall_mem_append, List.forall_mem_cons,
    List.not_mem_nil, IsEmpty.forall_iff, implies_true, and_true]
  exact ⟨⟨⟨declaredType?_function _, by decide⟩,
    fun line hline => declaredType?_of_isDeeper (hbranches line hline)⟩,
    by decide, by decide, by decide⟩

/-- The function that counts declares no type. -/
theorem declaredType?_countFunction (entity : String) :
    ∀ line ∈ countFunction entity, declaredType? line = none := by
  have hverb : "fun EntityManager.count" = "fun " ++ "EntityManager.count" := by decide
  have hlines : countFunction entity = (countFunction entity).head (List.cons_ne_nil _ _) ::
      (countFunction entity).tail.dropLast.dropLast ++ ["\x7d", ""] := rfl
  rw [hlines, List.cons_append, List.forall_mem_cons, List.forall_mem_append]
  refine ⟨?_, fun line hline =>
    declaredType?_of_isDeeper (isDeeper_countFunction entity line hline), by decide⟩
  simp only [countFunction, hverb, String.append_assoc, List.cons_append, List.head_cons]
  exact declaredType?_function _

/-- The function that lists declares no type. -/
theorem declaredType?_listFunction (entity : String) :
    ∀ line ∈ listFunction entity, declaredType? line = none := by
  have hverb : "fun EntityManager.list" = "fun " ++ "EntityManager.list" := by decide
  have hlines : listFunction entity = (listFunction entity).head (List.cons_ne_nil _ _) ::
      (listFunction entity).tail.dropLast.dropLast ++ ["\x7d", ""] := rfl
  rw [hlines, List.cons_append, List.forall_mem_cons, List.forall_mem_append]
  refine ⟨?_, fun line hline => declaredType?_of_isDeeper (isDeeper_listFunction entity line hline),
    by decide⟩
  simp only [listFunction, hverb, String.append_assoc, List.cons_append, List.head_cons]
  exact declaredType?_function _

/-- A function that copies into a persisted object declares no type. -/
theorem declaredType?_entityCopyFunction (entity : String) (mode : CopyMode)
    (assignments : List EntityAssignment) :
    ∀ line ∈ entityCopyFunction entity mode assignments, declaredType? line = none := by
  simp only [entityCopyFunction, String.append_assoc, List.forall_mem_append,
    List.forall_mem_cons, List.forall_mem_flatMap, List.not_mem_nil, IsEmpty.forall_iff,
    implies_true, and_true]
  exact ⟨⟨⟨by decide, declaredType?_function _⟩, fun assignment _ line hline =>
    declaredType?_of_isDeeper (assignment.isDeeper_of_mem_lines line hline)⟩, by decide, by decide⟩

/-- The function that copies into client-facing data declares no type. -/
theorem declaredType?_dataCopyFunction (entity : String) (assignments : List DataAssignment) :
    ∀ line ∈ dataCopyFunction entity assignments, declaredType? line = none := by
  simp only [dataCopyFunction, String.append_assoc, List.forall_mem_append, List.forall_mem_cons,
    List.forall_mem_map, List.not_mem_nil, IsEmpty.forall_iff, implies_true, and_true]
  exact ⟨⟨declaredType?_function _, fun assignment _ =>
    declaredType?_of_isDeeper assignment.isDeeper_line⟩, by decide, by decide⟩

/-- Functions declare no types. -/
theorem filterMap_declaredType?_body (entity : String) (attrs : List MappedAttribute) :
    (body entity (orderBranches entity attrs) (predicateBranches entity attrs)
      (entityAssignments .insertable attrs) (entityAssignments .updatable attrs)
      (dataAssignments attrs)).filterMap declaredType? = [] := by
  rw [List.filterMap_eq_nil_iff]
  simp only [body, List.forall_mem_append]
  refine ⟨⟨⟨⟨⟨⟨?_, ?_⟩, declaredType?_countFunction entity⟩, declaredType?_listFunction entity⟩,
    declaredType?_entityCopyFunction entity _ _⟩, declaredType?_entityCopyFunction entity _ _⟩,
    declaredType?_dataCopyFunction entity _⟩
  · exact declaredType?_criterionFunction _ _ _ _ (List.forall_mem_map.mpr fun branch _ =>
      Text.isDeeper_mono (by decide) (branch.isDeeper_line entity))
  · exact declaredType?_criterionFunction _ _ _ _ (List.forall_mem_map.mpr fun branch _ =>
      Text.isDeeper_mono (by decide) (branch.isDeeper_line entity))

end Extension

/-! ### Files -/

section Files

variable (options : Options) {entity : Entity} {attrs : List MappedAttribute}
  (hentity : Text.isIdentifier entity.name = true)

include hentity

/-- The body of a contract declares the contract. -/
theorem Contract.filterMap_declaredType?_body (properties : List ContractProperty) :
    (body entity.name properties).filterMap declaredType? =
      [Naming.contractType entity.name] := by
  have hopening := declaredType?_opening (by decide : "interface " ∈ _)
    (Naming.isWord_contractType hentity) (by decide : Text.opensWithSign " \x7b" = true)
  have hproperties : (properties.flatMap ContractProperty.lines).filterMap declaredType? = [] :=
    filterMap_declaredType?_eq_nil (List.forall_mem_flatMap.mpr fun property _ =>
      property.isDeeper_of_mem_lines)
  rw [body, List.filterMap_append, List.filterMap_append, List.filterMap_cons_some hopening,
    hproperties, filterMap_declaredType?_closing.1,
    filterMap_declaredType?_closing.2]
  rfl

/-- The body of a data holder declares the data class. -/
theorem DataHolder.filterMap_declaredType?_body (properties : List FlatProperty) :
    (body options entity.name properties).filterMap declaredType? =
      [Naming.dataType entity.name] := by
  have hopening := declaredType?_opening (by decide : "open class " ∈ _)
    (Naming.isWord_dataType hentity) (by simp +decide :
      Text.opensWithSign (" : " ++ (Naming.contractType entity.name ++ " \x7b")) = true)
  have hproperties : (properties.flatMap fun property =>
      [declarationLine options property, ""]).filterMap declaredType? = [] :=
    filterMap_declaredType?_eq_nil (List.forall_mem_flatMap.mpr fun property _ => by
      simp [isDeeper_declarationLine options property])
  rw [← String.append_assoc, ← String.append_assoc] at hopening
  rw [body, List.filterMap_append, List.filterMap_append, List.filterMap_cons_some hopening,
    hproperties, filterMap_declaredType?_closing.1,
    filterMap_declaredType?_closing.2]
  rfl

/-- The body of a metamodel declares the metamodel. -/
theorem Metamodel.filterMap_declaredType?_body (handles : List Handle) :
    (body entity.name handles).filterMap declaredType? = [Naming.metamodelType entity.name] := by
  have hannotation : declaredType? ("@StaticMetamodel(" ++ Naming.entityType entity.name ++
      ".class)") = none := by
    rw [String.append_assoc]
    exact declaredType?_of_head _ (by decide) (.inr (by decide))
  have hopening := declaredType?_opening (by decide : "public class " ∈ _)
    (Naming.isWord_metamodelType hentity) (by decide : Text.opensWithSign " \x7b" = true)
  have hhandles : (handles.flatMap fun handle =>
      [declarationLine entity.name handle, ""]).filterMap declaredType? = [] :=
    filterMap_declaredType?_eq_nil (List.forall_mem_flatMap.mpr fun handle _ => by
      simp [isDeeper_declarationLine entity.name handle])
  rw [body, List.filterMap_append, List.filterMap_append, List.filterMap_cons_none hannotation,
    List.filterMap_cons_some hopening, hhandles, filterMap_declaredType?_closing.1,
    filterMap_declaredType?_closing.2]
  rfl

/-- The body of a persisted class declares the class. -/
theorem Persisted.filterMap_declaredType?_body (annotations : List Annotation)
    (properties : List PersistedProperty) :
    (body entity.name annotations properties).filterMap declaredType? =
      [Naming.entityType entity.name] := by
  have hopening := declaredType?_opening (by decide : "open class " ∈ _)
    (Naming.isWord_entityType hentity) (by decide : Text.opensWithSign " \x7b" = true)
  have hannotations : (annotations.map Annotation.render).filterMap declaredType? = [] := by
    rw [List.filterMap_eq_nil_iff, List.forall_mem_map]
    exact fun mark _ => mark.declaredType?_render
  have hproperties : (properties.flatMap fun property =>
      property.lines ++ [""]).filterMap declaredType? = [] :=
    filterMap_declaredType?_eq_nil (List.forall_mem_flatMap.mpr fun property _ =>
      List.forall_mem_append.mpr ⟨fun line hline =>
        .inl (property.isDeeper_of_mem_lines line hline), by simp⟩)
  rw [body, List.filterMap_append, List.filterMap_append, List.filterMap_append, hannotations,
    List.filterMap_cons_some hopening, hproperties, filterMap_declaredType?_closing.1,
    filterMap_declaredType?_closing.2]
  rfl

/-- The types that a file declares are those of its kind. -/
theorem SourceFile.declaredTypes_sourceFile (hnames : ∀ mapped ∈ attrs, mapped.HasIdentifierNames)
    {kind : Kind} (hquotes : kind = .persisted → entity.QuotesOnOneLine attrs) :
    (kind.sourceFile options entity attrs).declaredTypes = kind.declaredTypes entity.name := by
  rw [declaredTypes, bodyLines_sourceFile options hentity hnames kind hquotes]
  cases kind with
  | contract => exact Contract.filterMap_declaredType?_body hentity _
  | dataHolder => exact DataHolder.filterMap_declaredType?_body options hentity _
  | metamodel => exact Metamodel.filterMap_declaredType?_body hentity _
  | persisted => exact Persisted.filterMap_declaredType?_body hentity _ _
  | vocabulary =>
    have horders := Vocabulary.filterMap_declaredType?_sealedClass
      (Naming.isWord_orderType hentity)
      (Vocabulary.isDeeper_orders (Naming.orderType entity.name) attrs)
    have hpredicates := Vocabulary.filterMap_declaredType?_sealedClass
      (Naming.isWord_predicateType hentity)
      (Vocabulary.isDeeper_predicates (Naming.predicateType entity.name) attrs)
    change (Vocabulary.body _ _ _).filterMap declaredType? = _
    rw [Vocabulary.body, List.filterMap_append, horders, hpredicates]
    rfl
  | extension => exact Extension.filterMap_declaredType?_body entity.name attrs

end Files

/-! ## Types of a run -/

/-- The package that a file states to be in, as it is written. A blank one is not stated. -/
def statedPackage (packageName : String) : String :=
  if Text.isBlank packageName then "" else packageName

namespace EntitySet

/-- Whether an artifact of an entity declares a type in a package. -/
def DeclaresFor (set : EntitySet) (options : Options) (entity : Entity)
    (packageName type : String) : Prop :=
  ∃ kind ∈ Kind.ofOptions options, ∃ file, set.emit options entity kind = .ok file ∧
    statedPackage file.packageName = packageName ∧ type ∈ file.declaredTypes

/-- Whether some artifact of a run declares a type in a package. -/
def Declares (set : EntitySet) (options : Options) (packageName type : String) : Prop :=
  ∃ entity ∈ set.entities, set.DeclaresFor options entity packageName type

section Declares

variable {isLetter : Char → Bool} {set : EntitySet} {options : Options}
  (hvalid : set.isValid = true) (hfull : options.onlyData = false) {packageName type : String}

include hvalid hfull

/-- The artifacts of an entity that quotes plain names declare the types that are generated for
it. -/
theorem declaresFor_iff {entity : Entity} (hentity : entity ∈ set.entities)
    (hplain : entity.HasPlainNames isLetter) :
    set.DeclaresFor options entity packageName type ↔
      statedPackage entity.packageName = packageName ∧
        type ∈ Naming.generatedTypes entity.name := by
  have hnames := hasIdentifierNames_of_isValid hvalid
  have hkinds : Kind.ofOptions options = Kind.all := by
    rw [Kind.ofOptions, hfull]
    rfl
  obtain ⟨attrs, hattrs⟩ := exists_mapEntity_of_isValid hvalid hentity
  have htypes (kind : Kind) : (kind.sourceFile options entity attrs).declaredTypes =
      kind.declaredTypes entity.name :=
    SourceFile.declaredTypes_sourceFile options (hnames entity hentity).1
      (hnames.mapped hentity hattrs) fun _ => hplain.quotesOnOneLine hattrs
  rw [DeclaresFor, hkinds, Naming.mem_generatedTypes_iff]
  constructor
  · rintro ⟨kind, hkind, file, hemit, hpackage, htype⟩
    obtain rfl := Except.ok.inj ((emit_of_mapEntity hattrs options kind).symm.trans hemit)
    rw [htypes] at htype
    exact ⟨hpackage, kind, hkind, htype⟩
  · rintro ⟨hpackage, kind, hkind, htype⟩
    refine ⟨kind, hkind, _, emit_of_mapEntity hattrs options kind, hpackage, ?_⟩
    rwa [htypes]

/-- A full run whose names between quotes are plain declares the types that are generated for its
entities. -/
theorem declares_iff (hplain : ∀ entity ∈ set.entities, entity.HasPlainNames isLetter) :
    set.Declares options packageName type ↔ ∃ entity ∈ set.entities,
      statedPackage entity.packageName = packageName ∧
        type ∈ Naming.generatedTypes entity.name :=
  exists_congr fun entity => and_congr_right fun hentity =>
    declaresFor_iff hvalid hfull hentity (hplain entity hentity)

end Declares

end EntitySet

/-! ## Types of the same name -/

/-- Texts with different ends are different. -/
theorem Text.append_ne_append (first second : String) {front back : String} {c d : Char}
    (hfront : front.toList.getLast? = some c) (hback : back.toList.getLast? = some d)
    (hne : c ≠ d) : first ++ front ≠ second ++ back := by
  intro h
  have hlast := congrArg (fun text => text.toList.getLast?) h
  simp only [String.toList_append, List.getLast?_append, hfront, hback] at hlast
  exact hne (Option.some.inj hlast)

namespace Naming

section

variable {first second : String} (hfirst : Text.isIdentifier first = true)
  (hsecond : Text.isIdentifier second = true)

include hfirst hsecond

/-- Persisted classes have the same name if the names of their entities are the same up to the case
of the first letter. -/
theorem entityType_eq_iff : entityType first = entityType second ↔
    Text.SameUpToInitial first second := by
  rw [entityType, entityType, String.append_left_inj, Text.capitalized_eq_iff hfirst hsecond]

/-- Metamodels have the same name if the names of their entities are the same up to the case of the
first letter. -/
theorem metamodelType_eq_iff : metamodelType first = metamodelType second ↔
    Text.SameUpToInitial first second := by
  rw [metamodelType, metamodelType, String.append_left_inj, entityType_eq_iff hfirst hsecond]

/-- A persisted class is called like a type that is generated for an entity if the names are the
same up to the case of the first letter, or if that type is the contract. -/
theorem entityType_mem_generatedTypes_iff : entityType first ∈ generatedTypes second ↔
    Text.SameUpToInitial first second ∨ entityType first = contractType second := by
  have hdata : entityType first ≠ dataType second :=
    Text.append_ne_append _ _ (by decide : _ = some 'y') (by decide : _ = some 'a') (by decide)
  have hmetamodel : entityType first ≠ metamodelType second :=
    Text.append_ne_append _ _ (by decide : _ = some 'y') (by decide : _ = some '_') (by decide)
  have horder : entityType first ≠ orderType second :=
    Text.append_ne_append _ _ (by decide : _ = some 'y') (by decide : _ = some 'r') (by decide)
  have hpredicate : entityType first ≠ predicateType second :=
    Text.append_ne_append _ _ (by decide : _ = some 'y') (by decide : _ = some 'e') (by decide)
  simp [generatedTypes, hdata, hmetamodel, horder, hpredicate, entityType_eq_iff hfirst hsecond,
    or_comm]

/-- A metamodel is called like a type that is generated for an entity in the same two cases. -/
theorem metamodelType_mem_generatedTypes_iff : metamodelType first ∈ generatedTypes second ↔
    Text.SameUpToInitial first second ∨ metamodelType first = contractType second := by
  have hdata : metamodelType first ≠ dataType second :=
    Text.append_ne_append _ _ (by decide : _ = some '_') (by decide : _ = some 'a') (by decide)
  have hentity : metamodelType first ≠ entityType second :=
    Text.append_ne_append _ _ (by decide : _ = some '_') (by decide : _ = some 'y') (by decide)
  have horder : metamodelType first ≠ orderType second :=
    Text.append_ne_append _ _ (by decide : _ = some '_') (by decide : _ = some 'r') (by decide)
  have hpredicate : metamodelType first ≠ predicateType second :=
    Text.append_ne_append _ _ (by decide : _ = some '_') (by decide : _ = some 'e') (by decide)
  simp [generatedTypes, hdata, hentity, horder, hpredicate, metamodelType_eq_iff hfirst hsecond,
    or_comm]

end

end Naming

end PersistenceLayer
