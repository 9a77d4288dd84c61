import PersistenceLayer.Proofs.VocabularyLeaves

/-!
# Criteria calls

A branch of an extension names a leaf and calls the criteria builder over the
path of an attribute, with what it reads of the leaf as operands. This file takes
the lines of branches apart into tokens; what the branches and the paths in them
mean is read from there.
-/

namespace PersistenceLayer

open Text (tokens isWord tokens_of_isWord tokens_append_of_opens tokens_append_of_ends)

/-! ## Reading the receiver -/

/-- The properties of the receiver that are read, in order. -/
def receiverReads : List String → List String
  | "this" :: "." :: name :: rest => name :: receiverReads rest
  | _ :: rest => receiverReads rest
  | [] => []

/-- A token other than the receiver reads nothing of it. -/
theorem receiverReads_cons_of_ne {token : String} {rest : List String} (h : token ≠ "this") :
    receiverReads (token :: rest) = receiverReads rest := by
  rw [receiverReads]
  rintro name _ rfl
  exact absurd rfl h

/-- Nothing is read of the receiver where it is not named. -/
theorem receiverReads_append_of_notMem {front : List String} (h : "this" ∉ front)
    (rest : List String) : receiverReads (front ++ rest) = receiverReads rest := by
  induction front with
  | nil => rfl
  | cons token front ih =>
    rw [List.mem_cons, not_or] at h
    rw [List.cons_append, receiverReads_cons_of_ne (Ne.symm h.1), ih h.2]

/-- A token without a dot behind it reads nothing of the receiver. -/
theorem receiverReads_cons_cons_of_ne {token next : String} {rest : List String}
    (h : next ≠ ".") : receiverReads (token :: next :: rest) = receiverReads (next :: rest) := by
  rw [receiverReads]
  rintro name _ rfl
  simp [h]

/-! ## Paths -/

/-- The tokens of a handle in brackets. -/
def HandleReference.tokens (reference : HandleReference) : List String :=
  ["[", reference.metamodel, ".", reference.handle, "]"]

/-- The tokens of a path. -/
def CriteriaPath.tokens (path : CriteriaPath) : List String :=
  "root" :: path.own.tokens ++ path.onward.toList.flatMap HandleReference.tokens

/-- Whether a reference consists of words, and does not begin with the receiver. -/
structure HandleReference.HasWords (reference : HandleReference) : Prop where
  metamodel : isWord reference.metamodel = true
  handle : isWord reference.handle = true
  metamodel_ne : reference.metamodel ≠ "this"

/-- Whether the steps of a path consist of words. -/
structure CriteriaPath.HasWords (path : CriteriaPath) : Prop where
  own : path.own.HasWords
  onward : ∀ reference ∈ path.onward, reference.HasWords

/-- A reference to a handle, by its tokens. -/
theorem HandleReference.tokens_render {reference : HandleReference} (h : reference.HasWords) :
    Text.tokens reference.render = reference.tokens := by
  have hmetamodel := h.metamodel
  have hhandle := h.handle
  unfold render
  simp (disch := simp +decide) only [tokens_append_of_opens, tokens_append_of_ends,
    tokens_of_isWord hmetamodel, tokens_of_isWord hhandle]
  rfl

/-- A reference to a handle opens with a bracket. -/
theorem HandleReference.opensWithSign_render (reference : HandleReference) :
    Text.opensWithSign reference.render = true := by
  unfold render
  simp +decide

/-- A step of a path reads nothing of the receiver, even if the handle is called like it. -/
theorem HandleReference.receiverReads_append {reference : HandleReference} (h : reference.HasWords)
    (rest : List String) : receiverReads (reference.tokens ++ rest) = receiverReads rest := by
  change receiverReads ("[" :: _ :: "." :: _ :: "]" :: rest) = _
  rw [receiverReads_cons_of_ne (by decide), receiverReads_cons_of_ne h.metamodel_ne,
    receiverReads_cons_of_ne (by decide), receiverReads_cons_cons_of_ne (by decide),
    receiverReads_cons_of_ne (by decide)]

namespace CriteriaPath

variable {path : CriteriaPath} (h : path.HasWords)

include h

/-- The tokens of a path are those of its steps. -/
theorem tokens_render : Text.tokens path.render = path.tokens := by
  obtain ⟨own, onward⟩ := path
  have hroot : Text.tokens ("root" ++ own.render) = "root" :: own.tokens := by
    rw [tokens_append_of_opens own.opensWithSign_render, own.tokens_render h.own]
    rfl
  unfold render tokens
  cases onward with
  | none => simpa using hroot
  | some target =>
    change Text.tokens ("root" ++ own.render ++ target.render) = _
    rw [tokens_append_of_opens target.opensWithSign_render, hroot,
      target.tokens_render (h.onward target rfl)]
    simp

/-- Paths read nothing of the receiver. -/
theorem receiverReads_append (rest : List String) :
    receiverReads (path.tokens ++ rest) = receiverReads rest := by
  obtain ⟨own, onward⟩ := path
  rw [tokens, List.append_assoc, List.cons_append, receiverReads_cons_of_ne (by decide),
    own.receiverReads_append h.own]
  cases onward with
  | none => rfl
  | some target => simpa using target.receiverReads_append (h.onward target rfl) rest

end CriteriaPath

/-- No metamodel is called like the receiver. -/
theorem Naming.metamodelType_ne_this (entity : String) : metamodelType entity ≠ "this" := by
  intro h
  have hlast := congrArg (fun text => text.toList.getLast?) h
  simp [metamodelType] at hlast

/-- The path of an attribute is formed from words. -/
theorem MappedAttribute.HasIdentifierNames.hasWords_criteriaPath {mapped : MappedAttribute}
    (h : mapped.HasIdentifierNames) {entity : String} (hentity : Text.isIdentifier entity = true) :
    (mapped.criteriaPath entity).HasWords := by
  refine ⟨⟨Naming.isWord_metamodelType hentity, h.isWord_property,
    Naming.metamodelType_ne_this entity⟩, ?_⟩
  rw [MappedAttribute.criteriaPath, MappedAttribute.target?]
  cases htype : mapped.type with
  | manyToOne target =>
    rintro _ ⟨⟩
    exact ⟨Naming.isWord_metamodelType (h.entityName target htype),
      Naming.isWord_property (h.identifierName target htype), Naming.metamodelType_ne_this _⟩
  | identifier | version | basic =>
    intro reference hreference
    cases hreference

/-! ## Calls -/

namespace Extension

/-- A call on the criteria builder, by its tokens. -/
theorem tokens_call {method operands : String} (path : String) (hmethod : isWord method = true)
    (hoperands : Text.opensWithSign operands = true) :
    tokens ("criteriaBuilder." ++ method ++ "(" ++ path ++ operands ++ ")") =
      ["criteriaBuilder", ".", method, "("] ++ (tokens path ++ (tokens operands ++ [")"])) := by
  simp (disch := simp +decide [hoperands]) only [tokens_append_of_opens, tokens_append_of_ends,
    tokens_of_isWord hmethod, List.append_assoc]
  rfl

/-- A negated call on the criteria builder, by its tokens. -/
theorem tokens_negatedCall (call : String) :
    tokens ("criteriaBuilder.not(" ++ call ++ ")") =
      ["criteriaBuilder", ".", "not", "("] ++ (tokens call ++ [")"]) := by
  simp (disch := simp +decide) only [tokens_append_of_opens, tokens_append_of_ends,
    List.append_assoc]
  rfl

end Extension

/-- Whether a text is a call of the criteria builder that takes a path, reads the given properties
of the receiver behind it, whatever comes after the call, and has no brackets of its own. -/
structure CallsOver (path : CriteriaPath) (names : List String) (text : String) : Prop where
  exists_tokens : ∃ front back,
    tokens text = "criteriaBuilder" :: "." :: (front ++ (path.tokens ++ back)) ∧
      ("this" ∉ front ∧ "[" ∉ front ++ back) ∧
      ∀ rest, receiverReads (back ++ rest) = names ++ receiverReads rest

namespace CallsOver

variable {path : CriteriaPath} {names : List String}

/-- A call takes its path in front of the operands. -/
theorem of_operands {method operands : String} (hpath : path.HasWords)
    (hmethod : isWord method = true) (hne : method ≠ "this")
    (hopens : Text.opensWithSign operands = true) (hbracket : "[" ∉ tokens operands)
    (hoperands : ∀ rest, receiverReads (tokens operands ++ rest) = names ++ receiverReads rest) :
    CallsOver path names
      ("criteriaBuilder." ++ method ++ "(" ++ path.render ++ operands ++ ")") := by
  have hword : "[" ≠ method := Text.ne_of_isWord hmethod (by decide)
  refine ⟨[method, "("], tokens operands ++ [")"], ?_, ?_, fun rest => ?_⟩
  · rw [Extension.tokens_call _ hmethod hopens, path.tokens_render hpath]
    rfl
  · simp [Ne.symm hne, hword, hbracket]
  · rw [List.append_assoc, hoperands, List.singleton_append, receiverReads_cons_of_ne (by decide)]

/-- The negation of a call takes what the call takes. -/
theorem negated {call : String} (h : CallsOver path names call) :
    CallsOver path names ("criteriaBuilder.not(" ++ call ++ ")") := by
  obtain ⟨front, back, hcall, ⟨hthis, hbracket⟩, hreads⟩ := h
  refine ⟨["not", "(", "criteriaBuilder", "."] ++ front, back ++ [")"], ?_, ?_, fun rest => ?_⟩
  · rw [Extension.tokens_negatedCall, hcall]
    simp
  · simpa [hthis] using hbracket
  · rw [List.append_assoc, hreads, List.singleton_append, receiverReads_cons_of_ne (by decide)]

/-- What a call reads of the receiver. -/
theorem receiverReads_eq {call : String} {others : List String} (h : CallsOver path names call)
    (hpath : path.HasWords) (hcall : tokens call = "criteriaBuilder" :: "." :: others) :
    receiverReads others = names := by
  obtain ⟨front, back, htokens, ⟨hthis, -⟩, hreads⟩ := h
  obtain rfl : others = front ++ (path.tokens ++ back) := by simpa using hcall.symm.trans htokens
  rw [receiverReads_append_of_notMem hthis, path.receiverReads_append hpath]
  simpa [receiverReads] using hreads []

end CallsOver

/-- The call of an operator reads its operands. -/
theorem Operator.callsOver_criteriaCall (operator : Operator) {path : CriteriaPath}
    (hpath : path.HasWords) :
    CallsOver path operator.arity.operands (operator.criteriaCall path.render) := by
  obtain ⟨hmethod, hne⟩ := operator.isWord_method
  have hnegated : ∀ call, CallsOver path operator.arity.operands call →
      CallsOver path operator.arity.operands
        (if operator.method.2 then "criteriaBuilder.not(" ++ call ++ ")" else call) := by
    intro call hcall
    split
    · exact hcall.negated
    · exact hcall
  refine hnegated _ (.of_operands hpath hmethod hne ?_ ?_ ?_)
  · cases operator.arity <;> decide
  · cases operator.arity <;> decide
  · cases operator.arity <;> exact fun rest => rfl

/-! ## Branches -/

/-- The tokens of a branch: whether it asks for the type of its leaf, the leaf, and its call. -/
def branchTokens (asksForType : Bool) (leaf : LeafName) (call : String) : List String :=
  (if asksForType then ["is"] else []) ++
    ([leaf.base, ".", leaf.caseName, ".", leaf.name, "-", ">"] ++ tokens call)

namespace Extension

/-- The line of a branch for an order, by its tokens. -/
theorem tokens_orderLine {base caseName leaf method : String} (path : String)
    (hbase : isWord base = true) (hcaseName : isWord caseName = true)
    (hleaf : isWord leaf = true) (hmethod : isWord method = true) :
    tokens ("        " ++ base ++ "." ++ caseName ++ "." ++ leaf ++ " -> criteriaBuilder." ++
        method ++ "(" ++ path ++ ")") =
      branchTokens false ⟨base, caseName, leaf⟩
        ("criteriaBuilder." ++ method ++ "(" ++ path ++ "" ++ ")") := by
  unfold branchTokens
  simp (disch := simp +decide) only [tokens_append_of_opens, tokens_append_of_ends,
    tokens_of_isWord hbase, tokens_of_isWord hcaseName, tokens_of_isWord hleaf,
    tokens_of_isWord hmethod, List.append_assoc]
  rfl

/-- The line of a branch for a predicate, by its tokens. -/
theorem tokens_predicateLine {base caseName leaf : String} (asksForType : Bool) (call : String)
    (hbase : isWord base = true) (hcaseName : isWord caseName = true)
    (hleaf : isWord leaf = true) :
    tokens ("        " ++ (if asksForType then "is " else "") ++ base ++ "." ++ caseName ++ "." ++
        leaf ++ " -> " ++ call) =
      branchTokens asksForType ⟨base, caseName, leaf⟩ call := by
  unfold branchTokens
  cases asksForType <;>
    simp (disch := simp +decide) only [tokens_append_of_opens, tokens_append_of_ends,
      tokens_of_isWord hbase, tokens_of_isWord hcaseName, tokens_of_isWord hleaf,
      List.append_assoc] <;> rfl

end Extension

section Lines

variable {entity : String} (hentity : Text.isIdentifier entity = true)
  {mapped : MappedAttribute} (h : mapped.HasIdentifierNames)

include hentity h

/-- The branch of an order names its singleton and reads nothing. -/
theorem OrderBranch.exists_call_line (direction : Direction) :
    ∃ call, tokens (line entity ⟨mapped.caseName, direction, mapped.criteriaPath entity⟩) =
        branchTokens false ⟨Naming.orderType entity, mapped.caseName, direction.name⟩ call ∧
      CallsOver (mapped.criteriaPath entity) [] call := by
  obtain ⟨hmethod, hne⟩ := direction.isWord_method
  exact ⟨_, Extension.tokens_orderLine _ (Naming.isWord_orderType hentity) h.isWord_caseName
      direction.isWord_name hmethod,
    .of_operands (h.hasWords_criteriaPath hentity) hmethod hne (by decide) (by decide) fun _ => rfl⟩

/-- The branch of a predicate asks for the type of its leaf unless the operator has no operands, and
reads the operands. -/
theorem PredicateBranch.exists_call_line (operator : Operator) :
    ∃ call, tokens (line entity ⟨mapped.caseName, operator, mapped.criteriaPath entity⟩) =
        branchTokens (operator.arity != .nullary)
          ⟨Naming.predicateType entity, mapped.caseName, operator.name⟩ call ∧
      CallsOver (mapped.criteriaPath entity) operator.arity.operands call :=
  ⟨_, Extension.tokens_predicateLine _ _ (Naming.isWord_predicateType hentity) h.isWord_caseName
      operator.isWord_name,
    operator.callsOver_criteriaCall (h.hasWords_criteriaPath hentity)⟩

end Lines

end PersistenceLayer
