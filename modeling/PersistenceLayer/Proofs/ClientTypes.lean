import PersistenceLayer.Proofs.GeneratedDeclarations
import PersistenceLayer.Proofs.ImportLines

/-!
# Client-facing types

A contract and a data holder are read back from their texts: behind the prelude a
line that opens a type, then its members, each behind its markers, and the brace
that closes the type. The data holder overrides what the contract declares, and
the contract declares one property per attribute.
-/

namespace PersistenceLayer

open Text (tokens isWord tokens_of_isWord tokens_append_of_opens tokens_append_of_ends
  notMem_toList_of_isWord notMem_toList_ofList)

/-! ## Reading types -/

/-- A property of a client-facing type, with the markers in front of it. -/
structure ClientMember where
  markers : List String
  overrides : Bool
  name : String
  type : String
  deriving DecidableEq, Repr

namespace ClientMember

/-- What can follow the type of a property that is overridden. -/
def initializers : List (List String) :=
  [["=", "null"], ["by", "mutableStateOf", "(", "null", ")"]]

/-- The members that the tokens of some lines declare up to the brace that closes their type, given
the markers that the first one of them has already. Only markers, members and empty lines may stand
in front of the brace, and nothing behind it. -/
def readAll? (markers : List String) : List (List String) → Option (List ClientMember)
  | [] :: lines => readAll? markers lines
  | ["@", "get", ":", marker] :: lines => readAll? (markers ++ [marker]) lines
  | ["var", name, ":", type, "?"] :: lines =>
    (readAll? [] lines).map (⟨markers, false, name, type⟩ :: ·)
  | ("override" :: "var" :: name :: ":" :: type :: "?" :: initializer) :: lines =>
    if initializer ∈ initializers then
      (readAll? [] lines).map (⟨markers, true, name, type⟩ :: ·)
    else none
  | ["\x7d"] :: lines => if markers.isEmpty && lines.all List.isEmpty then some [] else none
  | _ => none

/-- The member of an implementation that overrides a member of its contract. -/
def overriding (member : ClientMember) : ClientMember :=
  { member with markers := [], overrides := true }

end ClientMember

/-- A client-facing type: a contract, or a class that implements one. -/
structure ClientType where
  name : String
  implemented : Option String
  members : List ClientMember
  deriving DecidableEq, Repr

namespace ClientType

/-- The type that the tokens of some lines declare behind a package statement and imports. -/
def ofLines? : List (List String) → Option ClientType
  | [] :: lines => ofLines? lines
  | ("package" :: _) :: lines => ofLines? lines
  | ("import" :: _) :: lines => ofLines? lines
  | ["interface", name, "\x7b"] :: lines =>
    (ClientMember.readAll? [] lines).map fun members => ⟨name, none, members⟩
  | ["open", "class", name, ":", contract, "\x7b"] :: lines =>
    (ClientMember.readAll? [] lines).map fun members => ⟨name, some contract, members⟩
  | _ => none

/-- The type that a source text declares, if it declares one type and nothing else. -/
def ofText? (text : String) : Option ClientType :=
  ofLines? ((Text.splitAt '\n' text).map tokens)

end ClientType

/-! ## Reading preludes -/

/-- Whether a line is empty, a package statement or an import. -/
inductive SourceFile.IsPreludeLine : String → Prop where
  | emptyLine : IsPreludeLine ""
  | packageLine (name : String) : IsPreludeLine ("package " ++ name)
  | importLine (name : String) : IsPreludeLine ("import " ++ name)

/-- A type is looked for behind the prelude. -/
theorem ClientType.ofLines?_append_of_prelude {prelude : List String}
    {lines : List (List String)} (h : ∀ line ∈ prelude, SourceFile.IsPreludeLine line) :
    ofLines? (prelude.map tokens ++ lines) = ofLines? lines := by
  induction prelude with
  | nil => rfl
  | cons line prelude ih =>
    obtain ⟨hline, hprelude⟩ := List.forall_mem_cons.mp h
    rw [List.map_cons, List.cons_append, ← ih hprelude]
    cases hline with
    | emptyLine => rfl
    | packageLine name =>
      rw [tokens_append_of_ends (by decide)]
      rfl
    | importLine name =>
      rw [tokens_append_of_ends (by decide)]
      rfl

/-- The prelude of an emitted file consists of its statements, each on a line. -/
theorem EntitySet.isPreludeLine_of_emit {set : EntitySet} {options : Options} {entity : Entity}
    {kind : Kind} {file : SourceFile} (hnames : set.HasIdentifierNames)
    (hpackages : set.HasPackageNamesOnOneLine) (hentity : entity ∈ set.entities)
    (h : set.emit options entity kind = .ok file) :
    ∀ line ∈ file.packageLines ++ file.importLines,
      SourceFile.IsPreludeLine line ∧ '\n' ∉ line.toList := by
  have hempty : SourceFile.IsPreludeLine "" ∧ '\n' ∉ "".toList := ⟨.emptyLine, by decide⟩
  obtain ⟨-, himports⟩ := importBlock_emit hnames hpackages hentity h
  obtain ⟨attrs, hattrs, rfl⟩ := exists_attrs_of_emit h
  have hterminator : '\n' ∉ kind.language.terminator.toList := by
    cases kind <;> decide
  rw [List.forall_mem_append]
  constructor
  · intro line hline
    refine ⟨?_, (SourceFile.precedesImports_of_mem_packageLines (hpackages entity hentity) line
      hline).2⟩
    unfold SourceFile.packageLines at hline
    split at hline
    · cases hline
    · obtain rfl | rfl : line = _ ∨ line = "" := by simpa using hline
      · rw [String.append_assoc]
        exact .packageLine _
      · exact .emptyLine
  · intro line hline
    unfold SourceFile.importLines at hline
    split at hline
    · cases hline
    · obtain hline | rfl : line ∈ _ ∨ line = "" := by simpa using hline
      · obtain ⟨name, hname, rfl⟩ := (himports line).mp hline
        have hbreak := hname.notMem hnames hpackages
        rw [Language.importLine, String.append_assoc]
        refine ⟨.importLine _, ?_⟩
        simp only [String.toList_append, List.mem_append, not_or]
        exact ⟨notMem_toList_ofList (by decide), hbreak, hterminator⟩
      · exact hempty

/-! ## Reading members -/

namespace ClientMember

/-- The markers of a property are gathered in front of it. -/
theorem readAll?_markers (markers : List String) (constraints : List Constraint)
    (lines : List (List String)) :
    readAll? markers
        ((constraints.map ContractProperty.markerLine).map tokens ++ lines) =
      readAll? (markers ++ constraints.map Constraint.name) lines := by
  induction constraints generalizing markers with
  | nil =>
    rw [List.map_nil (f := Constraint.name), List.append_nil]
    rfl
  | cons constraint constraints ih =>
    have htokens : tokens (ContractProperty.markerLine constraint) =
        ["@", "get", ":", constraint.name] := by
      cases constraint <;> decide
    rw [List.map_cons, List.map_cons, htokens, List.map_cons, List.cons_append]
    exact (ih (markers ++ [constraint.name])).trans (by simp)

/-- Members are read one after the other, if each of them is read off its own lines. -/
theorem readAll?_flatMap {α : Type} {items : List α} {lines : α → List (List String)}
    {member : α → ClientMember}
    (h : ∀ item ∈ items, ∀ rest,
      readAll? [] (lines item ++ rest) = (readAll? [] rest).map (member item :: ·)) :
    readAll? [] (items.flatMap lines ++ [["\x7d"], []]) = some (items.map member) := by
  induction items with
  | nil => rfl
  | cons item items ih =>
    obtain ⟨hitem, hitems⟩ := List.forall_mem_cons.mp h
    rw [List.flatMap_cons, List.append_assoc, hitem, ih hitems]
    rfl

end ClientMember

/-- The member that an attribute contributes to a contract. -/
def MappedAttribute.clientMember (options : Options) (mapped : MappedAttribute) : ClientMember :=
  { markers := (mapped.contractProperty options).markers.map Constraint.name
    overrides := false
    name := mapped.flat.name
    type := mapped.flat.scalar.kotlinName }

namespace MappedAttribute.HasIdentifierNames

variable {mapped : MappedAttribute} (h : mapped.HasIdentifierNames)

include h

/-- The lines of a contract's property are read as the member that they declare. -/
theorem readAll?_contractProperty (options : Options) (rest : List (List String)) :
    ClientMember.readAll? [] ((mapped.contractProperty options).lines.map tokens ++ rest) =
      (ClientMember.readAll? [] rest).map (mapped.clientMember options :: ·) := by
  have htokens : tokens (ContractProperty.declarationLine mapped.flat) =
      ["var", mapped.flat.name, ":", mapped.flat.scalar.kotlinName, "?"] :=
    ContractProperty.tokens_line h.isWord_flat mapped.flat.scalar.isWord_kotlinName
  rw [ContractProperty.lines, List.map_append, List.append_assoc, ClientMember.readAll?_markers,
    List.map_cons, contractProperty, htokens]
  rfl

/-- The lines of a data holder's property are read as the member that they override. -/
theorem readAll?_override (options contractOptions : Options) (rest : List (List String)) :
    ClientMember.readAll? []
        ([DataHolder.declarationLine options mapped.flat, ""].map tokens ++ rest) =
      (ClientMember.readAll? [] rest).map
        ((mapped.clientMember contractOptions).overriding :: ·) := by
  have htokens : tokens (DataHolder.declarationLine options mapped.flat) =
      ["override", "var", mapped.flat.name, ":", mapped.flat.scalar.kotlinName, "?"] ++
        tokens (DataHolder.initializer options) :=
    DataHolder.tokens_line options h.isWord_flat mapped.flat.scalar.isWord_kotlinName
  rw [List.map_cons, htokens, DataHolder.initializer]
  split
  · have hcell : tokens " by mutableStateOf(null)" = ["by", "mutableStateOf", "(", "null", ")"] := by
      decide
    rw [hcell]
    rfl
  · have hnull : tokens " = null" = ["=", "null"] := by decide
    rw [hnull]
    rfl

end MappedAttribute.HasIdentifierNames

/-! ## Reading sources -/

namespace ClientType

variable {file : SourceFile}

/-- The type of a source is read from its body. -/
theorem ofText?_text
    (hprelude : ∀ line ∈ file.packageLines ++ file.importLines,
      SourceFile.IsPreludeLine line ∧ '\n' ∉ line.toList)
    (hbody : ∀ line ∈ file.body, '\n' ∉ line.toList) :
    ofText? file.text = ofLines? (file.body.map tokens ++ [[]]) := by
  have hlines : file.lines = (file.packageLines ++ file.importLines) ++ file.body := rfl
  rw [ofText?, SourceFile.text, SourceFile.splitAt_unlines_of_notMem, hlines, List.append_assoc,
    List.map_append, ofLines?_append_of_prelude fun line hline => (hprelude line hline).1,
    List.map_append]
  · rfl
  · rw [hlines, List.forall_mem_append]
    exact ⟨fun line hline => (hprelude line hline).2, hbody⟩

variable (options : Options) {entity : Entity} {attrs : List MappedAttribute}
  (hentity : Text.isIdentifier entity.name = true)
  (hnames : ∀ mapped ∈ attrs, mapped.HasIdentifierNames)

include hentity hnames

/-- A contract is read from its body. -/
theorem ofLines?_contract :
    ofLines? ((Kind.contract.body options entity attrs).map tokens ++ [[]]) =
      some ⟨Naming.contractType entity.name, none,
        attrs.map (MappedAttribute.clientMember options)⟩ := by
  have hopening : tokens ("interface " ++ Naming.contractType entity.name ++ " \x7b") =
      ["interface", Naming.contractType entity.name, "\x7b"] := by
    simp (disch := simp +decide) only [tokens_append_of_opens, tokens_append_of_ends,
      tokens_of_isWord (Naming.isWord_contractType hentity)]
    rfl
  have hmembers : ClientMember.readAll? [] ((attrs.flatMap fun mapped =>
      (mapped.contractProperty options).lines.map tokens) ++ [["\x7d"], []]) =
        some (attrs.map (MappedAttribute.clientMember options)) :=
    ClientMember.readAll?_flatMap fun mapped hmapped =>
      (hnames mapped hmapped).readAll?_contractProperty options
  have hlines : (Kind.contract.body options entity attrs).map tokens ++ [[]] =
      ["interface", Naming.contractType entity.name, "\x7b"] :: [] ::
        ((attrs.flatMap fun mapped => (mapped.contractProperty options).lines.map tokens) ++
          [["\x7d"], []]) := by
    change (Contract.body entity.name (Contract.properties options attrs)).map tokens ++ _ = _
    rw [Contract.body, Contract.properties, List.flatMap_map, List.map_append, List.map_append,
      List.map_flatMap, List.map_cons, hopening, List.append_assoc, List.append_assoc]
    rfl
  rw [hlines, ofLines?, ClientMember.readAll?, hmembers]
  rfl

/-- A data holder is read from its body. Its contract may be written with other options. -/
theorem ofLines?_dataHolder (contractOptions : Options) :
    ofLines? ((Kind.dataHolder.body options entity attrs).map tokens ++ [[]]) =
      some ⟨Naming.dataType entity.name, some (Naming.contractType entity.name),
        (attrs.map (MappedAttribute.clientMember contractOptions)).map
          ClientMember.overriding⟩ := by
  have hopening : tokens ("open class " ++ Naming.dataType entity.name ++ " : " ++
      Naming.contractType entity.name ++ " \x7b") = ["open", "class", Naming.dataType entity.name,
        ":", Naming.contractType entity.name, "\x7b"] := by
    simp (disch := simp +decide) only [tokens_append_of_opens, tokens_append_of_ends,
      tokens_of_isWord (Naming.isWord_contractType hentity),
      tokens_of_isWord (Naming.isWord_dataType hentity)]
    rfl
  have hmembers : ClientMember.readAll? [] ((attrs.flatMap fun mapped =>
      [DataHolder.declarationLine options mapped.flat, ""].map tokens) ++ [["\x7d"], []]) =
        some (attrs.map fun mapped => (mapped.clientMember contractOptions).overriding) :=
    ClientMember.readAll?_flatMap fun mapped hmapped =>
      (hnames mapped hmapped).readAll?_override options contractOptions
  have hlines : (Kind.dataHolder.body options entity attrs).map tokens ++ [[]] =
      ["open", "class", Naming.dataType entity.name, ":", Naming.contractType entity.name,
        "\x7b"] :: [] :: ((attrs.flatMap fun mapped =>
          [DataHolder.declarationLine options mapped.flat, ""].map tokens) ++ [["\x7d"], []]) := by
    change (DataHolder.body options entity.name (DataHolder.properties attrs)).map tokens ++ _ = _
    rw [DataHolder.body, DataHolder.properties, List.flatMap_map, List.map_append,
      List.map_append, List.map_flatMap, List.map_cons, hopening, List.append_assoc,
      List.append_assoc]
    rfl
  rw [hlines, ofLines?, ClientMember.readAll?, hmembers, List.map_map]
  rfl

end ClientType

/-! ## Contributions of attributes -/

namespace EntitySet

/-- The property that an attribute is flattened into, by name and scalar: its own, or the key by
which it refers to the first identifier of its target. -/
inductive FlattensInto (set : EntitySet) (attr : Attribute) : String → Scalar → Prop where
  | own {type : ColumnType} {scalar : Scalar} (hcolumn : attr.columnType = some type)
      (hscalar : type.scalar? = some scalar) :
      FlattensInto set attr (Text.decapitalized attr.name) scalar
  | key {target : Entity} {place : Nat} {identifier : Attribute} {kind : IdKind} {generated : Bool}
      (hmem : target ∈ set.entities) (hcolumn : attr.columnType = some (.manyToOne target.name))
      (hfirst : IsFirstIdentifier target.attributes place identifier)
      (hidentifier : identifier.columnType = some (.identifier kind generated)) :
      FlattensInto set attr (Text.decapitalized attr.name ++ Text.capitalized identifier.name)
        kind.scalar

/-- An attribute that is mapped is flattened into its property in client-facing data. -/
theorem MapsTo.flattensInto {set : EntitySet} {owner : String} {attr : Attribute}
    {type : MappedType} (h : set.MapsTo owner attr type) :
    set.FlattensInto attr (MappedAttribute.mk attr type).flat.name
      (MappedAttribute.mk attr type).flat.scalar := by
  cases h with
  | identifier hcolumn | version hcolumn | basic hcolumn => exact .own hcolumn rfl
  | @manyToOne _ target hcolumn hresolved =>
    obtain ⟨found, hfound, rfl, htarget⟩ := exists_entity_of_resolveTarget hresolved
    obtain ⟨_, identifier, _, hfirst, hidentifier, hname⟩ :=
      Entity.exists_isFirstIdentifier htarget
    change set.FlattensInto attr
      (Text.decapitalized attr.name ++ Text.capitalized target.identifierName) target.idKind.scalar
    rw [hname]
    exact .key hfound hcolumn hfirst hidentifier

/-- Whether a member of a contract is what an attribute contributes to it. -/
structure Contributes (set : EntitySet) (options : Options) (attr : Attribute)
    (member : ClientMember) : Prop where
  markers : member.markers =
    if options.constrainedData then attr.constraints.map Constraint.name else []
  overrides : member.overrides = false
  flattens : ∃ scalar, set.FlattensInto attr member.name scalar ∧ member.type = scalar.kotlinName

/-- Every attribute that is mapped contributes its member. -/
theorem forall₂_contributes {set : EntitySet} {entity : Entity} {attrs : List MappedAttribute}
    (h : set.mapEntity entity = .ok attrs) (options : Options) :
    List.Forall₂ (set.Contributes options) entity.attributes
      (attrs.map (MappedAttribute.clientMember options)) := by
  refine List.forall₂_map_right_iff.mpr ((mapEntity_eq_ok_iff.mp h).imp ?_)
  intro attr mapped hmapped
  obtain ⟨type, rfl, htype⟩ := mapAttribute_eq_ok_iff.mp hmapped
  refine ⟨?_, rfl, _, htype.flattensInto, rfl⟩
  rw [MappedAttribute.clientMember, MappedAttribute.contractProperty]
  split <;> rfl

variable {set : EntitySet} {options : Options} {entity : Entity} {kind : Kind}
  {artifact : Artifact}

/-- The artifacts of client-facing data are read as a type each, whichever options they are written
with. The contract has one member per attribute, behind the markers of its constraints, and the
data holder implements the contract by overriding the same members in the same order. -/
theorem dataHolder_implements_contract (hnames : set.HasIdentifierNames)
    (hpackages : set.HasPackageNamesOnOneLine) (hentity : entity ∈ set.entities)
    (hrender : set.render options entity kind = .ok artifact)
    (contractOptions holderOptions : Options) :
    ∃ contract holder members,
      set.render contractOptions entity .contract = .ok contract ∧
      set.render holderOptions entity .dataHolder = .ok holder ∧
      ClientType.ofText? contract.contents =
        some ⟨Naming.contractType entity.name, none, members⟩ ∧
      ClientType.ofText? holder.contents =
        some ⟨Naming.dataType entity.name, some (Naming.contractType entity.name),
          members.map ClientMember.overriding⟩ ∧
      List.Forall₂ (set.Contributes contractOptions) entity.attributes members := by
  obtain ⟨attrs, hattrs, -⟩ := render_eq_ok_iff.mp hrender
  have hentityName := (hnames entity hentity).1
  have hmapped := hnames.mapped hentity hattrs
  have hprelude (options : Options) (kind : Kind) :=
    isPreludeLine_of_emit hnames hpackages hentity (emit_of_mapEntity hattrs options kind)
  refine ⟨entity.artifact contractOptions attrs .contract,
    entity.artifact holderOptions attrs .dataHolder,
    attrs.map (MappedAttribute.clientMember contractOptions),
    render_eq_ok_iff.mpr ⟨attrs, hattrs, rfl⟩, render_eq_ok_iff.mpr ⟨attrs, hattrs, rfl⟩,
    ?contract, ?dataHolder, forall₂_contributes hattrs contractOptions⟩
  case contract =>
    exact (ClientType.ofText?_text (hprelude contractOptions .contract)
      (Contract.notMem_of_mem_body contractOptions hentityName hmapped)).trans
        (ClientType.ofLines?_contract contractOptions hentityName hmapped)
  case dataHolder =>
    exact (ClientType.ofText?_text (hprelude holderOptions .dataHolder)
      (DataHolder.notMem_of_mem_body holderOptions hentityName hmapped)).trans
        (ClientType.ofLines?_dataHolder holderOptions hentityName hmapped contractOptions)

end EntitySet

/-- Notes and their authors. A note has a constraint twice, and one on its author. -/
def noteAndAuthor : EntitySet where
  entities :=
    [{ name := "note", packageName := "desk",
       attributes :=
        [{ name := "id", columnType := some (.identifier .long true) },
          { name := "Text", columnType := some (.basic (.string none)),
            constraints := [.notNull, .notBlank, .notNull] },
          { name := "author", columnType := some (.manyToOne "author"),
            constraints := [.notNull] }] },
      { name := "author",
        attributes :=
        [{ name := "born", columnType := some (.basic .zonedDateTime) },
          { name := "penName", columnType := some (.identifier .uuid false) }] }]
  names_nodup := by decide
  attributes_nodup := by decide

namespace noteAndAuthor

theorem hasIdentifierNames : noteAndAuthor.HasIdentifierNames := by
  unfold EntitySet.HasIdentifierNames
  decide

theorem exists_mapEntity :
    ∀ entity ∈ noteAndAuthor.entities, ∃ attrs, noteAndAuthor.mapEntity entity = .ok attrs := by
  have hmaps : ∀ entity ∈ noteAndAuthor.entities,
      (noteAndAuthor.mapEntity entity).isOk = true := by
    decide
  exact fun entity hentity => exists_eq_ok_of_isOk (hmaps entity hentity)

end noteAndAuthor

/-- Both entities are rendered, the contract with markers and the data holder with state cells. -/
theorem EntitySet.dataHolder_implements_contract_noteAndAuthor :
    noteAndAuthor.HasIdentifierNames ∧ noteAndAuthor.HasPackageNamesOnOneLine ∧
      ∀ entity ∈ noteAndAuthor.entities, ∃ contract holder members,
        noteAndAuthor.render {} entity .contract = .ok contract ∧
        noteAndAuthor.render { composableData := true } entity .dataHolder = .ok holder ∧
        ClientType.ofText? contract.contents =
          some ⟨Naming.contractType entity.name, none, members⟩ ∧
        ClientType.ofText? holder.contents =
          some ⟨Naming.dataType entity.name, some (Naming.contractType entity.name),
            members.map ClientMember.overriding⟩ ∧
        List.Forall₂ (noteAndAuthor.Contributes {}) entity.attributes members := by
  have hpackages : noteAndAuthor.HasPackageNamesOnOneLine := by
    unfold EntitySet.HasPackageNamesOnOneLine
    decide
  refine ⟨noteAndAuthor.hasIdentifierNames, hpackages, fun entity hentity => ?_⟩
  obtain ⟨attrs, hattrs⟩ := noteAndAuthor.exists_mapEntity entity hentity
  exact dataHolder_implements_contract noteAndAuthor.hasIdentifierNames hpackages hentity
    (render_eq_ok_iff.mpr ⟨attrs, hattrs, rfl⟩ : noteAndAuthor.render {} entity .contract = _)
    {} { composableData := true }

end PersistenceLayer
