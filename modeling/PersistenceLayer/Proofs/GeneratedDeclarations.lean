import PersistenceLayer.Proofs.SourceLines

/-!
# Declarations of generated sources

Which properties and handles a generated source declares is read off the lines of
its text. A contract declares one property per attribute and a metamodel one
handle, each in the order of the attributes; so does a persisted class unless a
name between quotes breaks its line. Annotations say which properties of a
persisted class are identifiers.
-/

namespace PersistenceLayer

open Text (tokens isWord opensWithSign endsWithSign tokens_of_isWord tokens_append_of_opens
  tokens_append_of_ends)

/-! ## Generated files -/

/-- Whether a file is what a run in memory generates as an artifact of an entity. -/
structure Generates (set : EntitySet) (options : Options) (artifacts : List Artifact)
    (entity : Entity) (kind : Kind) (file : SourceFile) : Prop where
  emitted : set.emit options entity kind = .ok file
  rendered : entity.artifactOf kind file ∈ artifacts

/-- Whether an attribute is a relationship to an entity of which an artifact is the given file. -/
structure RelatesTo (set : EntitySet) (options : Options) (artifacts : List Artifact)
    (attr : Attribute) (target : Entity) (kind : Kind) (file : SourceFile) : Prop where
  columnType : attr.columnType = some (.manyToOne target.name)
  mem : target ∈ set.entities
  generates : Generates set options artifacts target kind file

namespace EntitySet

variable {set : EntitySet} {options : Options} {artifacts : List Artifact} {entity : Entity}

/-- A full run generates every artifact of an entity from its mapped attributes. -/
theorem exists_generates (hfull : options.onlyData = false)
    (h : set.renderAll options = .ok artifacts) (hentity : entity ∈ set.entities) :
    ∃ attrs, set.mapEntity entity = .ok attrs ∧
      ∀ kind, Generates set options artifacts entity kind
        (kind.sourceFile options entity attrs) := by
  obtain ⟨rendered, hrendered, hmem⟩ := exists_rendered_of_mem h hentity
  obtain ⟨attrs, hattrs, rfl⟩ := renderEntity_eq_ok_iff.mp hrendered
  refine ⟨attrs, hattrs, fun kind => ⟨emit_of_mapEntity hattrs options kind, hmem _ ?_⟩⟩
  have hkind : kind ∈ Kind.ofOptions options := by
    rw [Kind.ofOptions, hfull]
    cases kind <;> decide
  exact List.mem_map_of_mem hkind

end EntitySet

/-- A team, which has two identifiers, and its members, who may have a mentor among them. -/
def teamAndMember : EntitySet where
  entities :=
    [{ name := "team", packageName := "org",
       attributes :=
        [{ name := "Code", columnType := some (.identifier .uuid true) },
          { name := "number", columnType := some (.identifier .integer false) },
          { name := "emblem", columnType := some (.basic .byteArray) }] },
      { name := "Member",
        attributes :=
        [{ name := "id", columnType := some (.identifier .long true) },
          { name := "version", columnType := some (.version .integer) },
          { name := "name", columnType := some (.basic (.string none)) },
          { name := "team", columnType := some (.manyToOne "team"),
            columnName := some "team_code" },
          { name := "Mentor", columnType := some (.manyToOne "Member"),
            isInsertable := some false }] }]
  names_nodup := by decide
  attributes_nodup := by decide

namespace teamAndMember

/-- The names of the set are identifiers. -/
theorem hasIdentifierNames : teamAndMember.HasIdentifierNames := by
  unfold EntitySet.HasIdentifierNames
  decide

/-- The only name that is put between quotes is plain. -/
theorem hasPlainNames (isLetter : Char → Bool) :
    ∀ entity ∈ teamAndMember.entities, entity.HasPlainNames isLetter := by
  have hordinary : ∀ entity ∈ teamAndMember.entities, ∀ name ∈ entity.quotedNames,
      name.toList.all StringLiteral.isOrdinary = true := by decide
  exact fun entity hentity => Entity.hasPlainNames_of_isOrdinary (hordinary entity hentity)

/-- The set is rendered in full. -/
theorem exists_renderAll : ∃ artifacts, teamAndMember.renderAll {} = .ok artifacts :=
  exists_eq_ok_of_isOk (by decide +kernel)

end teamAndMember

/-! ## Reading declarations -/

/-- A property that a source declares. -/
structure DeclaredProperty where
  name : String
  type : String
  deriving DecidableEq, Repr

/-- The property that the tokens of a line declare, if they do. -/
def DeclaredProperty.ofTokens? : List String → Option DeclaredProperty
  | ["var", name, ":", type, "?"] => some ⟨name, type⟩
  | ["open", "var", name, ":", type, "?", "=", "null"] => some ⟨name, type⟩
  | _ => none

/-- The property that a line declares, if it does. -/
def DeclaredProperty.ofLine? (line : String) : Option DeclaredProperty :=
  ofTokens? (tokens line)

/-- A handle that a metamodel declares, for a property of the given type and its owner. -/
structure DeclaredHandle where
  owner : String
  type : String
  name : String
  deriving DecidableEq, Repr

/-- The handle that the tokens of a line declare, if they do. -/
def DeclaredHandle.ofTokens? : List String → Option DeclaredHandle
  | ["public", "static", "volatile", "SingularAttribute", "<", owner, ",", type, ">", name, ";"] =>
    some ⟨owner, type, name⟩
  | ["public", "static", "volatile", "SingularAttribute", "<", owner, ",", type, "[", "]", ">",
      name, ";"] =>
    some ⟨owner, type ++ "[]", name⟩
  | _ => none

/-- The handle that a line declares, if it does. -/
def DeclaredHandle.ofLine? (line : String) : Option DeclaredHandle :=
  ofTokens? (tokens line)

namespace SourceFile

/-- The properties that a file declares on the lines of its text behind the prelude. -/
def properties (file : SourceFile) : List DeclaredProperty :=
  file.bodyLines.filterMap DeclaredProperty.ofLine?

/-- The handles that a file declares on the lines of its text behind the prelude. -/
def handles (file : SourceFile) : List DeclaredHandle :=
  file.bodyLines.filterMap DeclaredHandle.ofLine?

/-- Whether a line marks the property below it as an identifier. -/
def marksIdentifier (line : String) : Bool :=
  tokens line == ["@", "get", ":", "Id"]

/-- The first property of a file that is marked as an identifier, on the lines of its text behind
the prelude. -/
def identifierProperty? (file : SourceFile) : Option DeclaredProperty :=
  ((file.bodyLines.dropWhile fun line => !marksIdentifier line).filterMap
    DeclaredProperty.ofLine?).head?

end SourceFile

/-- What is read from the lines of some items, if one thing is read from each item's. -/
theorem filterMap_flatMap_eq_map {α β γ : Type} {items : List α} {lines : α → List β}
    {read : β → Option γ} {result : α → γ}
    (h : ∀ item ∈ items, (lines item).filterMap read = [result item]) :
    (items.flatMap lines).filterMap read = items.map result := by
  rw [List.filterMap_flatMap, List.map_eq_flatMap]
  exact List.flatMap_congr h

/-- What is read from lines that are written for items one after the other. -/
theorem mapM_map_eq_some {α β γ : Type} {items : List α} {write : α → β} {read : β → Option γ}
    {result : α → γ} (h : ∀ item ∈ items, read (write item) = some (result item)) :
    (items.map write).mapM read = some (items.map result) := by
  induction items with
  | nil => rfl
  | cons item items ih =>
    obtain ⟨hitem, hitems⟩ := List.forall_mem_cons.mp h
    rw [List.map_cons, List.mapM_cons, hitem, ih hitems]
    rfl

/-- What is read from the lines of some items, if all lines of each are read. -/
theorem mapM_flatMap_eq_some {α β γ : Type} {items : List α} {lines : α → List β}
    {read : β → Option γ} {result : α → List γ}
    (h : ∀ item ∈ items, (lines item).mapM read = some (result item)) :
    (items.flatMap lines).mapM read = some (items.flatMap result) := by
  induction items with
  | nil => rfl
  | cons item items ih =>
    obtain ⟨hitem, hitems⟩ := List.forall_mem_cons.mp h
    rw [List.flatMap_cons, List.mapM_append, hitem, ih hitems]
    rfl

/-- Lines are passed over up to those of the first item that does not begin like the others. -/
theorem dropWhile_flatMap {α β : Type} {items : List α} {lines : α → List β} {skips : β → Bool}
    {place : Nat} {item : α} {first : β} {closing : List β} (hplace : items[place]? = some item)
    (hearlier : ∀ other ∈ items.take place, ∀ line ∈ lines other, skips line = true)
    (hitem : ∃ rest, lines item = first :: rest) (hfirst : ¬ skips first = true) :
    (items.flatMap lines ++ closing).dropWhile skips =
      lines item ++ ((items.drop (place + 1)).flatMap lines ++ closing) := by
  induction items generalizing place with
  | nil => cases hplace
  | cons other items ih =>
    rw [List.flatMap_cons, List.append_assoc]
    cases place with
    | zero =>
      obtain rfl := Option.some.inj hplace
      obtain ⟨rest, hrest⟩ := hitem
      rw [hrest, List.cons_append, List.dropWhile_cons_of_neg hfirst]
      rfl
    | succ place =>
      rw [List.take_succ_cons, List.forall_mem_cons] at hearlier
      rw [List.dropWhile_append_of_pos hearlier.1, ih hplace hearlier.2]
      rfl

/-! ## Contracts -/

namespace ContractProperty

/-- The line that declares a property of a contract, by its tokens. -/
theorem tokens_line {name type : String} (hname : isWord name = true)
    (htype : isWord type = true) :
    tokens ("    var " ++ name ++ ": " ++ type ++ "?") = ["var", name, ":", type, "?"] := by
  simp (disch := simp +decide) only [tokens_append_of_opens, tokens_append_of_ends,
    tokens_of_isWord hname, tokens_of_isWord htype]
  rfl

/-- The line that declares a property of a contract is read back. -/
theorem ofLine?_declarationLine {property : FlatProperty} (hname : isWord property.name = true) :
    DeclaredProperty.ofLine? (declarationLine property) =
      some ⟨property.name, property.scalar.kotlinName⟩ := by
  have htokens : tokens (declarationLine property) = _ :=
    tokens_line hname property.scalar.isWord_kotlinName
  rw [DeclaredProperty.ofLine?, htokens]
  rfl

/-- The lines of a property declare it and nothing else. -/
theorem filterMap_lines {property : ContractProperty}
    (hname : isWord property.property.name = true) :
    property.lines.filterMap DeclaredProperty.ofLine? =
      [⟨property.property.name, property.property.scalar.kotlinName⟩] := by
  have hmarkers : (property.markers.map markerLine).filterMap DeclaredProperty.ofLine? = [] := by
    rw [List.filterMap_eq_nil_iff, List.forall_mem_map]
    intro constraint _
    rw [markerLine, DeclaredProperty.ofLine?, tokens_append_of_ends (by decide)]
    rfl
  rw [lines, List.filterMap_append, hmarkers, List.nil_append,
    List.filterMap_cons_some (ofLine?_declarationLine hname)]
  rfl

end ContractProperty

/-- A contract declares one property per attribute. -/
theorem SourceFile.properties_contract {options : Options} {entity : Entity}
    {attrs : List MappedAttribute} (hentity : Text.isIdentifier entity.name = true)
    (hnames : ∀ mapped ∈ attrs, mapped.HasIdentifierNames) :
    (Kind.contract.sourceFile options entity attrs).properties =
      attrs.map fun mapped => ⟨mapped.flat.name, mapped.flat.scalar.kotlinName⟩ := by
  have hopening : DeclaredProperty.ofLine?
      ("interface " ++ Naming.contractType entity.name ++ " \x7b") = none := by
    rw [String.append_assoc, DeclaredProperty.ofLine?, tokens_append_of_ends (by decide)]
    rfl
  have hproperties : ((Contract.properties options attrs).flatMap
      ContractProperty.lines).filterMap DeclaredProperty.ofLine? =
        (Contract.properties options attrs).map fun property =>
          ⟨property.property.name, property.property.scalar.kotlinName⟩ := by
    refine filterMap_flatMap_eq_map fun property hproperty => ?_
    obtain ⟨mapped, hmapped, rfl⟩ := List.mem_map.mp hproperty
    exact ContractProperty.filterMap_lines (hnames mapped hmapped).isWord_flat
  have hbody : (Kind.contract.sourceFile options entity attrs).bodyLines =
      Contract.body entity.name (Contract.properties options attrs) :=
    bodyLines_of_ne_persisted options hentity hnames (by decide)
  rw [properties, hbody, Contract.body, List.filterMap_append, List.filterMap_append, hproperties,
    List.filterMap_cons_none hopening, Contract.properties, List.map_map]
  exact List.append_nil _

/-! ## Data holders -/

/-- What follows the type of a property in a data holder opens with a sign. -/
theorem DataHolder.tokens_line {name type : String} (options : Options)
    (hname : isWord name = true) (htype : isWord type = true) :
    tokens ("    override var " ++ name ++ ": " ++ type ++ "?" ++ initializer options) =
      ["override", "var", name, ":", type, "?"] ++ tokens (initializer options) := by
  have hends : endsWithSign ("    override var " ++ name ++ ": " ++ type ++ "?") = true := by
    simp +decide
  rw [tokens_append_of_ends hends]
  simp (disch := simp +decide) only [tokens_append_of_opens, tokens_append_of_ends,
    tokens_of_isWord hname, tokens_of_isWord htype]
  rfl

/-! ## Persisted classes -/

/-- An annotation is read as its name and its parameters. -/
theorem Annotation.tokens_render (mark : Annotation) :
    tokens mark.render = "@" :: tokens mark.name ++ tokens (parameterList mark.parameters) := by
  have hparameters : opensWithSign (parameterList mark.parameters) = true := by
    rw [parameterList]
    split
    · decide
    · simp +decide
  rw [render, tokens_append_of_opens hparameters, tokens_append_of_ends (by decide)]
  rfl

namespace PersistedProperty

/-- The line that declares a property of a persisted class, by its tokens. -/
theorem tokens_line {name type : String} (hname : isWord name = true)
    (htype : isWord type = true) :
    tokens ("    open var " ++ name ++ ": " ++ type ++ "? = null") =
      ["open", "var", name, ":", type, "?", "=", "null"] := by
  simp (disch := simp +decide) only [tokens_append_of_opens, tokens_append_of_ends,
    tokens_of_isWord hname, tokens_of_isWord htype]
  rfl

/-- The lines of a property declare it and nothing else. -/
theorem filterMap_lines (property : PersistedProperty) (hname : isWord property.name = true)
    (htype : isWord property.type.kotlinName = true) :
    (property.lines ++ [""]).filterMap DeclaredProperty.ofLine? =
      [⟨property.name, property.type.kotlinName⟩] := by
  have hannotations : (property.annotations.map fun mark => "    " ++ mark.render).filterMap
      DeclaredProperty.ofLine? = [] := by
    rw [List.filterMap_eq_nil_iff, List.forall_mem_map]
    intro mark _
    rw [DeclaredProperty.ofLine?, Text.tokens_indented, mark.tokens_render]
    rfl
  have hdeclaration : DeclaredProperty.ofLine? property.declarationLine =
      some ⟨property.name, property.type.kotlinName⟩ := by
    have htokens : tokens property.declarationLine = _ := tokens_line hname htype
    rw [DeclaredProperty.ofLine?, htokens]
    rfl
  rw [lines, List.filterMap_append, List.filterMap_append, hannotations, List.nil_append,
    List.filterMap_cons_some hdeclaration]
  rfl

end PersistedProperty

/-- A persisted class whose names between quotes have no line breaks declares one property per
attribute. -/
theorem SourceFile.properties_persisted {options : Options} {entity : Entity}
    {attrs : List MappedAttribute} (hentity : Text.isIdentifier entity.name = true)
    (hnames : ∀ mapped ∈ attrs, mapped.HasIdentifierNames)
    (hquotes : entity.QuotesOnOneLine attrs) :
    (Kind.persisted.sourceFile options entity attrs).properties =
      attrs.map fun mapped => ⟨mapped.property, mapped.valueType.kotlinName⟩ := by
  have hannotations : ((Persisted.classAnnotations entity).map Annotation.render).filterMap
      DeclaredProperty.ofLine? = [] := by
    rw [List.filterMap_eq_nil_iff, List.forall_mem_map]
    intro mark _
    rw [DeclaredProperty.ofLine?, mark.tokens_render]
    rfl
  have hopening : DeclaredProperty.ofLine?
      ("open class " ++ Naming.entityType entity.name ++ " \x7b") = none := by
    rw [String.append_assoc, DeclaredProperty.ofLine?, tokens_append_of_ends (by decide)]
    rfl
  have hproperties : ((Persisted.properties attrs).flatMap fun property =>
      property.lines ++ [""]).filterMap DeclaredProperty.ofLine? =
        (Persisted.properties attrs).map fun property =>
          ⟨property.name, property.type.kotlinName⟩ := by
    refine filterMap_flatMap_eq_map fun property hproperty => ?_
    obtain ⟨mapped, hmapped, rfl⟩ := List.mem_map.mp hproperty
    have h := hnames mapped hmapped
    exact PersistedProperty.filterMap_lines _ h.isWord_property h.isWord_kotlinName
  have hbody : (Kind.persisted.sourceFile options entity attrs).bodyLines =
      Persisted.body entity.name (Persisted.classAnnotations entity)
        (Persisted.properties attrs) :=
    bodyLines_sourceFile options hentity hnames .persisted fun _ => hquotes
  rw [properties, hbody, Persisted.body, List.filterMap_append, List.filterMap_append,
    List.filterMap_append, hannotations, hproperties, List.filterMap_cons_none hopening,
    Persisted.properties, List.map_map]
  exact List.append_nil _

/-! ### Identifiers -/

/-- An annotation of a property marks it as an identifier by its name alone. -/
theorem Annotation.marksIdentifier_render {name word : String}
    (hname : tokens name = ["get", ":", word]) (hne : word ≠ "Id") (parameters : List Parameter) :
    SourceFile.marksIdentifier ("    " ++ render ⟨name, parameters⟩) = false := by
  rw [SourceFile.marksIdentifier, Text.tokens_indented, tokens_render, hname]
  simp [hne]

/-- A property is not marked as an identifier unless its attribute is one. -/
theorem MappedAttribute.HasIdentifierNames.marksIdentifier_eq_false {mapped : MappedAttribute}
    (h : mapped.HasIdentifierNames)
    (htype : ∀ kind generated, mapped.type ≠ .identifier kind generated) :
    ∀ line ∈ mapped.persistedProperty.lines ++ [""], SourceFile.marksIdentifier line = false := by
  have hannotations : ∀ mark ∈ mapped.annotations,
      SourceFile.marksIdentifier ("    " ++ mark.render) = false := by
    have hcolumn : tokens "get:Column" = ["get", ":", "Column"] := by decide
    have hversion : tokens "get:Version" = ["get", ":", "Version"] := by decide
    have hrelationship : tokens "get:ManyToOne" = ["get", ":", "ManyToOne"] := by decide
    have hjoin : tokens "get:JoinColumn" = ["get", ":", "JoinColumn"] := by decide
    rw [annotations]
    cases hmapped : mapped.type with
    | identifier kind generated => exact absurd hmapped (htype kind generated)
    | version =>
      simp [versionAnnotations, Annotation.marksIdentifier_render hversion,
        Annotation.marksIdentifier_render hcolumn]
    | basic => simp [basicAnnotations, Annotation.marksIdentifier_render hcolumn]
    | manyToOne =>
      simp [relationshipAnnotations, Annotation.marksIdentifier_render hrelationship,
        Annotation.marksIdentifier_render hjoin]
  have hdeclaration :
      SourceFile.marksIdentifier mapped.persistedProperty.declarationLine = false := by
    have htokens : tokens mapped.persistedProperty.declarationLine = _ :=
      PersistedProperty.tokens_line h.isWord_property h.isWord_kotlinName
    rw [SourceFile.marksIdentifier, htokens]
    rfl
  have hempty : SourceFile.marksIdentifier "" = false := by decide
  rw [PersistedProperty.lines, List.forall_mem_append, List.forall_mem_append, List.forall_mem_map,
    List.forall_mem_singleton, List.forall_mem_singleton]
  exact ⟨⟨hannotations, hdeclaration⟩, hempty⟩

/-- The first of the lines of an identifier marks it. -/
theorem MappedAttribute.exists_lines_of_identifier {mapped : MappedAttribute} {kind : IdKind}
    {generated : Bool} (htype : mapped.type = .identifier kind generated) :
    ∃ others, mapped.persistedProperty.lines ++ [""] = "    @get:Id" :: others := by
  have hannotations : mapped.annotations = ⟨"get:Id", []⟩ ::
      (identifierAnnotations kind generated mapped.source.columnParameters).tail := by
    rw [annotations, htype]
    rfl
  rw [PersistedProperty.lines, persistedProperty, hannotations]
  exact ⟨_, rfl⟩

/-- Nothing above the properties of a persisted class marks an identifier. -/
theorem Persisted.marksIdentifier_opening (entity : Entity) :
    ∀ line ∈ (classAnnotations entity).map Annotation.render ++
      ["open class " ++ Naming.entityType entity.name ++ " \x7b", ""],
      SourceFile.marksIdentifier line = false := by
  have hannotations : ∀ mark ∈ classAnnotations entity,
      SourceFile.marksIdentifier mark.render = false := by
    have hentity : tokens "Entity" = ["Entity"] := by decide
    have htable : tokens "Table" = ["Table"] := by decide
    simp [classAnnotations, SourceFile.marksIdentifier, Annotation.tokens_render, hentity, htable]
  have hclass : SourceFile.marksIdentifier
      ("open class " ++ Naming.entityType entity.name ++ " \x7b") = false := by
    rw [SourceFile.marksIdentifier, String.append_assoc, tokens_append_of_ends (by decide)]
    rfl
  have hempty : SourceFile.marksIdentifier "" = false := by decide
  rw [List.forall_mem_append, List.forall_mem_map, List.forall_mem_cons,
    List.forall_mem_singleton]
  exact ⟨hannotations, hclass, hempty⟩

/-- The first property of a persisted class that is marked as an identifier is that of the first
identifier, if names between quotes have no line breaks. -/
theorem SourceFile.identifierProperty?_persisted {options : Options} {entity : Entity}
    {attrs : List MappedAttribute} (hentity : Text.isIdentifier entity.name = true)
    (hnames : ∀ mapped ∈ attrs, mapped.HasIdentifierNames)
    (hquotes : entity.QuotesOnOneLine attrs)
    {place : Nat} {mapped : MappedAttribute} {kind : IdKind} {generated : Bool}
    (hplace : attrs[place]? = some mapped) (htype : mapped.type = .identifier kind generated)
    (hearlier : ∀ other ∈ attrs.take place, ∀ kind generated,
      other.type ≠ .identifier kind generated) :
    (Kind.persisted.sourceFile options entity attrs).identifierProperty? =
      some ⟨mapped.property, mapped.valueType.kotlinName⟩ := by
  let lines (mapped : MappedAttribute) := mapped.persistedProperty.lines ++ [""]
  have hbody : (Kind.persisted.sourceFile options entity attrs).bodyLines =
      (Persisted.classAnnotations entity).map Annotation.render ++
        ["open class " ++ Naming.entityType entity.name ++ " \x7b", ""] ++
      (attrs.flatMap lines ++ ["\x7d"]) := by
    rw [bodyLines_sourceFile options hentity hnames .persisted fun _ => hquotes]
    change Persisted.body entity.name (Persisted.classAnnotations entity)
      (Persisted.properties attrs) = _
    rw [Persisted.body, Persisted.properties, List.flatMap_map, List.append_assoc]
  have hopening : ∀ line ∈ (Persisted.classAnnotations entity).map Annotation.render ++
      ["open class " ++ Naming.entityType entity.name ++ " \x7b", ""],
      (!marksIdentifier line) = true := by
    simpa only [Bool.not_eq_true'] using Persisted.marksIdentifier_opening entity
  have hothers : ∀ other ∈ attrs.take place, ∀ line ∈ lines other,
      (!marksIdentifier line) = true := by
    intro other hother
    simpa only [Bool.not_eq_true'] using
      (hnames other (List.mem_of_mem_take hother)).marksIdentifier_eq_false (hearlier other hother)
  have hmark : ∃ rest, lines mapped = "    @get:Id" :: rest :=
    MappedAttribute.exists_lines_of_identifier htype
  have h := hnames mapped (List.mem_of_getElem? hplace)
  have hfirst : (lines mapped).filterMap DeclaredProperty.ofLine? =
      [⟨mapped.property, mapped.valueType.kotlinName⟩] :=
    mapped.persistedProperty.filterMap_lines h.isWord_property h.isWord_kotlinName
  rw [identifierProperty?, hbody, List.dropWhile_append_of_pos hopening,
    dropWhile_flatMap hplace hothers hmark (by decide), List.filterMap_append, hfirst]
  rfl

/-! ## Metamodels -/

namespace Metamodel

/-- The line that declares a handle, by its tokens. -/
theorem tokens_line {owner type name : String} (howner : isWord owner = true)
    (hname : isWord name = true) :
    tokens ("    public static volatile SingularAttribute<" ++ owner ++ ", " ++ type ++ "> " ++
        name ++ ";") =
      ["public", "static", "volatile", "SingularAttribute", "<", owner, ","] ++
        (tokens type ++ [">", name, ";"]) := by
  simp (disch := simp +decide) only [tokens_append_of_opens, tokens_append_of_ends,
    tokens_of_isWord howner, tokens_of_isWord hname, List.append_assoc]
  rfl

/-- The line of a handle declares it. -/
theorem ofLine?_declarationLine {entity : String} (handle : Handle)
    (hentity : isWord (Naming.entityType entity) = true) (hname : isWord handle.name = true)
    (htype : handle.type = .scalar .byteArray ∨ isWord handle.type.javaName = true) :
    DeclaredHandle.ofLine? (declarationLine entity handle) =
      some ⟨Naming.entityType entity, handle.type.javaName, handle.name⟩ := by
  have htokens : tokens (declarationLine entity handle) = _ := tokens_line hentity hname
  rw [DeclaredHandle.ofLine?, htokens]
  rcases htype with htype | htype
  · have harray : tokens "byte[]" = ["byte", "[", "]"] := by decide
    rw [htype, ValueType.javaName, Scalar.javaName, harray]
    rfl
  · rw [tokens_of_isWord htype]
    rfl

end Metamodel

/-- A metamodel declares one handle per attribute. -/
theorem SourceFile.handles_metamodel {options : Options} {entity : Entity}
    {attrs : List MappedAttribute} (hentity : Text.isIdentifier entity.name = true)
    (hnames : ∀ mapped ∈ attrs, mapped.HasIdentifierNames) :
    (Kind.metamodel.sourceFile options entity attrs).handles =
      attrs.map fun mapped =>
        ⟨Naming.entityType entity.name, mapped.valueType.javaName, mapped.property⟩ := by
  have hannotation : DeclaredHandle.ofLine?
      ("@StaticMetamodel(" ++ Naming.entityType entity.name ++ ".class)") = none := by
    rw [String.append_assoc, DeclaredHandle.ofLine?, tokens_append_of_ends (by decide)]
    rfl
  have hclass : DeclaredHandle.ofLine?
      ("public class " ++ Naming.metamodelType entity.name ++ " \x7b") = none := by
    rw [String.append_assoc, DeclaredHandle.ofLine?, tokens_append_of_ends (by decide)]
    rfl
  have hhandles : ((Metamodel.handles attrs).flatMap fun handle =>
      [Metamodel.declarationLine entity.name handle, ""]).filterMap DeclaredHandle.ofLine? =
        (Metamodel.handles attrs).map fun handle =>
          ⟨Naming.entityType entity.name, handle.type.javaName, handle.name⟩ := by
    refine filterMap_flatMap_eq_map fun handle hhandle => ?_
    obtain ⟨mapped, hmapped, rfl⟩ := List.mem_map.mp hhandle
    have h := hnames mapped hmapped
    rw [List.filterMap_cons_some (Metamodel.ofLine?_declarationLine mapped.handle
      (Naming.isWord_entityType hentity) h.isWord_property h.isWord_javaName)]
    rfl
  have hbody : (Kind.metamodel.sourceFile options entity attrs).bodyLines =
      Metamodel.body entity.name (Metamodel.handles attrs) :=
    bodyLines_of_ne_persisted options hentity hnames (by decide)
  rw [handles, hbody, Metamodel.body, List.filterMap_append, List.filterMap_append, hhandles,
    List.filterMap_cons_none hannotation, List.filterMap_cons_none hclass, Metamodel.handles,
    List.map_map]
  exact List.append_nil _

/-! ## Declarations between quotes -/

/-- A user whose column of names goes by a name that ends its literal and its line, and goes on with
a marked property of its own. -/
def codedUser : Entity :=
  { name := "user",
    attributes :=
      [{ name := "name", columnType := some (.basic (.string none)),
         columnName := some ("name\")\n    @get:Id\n    open var code: BigDecimal? = null\n\n" ++
          "    @get:Column(name = \"name") },
        { name := "id", columnType := some (.identifier .long true) }] }

/-- A member, which refers to a user. -/
def codedMember : Entity :=
  { name := "member",
    attributes :=
      [{ name := "id", columnType := some (.identifier .long true) },
        { name := "user", columnType := some (.manyToOne "user") }] }

/-- Such a user and its members. -/
def codedUsers : EntitySet where
  entities := [codedUser, codedMember]
  names_nodup := by decide
  attributes_nodup := by decide

namespace codedUsers

/-- The names of the set are identifiers. -/
theorem hasIdentifierNames : codedUsers.HasIdentifierNames := by
  unfold EntitySet.HasIdentifierNames
  decide

/-- The set is rendered in full. -/
theorem exists_renderAll : ∃ artifacts, codedUsers.renderAll {} = .ok artifacts :=
  exists_eq_ok_of_isOk (by decide +kernel)

variable {file : SourceFile}

/-- The name of the column takes up several lines of the user's persisted class. -/
theorem bodyLines_persisted (h : codedUsers.emit {} codedUser .persisted = .ok file) :
    file.bodyLines =
      ["@Entity", "@Table", "open class UserEntity \x7b", "",
        "    @get:Column(name = \"name\")", "    @get:Id",
        "    open var code: BigDecimal? = null", "",
        "    @get:Column(name = \"name\")", "    open var name: String? = null", "",
        "    @get:Id", "    @get:GeneratedValue(strategy = GenerationType.IDENTITY)",
        "    @get:Column", "    open var id: Long? = null", "", "\x7d"] := by
  obtain rfl := Except.ok.inj h
  -- The parts of each line are found apart: the whole text takes the kernel far longer to split.
  rw [SourceFile.bodyLines_eq_flatMap]
  decide +kernel

/-- One property more is declared than the user has attributes. -/
theorem properties_persisted (h : codedUsers.emit {} codedUser .persisted = .ok file) :
    file.properties = [⟨"code", "BigDecimal"⟩, ⟨"name", "String"⟩, ⟨"id", "Long"⟩] := by
  rw [SourceFile.properties, bodyLines_persisted h]
  decide +kernel

/-- The first property that is marked as an identifier is that of no attribute. -/
theorem identifierProperty?_persisted (h : codedUsers.emit {} codedUser .persisted = .ok file) :
    file.identifierProperty? = some ⟨"code", "BigDecimal"⟩ := by
  rw [SourceFile.identifierProperty?, bodyLines_persisted h]
  decide +kernel

end codedUsers

end PersistenceLayer
