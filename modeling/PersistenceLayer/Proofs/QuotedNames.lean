import PersistenceLayer.Proofs.AttributeOrder
import PersistenceLayer.Proofs.ReadableAnnotations
import PersistenceLayer.Proofs.StringLiterals

/-!
# Names between quotes

The names that a table and its columns go by are put between quotes as they were
declared, and the parameter list goes on right behind the second quote. Nothing
in a name is escaped. So it is read as what was declared if it is plain, and
otherwise as something else, or not at all.
-/

namespace PersistenceLayer

/-! ## Parameters of an annotation -/

namespace Annotation

/-- How an annotation is written up to the argument of one of its parameters. -/
def opening (name : String) (earlier : List Parameter) (parameter : String) : String :=
  "@" ++ name ++ "(" ++ String.join (earlier.map fun other => other.render ++ ", ") ++
    parameter ++ " = "

/-- How an annotation is written behind one of its parameters. -/
def closing (later : List Parameter) : String :=
  String.join (later.map fun other => ", " ++ other.render) ++ ")"

/-- An annotation around the argument of one of its parameters. -/
theorem render_eq (name : String) (earlier later : List Parameter) (parameter : String)
    (argument : Argument) :
    render ⟨name, earlier ++ ⟨parameter, argument⟩ :: later⟩ =
      opening name earlier parameter ++ argument.render ++ closing later := by
  -- The comma between two parameters counts as a part of the second one, and then of the first.
  have hcommas : ∀ (first : Parameter) (earlier : List Parameter),
      first.render ++ String.join ((earlier ++ ⟨parameter, argument⟩ :: later).map
          fun other => ", " ++ other.render) =
        String.join ((first :: earlier).map fun other => other.render ++ ", ") ++
          (parameter ++ " = " ++ argument.render ++
            String.join (later.map fun other => ", " ++ other.render)) := by
    intro first earlier
    induction earlier generalizing first with
    | nil => simp [Parameter.render, String.append_assoc]
    | cons other earlier ih => simpa [String.append_assoc] using ih other
  cases earlier with
  | nil =>
    simp only [render, List.nil_append, parameterList_cons, opening, closing, Parameter.render,
      List.map_nil, String.join_nil, String.append_empty, String.append_assoc]
  | cons first earlier =>
    rw [render, List.cons_append, parameterList_cons, opening, closing]
    simpa only [String.append_assoc] using
      congrArg (fun list => "@" ++ name ++ ("(" ++ list ++ ")")) (hcommas first earlier)

end Annotation

/-! ## Places in a generated text -/

/-- Whether a value stands between quotes in a text: in an annotation that begins with the opening
on a line of its own, where the parameter list goes on right behind the value and the next line
follows. The literal that begins there is the value exactly if the value is plain. -/
def StandsQuoted (isLetter : Char → Bool) (text opening value next : String) : Prop :=
  ∃ (before : List String) (later : List Parameter) (behind : List String) (after : String),
    after = Annotation.closing later ++ "\n" ++ next ++ "\n" ++ SourceFile.unlines behind ∧
    text = SourceFile.unlines before ++ opening ++ "\"" ++ value ++ "\"" ++ after ∧
    (StringLiteral.read? isLetter ("\"" ++ value ++ "\"" ++ after).toList =
        some (value.toList.flatMap StringLiteral.units, after.toList) ↔
      StringLiteral.IsPlain isLetter value.toList after.toList)

/-- An annotation with a quoted argument stands on a line of its own, and another line follows. -/
theorem standsQuoted_of_lines (isLetter : Char → Bool) {text opening value line next : String}
    {before behind : List String} {later : List Parameter}
    (htext : text = SourceFile.unlines (before ++ line :: next :: behind))
    (hline : line = opening ++ (Argument.text value).render ++ Annotation.closing later)
    (hvalue : value ≠ "") : StandsQuoted isLetter text opening value next := by
  refine ⟨before, later, behind, _, rfl, ?_, ?_⟩
  · have hcons : ∀ (line : String) (lines : List String),
        SourceFile.unlines (line :: lines) = line ++ "\n" ++ SourceFile.unlines lines := by
      simp [SourceFile.unlines]
    rw [htext, SourceFile.unlines_append, hcons, hcons, hline, Argument.render]
    simp only [String.append_assoc]
  · have hchars : ∀ after : String, ("\"" ++ value ++ "\"" ++ after).toList =
        '"' :: (value.toList ++ '"' :: after.toList) := by
      simp [String.toList_append]
    rw [hchars]
    exact StringLiteral.read?_eq_some_iff fun hnil => hvalue (String.toList_eq_nil_iff.mp hnil)

/-- A name that is not blank is not empty. -/
theorem Text.ne_empty_of_nonBlank? {name : Option String} {value : String}
    (h : nonBlank? name = some value) : value ≠ "" := by
  rintro rfl
  obtain ⟨-, hblank⟩ := Option.filter_eq_some_iff.mp h
  cases hblank

/-! ## Annotations of a persisted class -/

/-- The parameter of a name that is not blank. -/
theorem nameParameter_of_nonBlank? {parameter value : String} {name : Option String}
    (h : Text.nonBlank? name = some value) :
    nameParameter parameter name = [⟨parameter, .text value⟩] := by
  rw [nameParameter, h]
  rfl

/-- The annotation that has the parameters of an attribute's column. -/
def Attribute.columnMark (attr : Attribute) : String :=
  match attr.columnType with
  | some (.manyToOne _) => "get:JoinColumn"
  | _ => "get:Column"

/-- The annotation of a column comes last, and the name of the column first in it. -/
theorem EntitySet.MapsTo.exists_annotations {set : EntitySet} {owner : String} {attr : Attribute}
    {type : MappedType} (h : set.MapsTo owner attr type) {name : String}
    (hname : Text.nonBlank? attr.columnName = some name) :
    ∃ front later, MappedAttribute.annotations ⟨attr, type⟩ =
      front ++ [⟨attr.columnMark, [] ++ ⟨"name", .text name⟩ :: later⟩] := by
  have hcolumn : ∃ later, attr.columnParameters = ⟨"name", .text name⟩ :: later := by
    rw [Attribute.columnParameters, nameParameter_of_nonBlank? hname]
    exact ⟨_, rfl⟩
  obtain ⟨later, hlater⟩ := hcolumn
  rw [MappedAttribute.annotations, Attribute.columnMark]
  dsimp only
  rw [hlater]
  cases h with
  | @identifier kind generated hcolumn =>
    rw [hcolumn]
    exact ⟨[⟨"get:Id", []⟩] ++ (if generated then
      [⟨"get:GeneratedValue", [⟨"strategy", .constant kind.generationStrategy⟩]⟩] else []),
      later, rfl⟩
  | version hcolumn =>
    rw [hcolumn]
    exact ⟨[⟨"get:Version", []⟩], later, rfl⟩
  | basic hcolumn =>
    rw [hcolumn]
    exact ⟨[], _, rfl⟩
  | manyToOne hcolumn =>
    rw [hcolumn]
    exact ⟨[⟨"get:ManyToOne", []⟩], later, rfl⟩

namespace EntitySet

open Annotation (opening)

variable {set : EntitySet} {options : Options} {entity : Entity} {artifact : Artifact}
  {name : String} (isLetter : Char → Bool)

/-- The lines of a persisted class. -/
theorem exists_persisted_lines (h : set.render options entity .persisted = .ok artifact) :
    ∃ attrs prelude, set.mapEntity entity = .ok attrs ∧
      artifact.contents = SourceFile.unlines (prelude ++
        ((Persisted.classAnnotations entity).map Annotation.render ++
          ["open class " ++ Naming.entityType entity.name ++ " \x7b", ""] ++
          (Persisted.properties attrs).flatMap (fun property => property.lines ++ [""]) ++
          ["\x7d"])) := by
  obtain ⟨attrs, hattrs, rfl⟩ := render_eq_ok_iff.mp h
  exact ⟨attrs, SourceFile.preludeLines entity.packageName
    (Kind.persisted.sourceFile options entity attrs).imports .kotlin, hattrs, rfl⟩

/-- The name of a persisted class stands in front of the annotation of its table. -/
theorem standsQuoted_entityName (h : set.render options entity .persisted = .ok artifact)
    (hname : Text.nonBlank? entity.entityName = some name) :
    StandsQuoted isLetter artifact.contents (opening "Entity" [] "name") name
      (⟨"Table", nameParameter "name" entity.tableName ++
        nameParameter "schema" entity.tableSchema⟩ : Annotation).render := by
  obtain ⟨attrs, prelude, -, hcontents⟩ := exists_persisted_lines h
  have hline := Annotation.render_eq "Entity" [] [] "name" (.text name)
  rw [List.nil_append, ← nameParameter_of_nonBlank? hname] at hline
  exact standsQuoted_of_lines isLetter hcontents hline (Text.ne_empty_of_nonBlank? hname)

/-- The annotation of the table is followed by the class. -/
theorem exists_table_lines (h : set.render options entity .persisted = .ok artifact) :
    ∃ before behind, artifact.contents = SourceFile.unlines (before ++
      (⟨"Table", nameParameter "name" entity.tableName ++
        nameParameter "schema" entity.tableSchema⟩ : Annotation).render ::
      ("open class " ++ Naming.entityType entity.name ++ " \x7b") :: behind) := by
  obtain ⟨attrs, prelude, -, hcontents⟩ := exists_persisted_lines h
  refine ⟨prelude ++ [(⟨"Entity", nameParameter "name" entity.entityName⟩ : Annotation).render],
    [""] ++ (Persisted.properties attrs).flatMap (fun property => property.lines ++ [""]) ++
      ["\x7d"], ?_⟩
  rw [hcontents, List.append_assoc prelude]
  rfl

/-- The name of a table stands in front of its schema. -/
theorem standsQuoted_tableName (h : set.render options entity .persisted = .ok artifact)
    (hname : Text.nonBlank? entity.tableName = some name) :
    StandsQuoted isLetter artifact.contents (opening "Table" [] "name") name
      ("open class " ++ Naming.entityType entity.name ++ " \x7b") := by
  obtain ⟨before, behind, hcontents⟩ := exists_table_lines h
  have hline := Annotation.render_eq "Table" [] (nameParameter "schema" entity.tableSchema) "name"
    (.text name)
  rw [List.nil_append, ← List.singleton_append, ← nameParameter_of_nonBlank? hname] at hline
  exact standsQuoted_of_lines isLetter hcontents hline (Text.ne_empty_of_nonBlank? hname)

/-- The schema of a table stands behind its name. -/
theorem standsQuoted_tableSchema (h : set.render options entity .persisted = .ok artifact)
    (hname : Text.nonBlank? entity.tableSchema = some name) :
    StandsQuoted isLetter artifact.contents
      (opening "Table" (nameParameter "name" entity.tableName) "schema") name
      ("open class " ++ Naming.entityType entity.name ++ " \x7b") := by
  obtain ⟨before, behind, hcontents⟩ := exists_table_lines h
  have hline := Annotation.render_eq "Table" (nameParameter "name" entity.tableName) [] "schema"
    (.text name)
  rw [← nameParameter_of_nonBlank? hname] at hline
  exact standsQuoted_of_lines isLetter hcontents hline (Text.ne_empty_of_nonBlank? hname)

/-- The property of an attribute stands among the lines of a persisted class. -/
theorem exists_property_lines (h : set.render options entity .persisted = .ok artifact)
    {attr : Attribute} (hattr : attr ∈ entity.attributes) :
    ∃ type before behind, set.MapsTo entity.name attr type ∧
      artifact.contents = SourceFile.unlines (before ++
        ((MappedAttribute.persistedProperty ⟨attr, type⟩).lines ++ behind)) := by
  obtain ⟨attrs, prelude, hattrs, hcontents⟩ := exists_persisted_lines h
  obtain ⟨type, hmem, htype⟩ := exists_mapped_of_mem hattrs hattr
  obtain ⟨front, back, rfl⟩ := List.append_of_mem hmem
  refine ⟨type, prelude ++ ((Persisted.classAnnotations entity).map Annotation.render ++
      ["open class " ++ Naming.entityType entity.name ++ " \x7b", ""] ++
      (Persisted.properties front).flatMap (fun property => property.lines ++ [""])),
    [""] ++ (Persisted.properties back).flatMap (fun property => property.lines ++ [""]) ++
      ["\x7d"], htype, ?_⟩
  rw [hcontents, Persisted.properties, List.map_append, List.map_cons, List.flatMap_append,
    List.flatMap_cons]
  simp only [List.append_assoc]
  rfl

/-- The name of a column stands in front of the declaration of its property. -/
theorem exists_standsQuoted_columnName (h : set.render options entity .persisted = .ok artifact)
    {attr : Attribute} (hattr : attr ∈ entity.attributes)
    (hname : Text.nonBlank? attr.columnName = some name) :
    ∃ type, StandsQuoted isLetter artifact.contents
      ("    " ++ opening attr.columnMark [] "name") name
      ("    open var " ++ Naming.property attr.name ++ ": " ++ type ++ "? = null") := by
  obtain ⟨type, before, behind, htype, hcontents⟩ := exists_property_lines h hattr
  obtain ⟨marks, later, hmarks⟩ := htype.exists_annotations hname
  have hline : "    " ++ Annotation.render ⟨attr.columnMark, [] ++ ⟨"name", .text name⟩ :: later⟩ =
      "    " ++ opening attr.columnMark [] "name" ++ (Argument.text name).render ++
        Annotation.closing later := by
    simp only [String.append_assoc, Annotation.render_eq]
  rw [PersistedProperty.lines, MappedAttribute.persistedProperty, hmarks, List.map_append,
    List.append_assoc, List.append_assoc, ← List.append_assoc before] at hcontents
  exact ⟨_, standsQuoted_of_lines isLetter hcontents hline (Text.ne_empty_of_nonBlank? hname)⟩

/-- In the persisted class of an entity, the names of the class, its table with the schema, and its
columns stand between quotes as they were declared, unless they are blank. Each of them is read as
what it is exactly if it is plain. -/
theorem quotedNames_read_iff_plain (h : set.render options entity .persisted = .ok artifact) :
    (∀ name, Text.nonBlank? entity.entityName = some name →
      StandsQuoted isLetter artifact.contents (opening "Entity" [] "name") name
        (⟨"Table", nameParameter "name" entity.tableName ++
          nameParameter "schema" entity.tableSchema⟩ : Annotation).render) ∧
    (∀ name, Text.nonBlank? entity.tableName = some name →
      StandsQuoted isLetter artifact.contents (opening "Table" [] "name") name
        ("open class " ++ Naming.entityType entity.name ++ " \x7b")) ∧
    (∀ name, Text.nonBlank? entity.tableSchema = some name →
      StandsQuoted isLetter artifact.contents
        (opening "Table" (nameParameter "name" entity.tableName) "schema") name
        ("open class " ++ Naming.entityType entity.name ++ " \x7b")) ∧
    ∀ attr ∈ entity.attributes, ∀ name, Text.nonBlank? attr.columnName = some name →
      ∃ type, StandsQuoted isLetter artifact.contents
        ("    " ++ opening attr.columnMark [] "name") name
        ("    open var " ++ Naming.property attr.name ++ ": " ++ type ++ "? = null") :=
  ⟨fun _ => standsQuoted_entityName isLetter h, fun _ => standsQuoted_tableName isLetter h,
    fun _ => standsQuoted_tableSchema isLetter h,
    fun _ hattr _ => exists_standsQuoted_columnName isLetter h hattr⟩

end EntitySet

/-- An account, with a line break, a quote, a template and an escape in the names around it. -/
def awkwardAccount : Entity where
  name := "account"
  entityName := some "a\nb"
  tableName := some "a\"b"
  tableSchema := some "$_"
  attributes :=
    [{ name := "id", columnType := some (.identifier .long true), columnName := some "a\\tb" },
      { name := "owner", columnType := some (.basic (.string none)),
        columnName := some "owner $ 1" }]

/-- The account alone. -/
def awkwardNames : EntitySet where
  entities := [awkwardAccount]
  names_nodup := by decide
  attributes_nodup := by decide

namespace EntitySet

open Annotation (opening)

/-- The account is rendered. -/
theorem exists_render_awkwardAccount :
    ∃ artifact, awkwardNames.render {} awkwardAccount .persisted = .ok artifact := by
  have hmaps : (awkwardNames.mapEntity awkwardAccount).isOk = true := by decide
  obtain ⟨attrs, hattrs⟩ := exists_eq_ok_of_isOk hmaps
  exact ⟨_, render_eq_ok_iff.mpr ⟨attrs, hattrs, rfl⟩⟩

/-- None of the four names of the account is what the literal says that is written for it. -/
theorem literals_differ_from_names :
    ∃ artifact, awkwardNames.render {} awkwardAccount .persisted = .ok artifact ∧
      ∀ isLetter : Char → Bool,
        ∀ place ∈ [("@Entity(name = ", "a\nb"), ("@Table(name = ", "a\"b"),
          ("@Table(name = \"a\"b\", schema = ", "$_"), ("    @get:Column(name = ", "a\\tb")],
          ∃ before after, artifact.contents =
              before ++ place.1 ++ "\"" ++ place.2 ++ "\"" ++ after ∧
            StringLiteral.read? isLetter ("\"" ++ place.2 ++ "\"" ++ after).toList ≠
              some (place.2.toList.flatMap StringLiteral.units, after.toList) := by
  obtain ⟨artifact, hrender⟩ := exists_render_awkwardAccount
  refine ⟨artifact, hrender, fun isLetter => ?_⟩
  have hdiffers : ∀ {opening value next : String},
      StandsQuoted isLetter artifact.contents opening value next →
      (∀ after, ¬ StringLiteral.IsPlain isLetter value.toList after) →
      ∃ before after, artifact.contents = before ++ opening ++ "\"" ++ value ++ "\"" ++ after ∧
        StringLiteral.read? isLetter ("\"" ++ value ++ "\"" ++ after).toList ≠
          some (value.toList.flatMap StringLiteral.units, after.toList) := by
    rintro opening value next ⟨before, later, behind, after, -, htext, hread⟩ hplain
    exact ⟨_, after, htext, fun h => hplain _ (hread.mp h)⟩
  have hunplain : ∀ {value : String} {c : Char} {rest : List Char}, c ∈ ['"', '\\', '\n', '\r'] →
      c :: rest <:+ value.toList → ∀ after, ¬ StringLiteral.IsPlain isLetter value.toList after :=
    fun hc hsuffix after h => (h _ _ hsuffix).1 hc
  have hentity : opening "Entity" [] "name" = "@Entity(name = " := by decide
  have htable : opening "Table" [] "name" = "@Table(name = " := by decide
  have hschema : opening "Table" (nameParameter "name" awkwardAccount.tableName)
      "schema" = "@Table(name = \"a\"b\", schema = " := by decide
  have hcolumn :
      "    " ++ opening "get:Column" [] "name" = "    @get:Column(name = " := by
    decide
  simp only [List.forall_mem_cons]
  refine ⟨?entityName, ?tableName, ?tableSchema, ?columnName, List.forall_mem_nil _⟩
  case entityName =>
    exact hdiffers (hentity ▸ standsQuoted_entityName isLetter hrender (by decide))
      (hunplain (by decide : '\n' ∈ _) ⟨['a'], rfl⟩)
  case tableName =>
    exact hdiffers (htable ▸ standsQuoted_tableName isLetter hrender (by decide))
      (hunplain (by decide : '"' ∈ _) ⟨['a'], rfl⟩)
  case tableSchema =>
    refine hdiffers (hschema ▸ standsQuoted_tableSchema isLetter hrender (by decide))
      fun after h => ?_
    have htemplate := (h '$' ['_'] (List.suffix_refl _)).2 rfl
    simp [StringLiteral.opensTemplate] at htemplate
  case columnName =>
    obtain ⟨type, hid⟩ := exists_standsQuoted_columnName isLetter hrender
      (List.mem_cons_self : _ ∈ awkwardAccount.attributes)
      (by decide : Text.nonBlank? (some "a\\tb") = some "a\\tb")
    exact hdiffers (hcolumn ▸ hid) (hunplain (by decide : '\\' ∈ _) ⟨['a'], rfl⟩)

/-- The name of the column of the account's owner is read as what it is, with the dollar sign. -/
theorem quotedNames_read_iff_plain_owner :
    ∃ artifact before after, awkwardNames.render {} awkwardAccount .persisted = .ok artifact ∧
      artifact.contents =
        before ++ "    @get:Column(name = " ++ "\"" ++ "owner $ 1" ++ "\"" ++ after ∧
      StringLiteral.read? Char.isAlpha ("\"" ++ "owner $ 1" ++ "\"" ++ after).toList =
        some ("owner $ 1".toList.flatMap StringLiteral.units, after.toList) := by
  have hplain : ∀ after, StringLiteral.IsPlain Char.isAlpha "owner $ 1".toList after := by
    simp [StringLiteral.isPlain_cons, StringLiteral.isPlain_nil, StringLiteral.opensTemplate]
  have hopening :
      "    " ++ opening "get:Column" [] "name" = "    @get:Column(name = " := by
    decide
  obtain ⟨artifact, hrender⟩ := exists_render_awkwardAccount
  obtain ⟨-, -, -, hcolumns⟩ := quotedNames_read_iff_plain Char.isAlpha hrender
  obtain ⟨type, hquoted⟩ := hcolumns _ (.tail _ (.head _)) "owner $ 1" (by decide)
  obtain ⟨before, later, behind, after, -, hcontents, hread⟩ := hopening ▸ hquoted
  exact ⟨artifact, _, after, hrender, hcontents, hread.mpr (hplain _)⟩

end EntitySet

end PersistenceLayer
