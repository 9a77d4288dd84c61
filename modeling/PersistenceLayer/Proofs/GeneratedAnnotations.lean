import PersistenceLayer.Artifact.Persisted
import PersistenceLayer.Proofs.StringLiterals
import PersistenceLayer.Proofs.Tokens

/-!
# Annotations that are generated

The annotations of a persisted class are made of identifiers, numbers, flags and
constants, and of the names that the class, its table and its columns go by in the
database. Nothing looks into these names; they are put between quotes as they are.
So what a persisted class says can be relied on as long as they are plain.
-/

namespace PersistenceLayer

open Text (isIdentifierPart isWord)

/-! ## Arguments and parameters -/

namespace Argument

/-- The characters of arguments that are not quoted. -/
def isBarePart (c : Char) : Bool :=
  isIdentifierPart c || c == '.'

/-- Whether an argument is of a kind that is generated, where quoted text is as given. A constant
has a dot in its name, which tells it from flags and numbers. -/
def IsMadeOf (quoted : String → Prop) : Argument → Prop
  | text value => quoted value
  | constant name => '.' ∈ name.toList ∧ ∀ c ∈ name.toList, isBarePart c = true
  | flag _ | number _ => True

/-- A number is written with digits. -/
theorem isDigit_of_mem_number {value : UInt32} {c : Char}
    (h : c ∈ (number value).render.toList) : c.isDigit = true := by
  rw [render, Nat.toString_eq_repr, Nat.toList_repr] at h
  exact Nat.isDigit_of_mem_toDigits (by decide) (by decide) h

/-- An argument is quoted, or none of its characters needs quotes. -/
theorem exists_text_or_isBarePart {argument : Argument} {quoted : String → Prop}
    (h : argument.IsMadeOf quoted) :
    (∃ value, argument = .text value) ∨
      argument.render.toList ≠ [] ∧ ∀ c ∈ argument.render.toList, isBarePart c = true := by
  cases argument with
  | text value => exact .inl ⟨value, rfl⟩
  | flag value =>
    cases value <;> exact .inr ⟨by decide, List.all_eq_true.mp (by decide)⟩
  | number value =>
    refine .inr ⟨?_, fun c hc => ?_⟩
    · rw [render, Nat.toString_eq_repr, Nat.toList_repr]
      exact Nat.toDigits_ne_nil
    · simp [isBarePart, isIdentifierPart, Char.isAlphanum, isDigit_of_mem_number hc]
  | constant name => exact .inr ⟨List.ne_nil_of_mem h.1, h.2⟩

end Argument

/-- Whether the name of a parameter is a word, and its argument of a kind that is generated. -/
structure Parameter.IsMadeOf (quoted : String → Prop) (parameter : Parameter) : Prop where
  name : isWord parameter.name = true
  argument : parameter.argument.IsMadeOf quoted

namespace Annotation

/-- A parameter list with at least one parameter. -/
theorem parameterList_cons (first : Parameter) (others : List Parameter) :
    parameterList (first :: others) =
      "(" ++ first.render ++ String.join (others.map fun other => ", " ++ other.render) ++ ")" := by
  have hjoin : ∀ (text : String) (texts : List String),
      ", ".intercalate (text :: texts) = text ++ String.join (texts.map (", " ++ ·)) := by
    intro text texts
    induction texts generalizing text with
    | nil => simp
    | cons next texts ih => simp [ih, String.append_assoc]
  rw [parameterList, if_neg (by simp), List.map_cons, hjoin, List.map_map, ← String.append_assoc]
  rfl

/-- The characters of the names of annotations. -/
def isNamePart (c : Char) : Bool :=
  isIdentifierPart c || c == ':'

/-- Whether an annotation is of a kind that is generated, where quoted text is as given. -/
structure IsMadeOf (quoted : String → Prop) (mark : Annotation) : Prop where
  name : ∀ c ∈ mark.name.toList, isNamePart c = true
  parameters : ∀ parameter ∈ mark.parameters, parameter.IsMadeOf quoted

end Annotation

/-! ## Names between quotes -/

/-- The names that are put between quotes in the persisted class of an entity: those of the class,
of its table with the schema, and of its columns, as far as they are declared and not blank. -/
def Entity.quotedNames (entity : Entity) : List String :=
  (entity.entityName :: entity.tableName :: entity.tableSchema ::
    entity.attributes.map Attribute.columnName).filterMap Text.nonBlank?

/-- Whether every name that is put between quotes stands for itself there, whatever follows it. -/
def Entity.HasPlainNames (isLetter : Char → Bool) (entity : Entity) : Prop :=
  ∀ name ∈ entity.quotedNames, ∀ after, StringLiteral.IsPlain isLetter name.toList after

/-- Names are plain if all of their characters are ordinary. -/
theorem Entity.hasPlainNames_of_isOrdinary {isLetter : Char → Bool} {entity : Entity}
    (h : ∀ name ∈ entity.quotedNames, name.toList.all StringLiteral.isOrdinary = true) :
    entity.HasPlainNames isLetter :=
  fun name hname _ => StringLiteral.isPlain_of_isOrdinary (List.all_eq_true.mp (h name hname))

/-- A plain name has no line break in it. -/
theorem Entity.HasPlainNames.notMem {isLetter : Char → Bool} {entity : Entity}
    (h : entity.HasPlainNames isLetter) : ∀ name ∈ entity.quotedNames, '\n' ∉ name.toList := by
  intro name hname hmem
  obtain ⟨front, back, hsplit⟩ := List.append_of_mem hmem
  exact (h name hname [] '\n' back ⟨front, hsplit.symm⟩).1 (by decide)

/-- What holds of the names between quotes holds of each name that is not blank. -/
theorem Entity.forall_mem_quotedNames_iff {entity : Entity} {quoted : String → Prop} :
    (∀ name ∈ entity.quotedNames, quoted name) ↔
      (∀ name, Text.nonBlank? entity.entityName = some name → quoted name) ∧
      (∀ name, Text.nonBlank? entity.tableName = some name → quoted name) ∧
      (∀ name, Text.nonBlank? entity.tableSchema = some name → quoted name) ∧
      ∀ attr ∈ entity.attributes, ∀ name, Text.nonBlank? attr.columnName = some name →
        quoted name := by
  have hdeclared : (∀ name ∈ entity.quotedNames, quoted name) ↔
      ∀ declared ∈ entity.entityName :: entity.tableName :: entity.tableSchema ::
        entity.attributes.map Attribute.columnName, ∀ name, Text.nonBlank? declared = some name →
          quoted name := by
    simp only [quotedNames, List.mem_filterMap, forall_exists_index, and_imp]
    exact ⟨fun h declared hmem name hname => h name declared hmem hname,
      fun h name declared hmem hname => h declared hmem name hname⟩
  rw [hdeclared, List.forall_mem_cons, List.forall_mem_cons, List.forall_mem_cons,
    List.forall_mem_map]

section Generated

variable {quoted : String → Prop}

/-- An optional parameter is of a kind that is generated if its argument is. -/
theorem isMadeOf_of_mem_optionalParameter {α : Type} {name : String} {argument : α → Argument}
    {value : Option α} (hname : Text.isWord name = true)
    (h : ∀ content, value = some content → (argument content).IsMadeOf quoted) :
    ∀ parameter ∈ optionalParameter name argument value, parameter.IsMadeOf quoted := by
  intro parameter hparameter
  obtain ⟨content, hcontent, rfl⟩ := Option.map_eq_some_iff.mp (Option.mem_toList.mp hparameter)
  exact ⟨hname, h content hcontent⟩

/-- The parameter of a name quotes it, unless it is blank. -/
theorem isMadeOf_of_mem_nameParameter {name : String} {value : Option String}
    (hname : Text.isWord name = true)
    (h : ∀ content, Text.nonBlank? value = some content → quoted content) :
    ∀ parameter ∈ nameParameter name value, parameter.IsMadeOf quoted :=
  isMadeOf_of_mem_optionalParameter hname h

/-- The parameters of a column quote its name. -/
theorem Attribute.isMadeOf_of_mem_columnParameters {attr : Attribute}
    (h : ∀ name, Text.nonBlank? attr.columnName = some name → quoted name) :
    ∀ parameter ∈ attr.columnParameters, parameter.IsMadeOf quoted := by
  have hflag : ∀ (name : String) (value : Option Bool), Text.isWord name = true →
      ∀ parameter ∈ optionalParameter name .flag value, parameter.IsMadeOf quoted :=
    fun _ _ hname => isMadeOf_of_mem_optionalParameter hname fun _ _ => trivial
  simp only [columnParameters, List.forall_mem_append]
  exact ⟨⟨⟨⟨isMadeOf_of_mem_nameParameter (by decide) h, hflag _ _ (by decide)⟩,
    hflag _ _ (by decide)⟩, hflag _ _ (by decide)⟩, hflag _ _ (by decide)⟩

/-- The parameters that limit the values of a column quote nothing. -/
theorem BasicType.isMadeOf_of_mem_parameters (type : BasicType) :
    ∀ parameter ∈ type.parameters, parameter.IsMadeOf quoted := by
  have hnumber : ∀ (name : String) (value : Option UInt32), Text.isWord name = true →
      ∀ parameter ∈ optionalParameter name .number value, parameter.IsMadeOf quoted :=
    fun _ _ hname => isMadeOf_of_mem_optionalParameter hname fun _ _ => trivial
  cases type with
  | string length => exact hnumber _ _ (by decide)
  | bigDecimal precision scale =>
    exact List.forall_mem_append.mpr ⟨hnumber _ _ (by decide), hnumber _ _ (by decide)⟩
  | _ => exact List.forall_mem_nil _

/-- The way in which an identifier is generated has a dot in its name. -/
theorem IdKind.isMadeOf_generationStrategy (kind : IdKind) :
    (Argument.constant kind.generationStrategy).IsMadeOf quoted := by
  have hchars : '.' ∈ kind.generationStrategy.toList ∧
      kind.generationStrategy.toList.all Argument.isBarePart = true := by
    cases kind <;> decide
  exact ⟨hchars.1, List.all_eq_true.mp hchars.2⟩

/-- An annotation is of a kind that is generated if its parameters are. -/
theorem isMadeOf_mark {name : String} {parameters : List Parameter}
    (hname : name.toList.all Annotation.isNamePart = true)
    (hparameters : ∀ parameter ∈ parameters, parameter.IsMadeOf quoted) :
    Annotation.IsMadeOf quoted ⟨name, parameters⟩ :=
  ⟨List.all_eq_true.mp hname, hparameters⟩

/-- The annotations of a property quote the name of its column. -/
theorem MappedAttribute.isMadeOf_of_mem_annotations {mapped : MappedAttribute}
    (h : ∀ name, Text.nonBlank? mapped.source.columnName = some name → quoted name) :
    ∀ mark ∈ mapped.annotations, mark.IsMadeOf quoted := by
  have hparameters := Attribute.isMadeOf_of_mem_columnParameters h
  have hmarker {name : String} (hname : name.toList.all Annotation.isNamePart = true) :
      Annotation.IsMadeOf quoted ⟨name, []⟩ := isMadeOf_mark hname (List.forall_mem_nil _)
  obtain ⟨attr, type⟩ := mapped
  cases type with
  | identifier kind generated =>
    have hstrategy : Parameter.IsMadeOf quoted ⟨"strategy", .constant kind.generationStrategy⟩ :=
      ⟨(by decide : Text.isWord "strategy" = true), kind.isMadeOf_generationStrategy⟩
    have hgenerated : ∀ mark ∈ if generated then
        [⟨"get:GeneratedValue", [⟨"strategy", .constant kind.generationStrategy⟩]⟩] else [],
        Annotation.IsMadeOf quoted mark := by
      cases generated with
      | false => exact List.forall_mem_nil _
      | true =>
        exact List.forall_mem_singleton.mpr
          (isMadeOf_mark (by decide) (List.forall_mem_singleton.mpr hstrategy))
    exact List.forall_mem_append.mpr ⟨List.forall_mem_append.mpr
      ⟨List.forall_mem_singleton.mpr (hmarker (by decide)), hgenerated⟩,
      List.forall_mem_singleton.mpr (isMadeOf_mark (by decide) hparameters)⟩
  | version kind | manyToOne target =>
    exact List.forall_mem_cons.mpr ⟨hmarker (by decide),
      List.forall_mem_singleton.mpr (isMadeOf_mark (by decide) hparameters)⟩
  | basic type =>
    exact List.forall_mem_singleton.mpr (isMadeOf_mark (by decide)
      (List.forall_mem_append.mpr ⟨hparameters, type.isMadeOf_of_mem_parameters⟩))

section QuotedNames

variable {entity : Entity} (h : ∀ name ∈ entity.quotedNames, quoted name)

include h

/-- The annotations of a persisted class quote its own name, and those of its table. -/
theorem Persisted.isMadeOf_of_mem_classAnnotations :
    ∀ mark ∈ classAnnotations entity, mark.IsMadeOf quoted := by
  obtain ⟨hentity, htable, hschema, -⟩ := Entity.forall_mem_quotedNames_iff.mp h
  exact List.forall_mem_cons.mpr ⟨isMadeOf_mark (by decide)
      (isMadeOf_of_mem_nameParameter (by decide) hentity),
    List.forall_mem_singleton.mpr (isMadeOf_mark (by decide)
      (List.forall_mem_append.mpr ⟨isMadeOf_of_mem_nameParameter (by decide) htable,
        isMadeOf_of_mem_nameParameter (by decide) hschema⟩))⟩

/-- The annotations of the properties of a persisted class quote the names of its columns. -/
theorem Persisted.isMadeOf_of_mem_annotations {mapped : MappedAttribute}
    (hsource : mapped.source ∈ entity.attributes) :
    ∀ mark ∈ mapped.annotations, mark.IsMadeOf quoted :=
  MappedAttribute.isMadeOf_of_mem_annotations
    ((Entity.forall_mem_quotedNames_iff.mp h).2.2.2 _ hsource)

end QuotedNames

end Generated

/-! ## Lines of annotations -/

/-- An annotation is written on one line if no quoted text has a line break in it. -/
theorem Annotation.notMem_render {mark : Annotation}
    (h : mark.IsMadeOf fun text => '\n' ∉ text.toList) : '\n' ∉ mark.render.toList := by
  have hargument : ∀ argument : Argument, argument.IsMadeOf (fun text => '\n' ∉ text.toList) →
      '\n' ∉ argument.render.toList := by
    intro argument hargument
    rcases Argument.exists_text_or_isBarePart hargument with ⟨value, rfl⟩ | ⟨-, hbare⟩
    · have hvalue : '\n' ∉ value.toList := hargument
      simp [Argument.render, String.toList_append, hvalue]
    · exact fun hmem => absurd (hbare _ hmem) (by decide)
  have hparameter : ∀ parameter ∈ mark.parameters, '\n' ∉ parameter.render.toList := by
    intro parameter hmem
    have hname : '\n' ∉ parameter.name.toList :=
      Text.notMem_toList_of_isWord (h.parameters parameter hmem).name (by decide)
    simp [Parameter.render, String.toList_append, hname,
      hargument _ (h.parameters parameter hmem).argument]
  have hname : '\n' ∉ mark.name.toList := fun hmem => absurd (h.name _ hmem) (by decide)
  have hlist : '\n' ∉ (parameterList mark.parameters).toList := by
    cases hparameters : mark.parameters with
    | nil => decide
    | cons first others =>
      rw [hparameters, List.forall_mem_cons] at hparameter
      simpa [parameterList_cons, String.toList_append] using hparameter
  simp [render, String.toList_append, hname, hlist]

end PersistenceLayer
