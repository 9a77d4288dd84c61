import PersistenceLayer.Proofs.AttributeOrder
import PersistenceLayer.Proofs.ClientTypes

/-!
# The scope of options

Rendering reads two switches, each for artifacts of one kind: constrained data
for contracts, composable data for data holders. The other artifacts come out the
same whatever the switch says, and so do all failures. Behind the prelude,
constrained data adds lines of markers, and composable data ends the lines of
properties in another way.
-/

namespace PersistenceLayer

/-! ## Lines of a text -/

namespace Text

/-- A text without the lines that are picked. -/
def withoutLines (picks : String → Bool) (text : String) : String :=
  (String.singleton '\n').intercalate ((splitAt '\n' text).filter fun line => !picks line)

/-- A text with each of its lines changed. -/
def mapLines (change : String → String) (text : String) : String :=
  (String.singleton '\n').intercalate ((splitAt '\n' text).map change)

/-- A line with another ending instead of the given one, if it has that. -/
def replaceEnd (ending replacement line : String) : String :=
  match line.toList.dropSuffix? ending.toList with
  | some front => String.ofList front ++ replacement
  | none => line

/-- An ending is replaced behind any front. -/
theorem replaceEnd_append (front ending replacement : String) :
    replaceEnd ending replacement (front ++ ending) = front ++ replacement := by
  have hfront : (front ++ ending).toList.dropSuffix? ending.toList = some front.toList :=
    List.dropSuffix?_eq_some_iff.mpr ⟨ending.toList, String.toList_append, beq_self_eq_true _⟩
  simp only [replaceEnd, hfront, String.ofList_toList]

/-- A line stays as it is if it ends with another character. -/
theorem replaceEnd_of_getLast?_ne {ending replacement line : String}
    (h : line.toList.getLast? ≠ ending.toList.getLast?) (hending : ending.toList ≠ []) :
    replaceEnd ending replacement line = line := by
  have hnone : line.toList.dropSuffix? ending.toList = none := by
    rw [Option.eq_none_iff_forall_ne_some]
    intro front hfront
    obtain ⟨suffix, hline, hsuffix⟩ := List.dropSuffix?_eq_some_iff.mp hfront
    rw [eq_of_beq hsuffix] at hline
    exact h (by rw [hline, List.getLast?_append_of_ne_nil _ hending])
  rw [replaceEnd, hnone]

end Text

namespace SourceFile

/-- A text of lines is its lines with a break between each two, and nothing behind the last. -/
theorem intercalate_eq_unlines (lines : List String) :
    (String.singleton '\n').intercalate (lines ++ [""]) = unlines lines := by
  induction lines with
  | nil => rfl
  | cons line lines ih =>
    rw [List.cons_append, String.intercalate_cons_of_ne_nil (by simp), ih]
    simp [unlines, String.append_assoc]

variable {lines : List String} (hlines : ∀ line ∈ lines, '\n' ∉ line.toList)

include hlines

theorem withoutLines_unlines {picks : String → Bool} (hempty : picks "" = false) :
    Text.withoutLines picks (unlines lines) = unlines (lines.filter fun line => !picks line) := by
  have hlast : [""].filter (fun line => !picks line) = [""] := by simp [hempty]
  rw [Text.withoutLines, splitAt_unlines_of_notMem hlines, List.filter_append, hlast,
    intercalate_eq_unlines]

theorem mapLines_unlines {change : String → String} (hempty : change "" = "") :
    Text.mapLines change (unlines lines) = unlines (lines.map change) := by
  rw [Text.mapLines, splitAt_unlines_of_notMem hlines, List.map_append, List.map_singleton, hempty,
    intercalate_eq_unlines]

end SourceFile

/-! ## Bodies under other options -/

/-- Whether a line is that of a marker. -/
def ContractProperty.isMarkerLine (line : String) : Bool :=
  "    @get:".toList.isPrefixOf line.toList

/-- The line of a property under plain options, given its line under composable ones. -/
def DataHolder.plainLine (line : String) : String :=
  Text.replaceEnd " by mutableStateOf(null)" " = null" line

namespace Kind

open ContractProperty (isMarkerLine)

variable {options plain : Options}

/-- Without its markers, the body of a contract is the unconstrained one. -/
theorem filter_body_contract (hplain : plain.constrainedData = false) (entity : Entity)
    (attrs : List MappedAttribute) :
    (contract.body options entity attrs).filter (fun line => !isMarkerLine line) =
      contract.body plain entity attrs := by
  have hopening : isMarkerLine ("interface " ++ Naming.contractType entity.name ++ " \x7b") =
      false := by
    rw [String.append_assoc, isMarkerLine, String.toList_append]
    exact Text.isPrefixOf_append_eq_false 1 _ (by decide) (by decide)
  have hproperty (mapped : MappedAttribute) :
      (mapped.contractProperty options).lines.filter (fun line => !isMarkerLine line) =
        (mapped.contractProperty plain).lines := by
    have hmarkers : ((mapped.contractProperty options).markers.map
        ContractProperty.markerLine).filter (fun line => !isMarkerLine line) = [] := by
      rw [List.filter_eq_nil_iff, List.forall_mem_map]
      intro constraint _
      cases constraint <;> decide
    have hline : isMarkerLine (ContractProperty.declarationLine mapped.flat) = false := by
      rw [ContractProperty.declarationLine, String.append_assoc, String.append_assoc,
        String.append_assoc, isMarkerLine, String.toList_append]
      exact Text.isPrefixOf_append_eq_false 5 _ (by decide) (by decide)
    have hlines : (mapped.contractProperty plain).lines =
        [ContractProperty.declarationLine mapped.flat, ""] := by
      rw [ContractProperty.lines, MappedAttribute.contractProperty, hplain]
      rfl
    have hkept : [ContractProperty.declarationLine mapped.flat, ""].filter
        (fun line => !isMarkerLine line) = [ContractProperty.declarationLine mapped.flat, ""] := by
      rw [List.filter_cons_of_pos (by rw [hline]; rfl)]
      rfl
    rw [ContractProperty.lines, List.filter_append, hmarkers, hlines, List.nil_append]
    exact hkept
  change (Contract.body entity.name (Contract.properties options attrs)).filter _ =
    Contract.body entity.name (Contract.properties plain attrs)
  rw [Contract.body, Contract.body, Contract.properties, Contract.properties, List.filter_append,
    List.filter_append, List.flatMap_map, List.flatMap_map, List.filter_flatMap,
    List.filter_cons_of_pos (by rw [hopening]; rfl)]
  simp only [hproperty]
  rfl

/-- With plain endings, the body of a data holder with state cells is the plain one. -/
theorem map_body_dataHolder (hoptions : options.composableData = true)
    (hplain : plain.composableData = false) (entity : Entity) (attrs : List MappedAttribute) :
    (dataHolder.body options entity attrs).map DataHolder.plainLine =
      dataHolder.body plain entity attrs := by
  have hopening : DataHolder.plainLine ("open class " ++ Naming.dataType entity.name ++ " : " ++
      Naming.contractType entity.name ++ " \x7b") = "open class " ++ Naming.dataType entity.name ++
        " : " ++ Naming.contractType entity.name ++ " \x7b" := by
    refine Text.replaceEnd_of_getLast?_ne ?_ (by decide)
    rw [String.toList_append, List.getLast?_append_of_ne_nil _ (by decide)]
    decide
  have hline (property : FlatProperty) :
      DataHolder.plainLine (DataHolder.declarationLine options property) =
        DataHolder.declarationLine plain property := by
    unfold DataHolder.declarationLine DataHolder.initializer
    rw [if_pos hoptions, hplain, if_neg Bool.false_ne_true]
    exact Text.replaceEnd_append _ _ _
  change (DataHolder.body options entity.name (DataHolder.properties attrs)).map _ =
    DataHolder.body plain entity.name (DataHolder.properties attrs)
  rw [DataHolder.body, DataHolder.body, List.map_append, List.map_append, List.map_flatMap,
    List.map_cons, hopening]
  simp only [List.map_cons, hline]
  rfl

/-- What an artifact is made of does not depend on switches that are about another kind. -/
theorem sourceFile_congr (kind : Kind) (entity : Entity) (attrs : List MappedAttribute)
    {others : Options}
    (hcontract : kind = contract → options.constrainedData = others.constrainedData)
    (hdataHolder : kind = dataHolder → options.composableData = others.composableData) :
    kind.sourceFile options entity attrs = kind.sourceFile others entity attrs := by
  cases kind with
  | contract =>
    have hproperties : Contract.properties options attrs = Contract.properties others attrs := by
      unfold Contract.properties MappedAttribute.contractProperty
      rw [hcontract rfl]
    have himports : Contract.fixedImports options = Contract.fixedImports others := by
      rw [Contract.fixedImports, Contract.fixedImports, hcontract rfl]
    simp only [sourceFile, importedNames, fixedImports, body, hproperties, himports]
  | dataHolder =>
    have hlines : DataHolder.declarationLine options = DataHolder.declarationLine others := by
      unfold DataHolder.declarationLine DataHolder.initializer
      rw [hdataHolder rfl]
    have himports : DataHolder.fixedImports options = DataHolder.fixedImports others := by
      rw [DataHolder.fixedImports, DataHolder.fixedImports, hdataHolder rfl]
    simp only [sourceFile, importedNames, fixedImports, body, DataHolder.body, hlines, himports]
  | metamodel | persisted | vocabulary | extension => rfl

end Kind

namespace EntitySet

/-- The text of an artifact behind the prelude of its file. -/
def bodyText (set : EntitySet) (options : Options) (entity : Entity) (kind : Kind) :
    Except Defect String := do
  let file ← set.emit options entity kind
  let artifact ← set.render options entity kind
  return String.ofList (artifact.contents.toList.drop file.prelude.toList.length)

variable (set : EntitySet) (options : Options) (entity : Entity) (kind : Kind)

/-- Behind the prelude stand the lines of the body. -/
theorem bodyText_eq : set.bodyText options entity kind = (set.mapEntity entity).map fun attrs =>
    SourceFile.unlines (kind.body options entity attrs) := by
  rw [bodyText, render_eq, emit_eq]
  cases set.mapEntity entity with
  | error cause => rfl
  | ok attrs =>
    refine congrArg Except.ok ?_
    change String.ofList ((kind.sourceFile options entity attrs).text.toList.drop _) = _
    rw [SourceFile.text_eq, String.toList_append, List.drop_left, String.ofList_toList]
    rfl

/-- What a change makes of bodies it makes of the texts behind the preludes, and it keeps
failures. -/
theorem bodyText_eq_map {set : EntitySet} {options others : Options} {entity : Entity}
    {kind : Kind} {change : String → String}
    (h : ∀ attrs, set.mapEntity entity = .ok attrs →
      change (SourceFile.unlines (kind.body options entity attrs)) =
        SourceFile.unlines (kind.body others entity attrs)) :
    set.bodyText others entity kind = (set.bodyText options entity kind).map change := by
  rw [bodyText_eq, bodyText_eq]
  cases hattrs : set.mapEntity entity with
  | error cause => rfl
  | ok attrs => exact congrArg Except.ok (h attrs hattrs).symm

/-- A switch is seen in artifacts of one kind alone, and there behind the prelude, if names are
identifiers, only in markers and in the ends of lines. -/
theorem options_stay_in_scope :
    (∀ kind (options others : Options),
      (kind = .contract → options.constrainedData = others.constrainedData) →
      (kind = .dataHolder → options.composableData = others.composableData) →
      set.render options entity kind = set.render others entity kind) ∧
    (set.HasIdentifierNames → entity.HasIdentifierNames →
      (∀ constrained plain : Options,
        constrained.constrainedData = true → plain.constrainedData = false →
        set.bodyText plain entity .contract =
          (set.bodyText constrained entity .contract).map
            (Text.withoutLines ContractProperty.isMarkerLine)) ∧
      (∀ composable plain : Options,
        composable.composableData = true → plain.composableData = false →
        set.bodyText plain entity .dataHolder =
          (set.bodyText composable entity .dataHolder).map
            (Text.mapLines DataHolder.plainLine))) := by
  refine ⟨fun kind options others hcontract hdataHolder => ?_, fun hnames hentity => ⟨?_, ?_⟩⟩
  · rw [render_eq, render_eq]
    simp only [Entity.artifact, kind.sourceFile_congr entity _ hcontract hdataHolder]
  · intro constrained plain _ hplain
    refine bodyText_eq_map fun attrs hattrs => ?_
    have hlines := Contract.notMem_of_mem_body constrained hentity.1
      (hnames.mapped_of_entity hentity hattrs)
    rw [SourceFile.withoutLines_unlines hlines (by decide), Kind.filter_body_contract hplain]
  · intro composable plain hcomposable hplain
    refine bodyText_eq_map fun attrs hattrs => ?_
    have hlines := DataHolder.notMem_of_mem_body composable hentity.1
      (hnames.mapped_of_entity hentity hattrs)
    rw [SourceFile.mapLines_unlines hlines (by decide),
      Kind.map_body_dataHolder hcomposable hplain]

/-- Two entities under all switches, each of which is seen where it belongs. -/
theorem options_stay_in_scope_noteAndAuthor :
    ∀ entity ∈ noteAndAuthor.entities,
      (∀ kind, noteAndAuthor.render {} entity kind =
        noteAndAuthor.render { jsonAwareData := true, onlyData := true } entity kind) ∧
      noteAndAuthor.render { composableData := true } entity .contract =
        noteAndAuthor.render {} entity .contract ∧
      noteAndAuthor.bodyText { constrainedData := false } entity .contract =
        (noteAndAuthor.bodyText {} entity .contract).map
          (Text.withoutLines ContractProperty.isMarkerLine) ∧
      noteAndAuthor.bodyText {} entity .dataHolder =
        (noteAndAuthor.bodyText { composableData := true } entity .dataHolder).map
          (Text.mapLines DataHolder.plainLine) := by
  intro entity hentity
  obtain ⟨hrender, hbody⟩ := options_stay_in_scope noteAndAuthor entity
  obtain ⟨hcontract, hdataHolder⟩ := hbody noteAndAuthor.hasIdentifierNames
    (noteAndAuthor.hasIdentifierNames entity hentity)
  exact ⟨fun kind => hrender kind _ _ (fun _ => rfl) fun _ => rfl,
    hrender _ _ _ (fun _ => rfl) nofun, hcontract _ _ rfl rfl, hdataHolder _ _ rfl rfl⟩

end EntitySet

end PersistenceLayer
