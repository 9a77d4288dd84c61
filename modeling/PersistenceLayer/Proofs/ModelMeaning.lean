import PersistenceLayer.Model.Decode
import PersistenceLayer.Proofs.TreeTags

/-!
# What models mean

A text that writes a tree is read as a set of entities if the tree means one. What
a tree means is said here without a reader: an entity is a record whose fields are
texts and a list of attributes, an attribute is a record with a column type, and a
column type selects one of its choices.
-/

namespace PersistenceLayer

open Json

namespace Json

/-! ## Values of one kind -/

/-- Whether a tree is a text. -/
def IsText (tree : Tree) (result : String) : Prop :=
  tree = .text (some result)

/-- Whether a tree is a truth value. -/
def IsBoolean (tree : Tree) (result : Bool) : Prop :=
  tree = .boolean result

/-- Whether a tree is null or means something. -/
inductive IsOptional {α : Type} (Means : Tree → α → Prop) : Tree → Option α → Prop
  | absent : IsOptional Means .null none
  | present {tree : Tree} {result : α} (hne : tree ≠ .null) (h : Means tree result) :
      IsOptional Means tree (some result)

/-- Whether a tree is a list of items each of which means something. -/
inductive IsList {α : Type} (Means : Tree → α → Prop) : Tree → List α → Prop
  | mk {items : List Tree} {results : List α} (h : List.Forall₂ Means items results) :
      IsList Means (.list items) results

/-- Whether a tree is the name of a choice, alone or as the key of null. -/
inductive IsChoice {α : Type} (choices : List (String × α)) : Tree → α → Prop
  | name {name : String} {choice : α} (h : choices.lookup name = some choice) :
      IsChoice choices (.text (some name)) choice
  | key {name : String} {choice : α} (h : choices.lookup name = some choice) :
      IsChoice choices (.object [(some name, .null)]) choice

section Kinds

variable {α : Type} {read : Node → Except Fault α} {Means : Tree → α → Prop}

/-- A node is read as a text exactly if its tree is one. -/
theorem agrees_readText : Agrees Node.Shows Node.readText IsText := by
  intro node tree h result
  cases h with
  | @text _ literal _ h =>
    simp only [Node.readText, IsText, Tree.text.injEq, ← h, toOption_eq_some_iff]
  | _ => simp [Node.readText, IsText, Node.mismatch_ne_ok]

/-- A node is read as a truth value exactly if its tree is one. -/
theorem agrees_readBoolean : Agrees Node.Shows Node.readBoolean IsBoolean := by
  intro node tree h result
  cases h with
  | boolean => simp [Node.readBoolean, IsBoolean]
  | _ => simp [Node.readBoolean, IsBoolean, Node.mismatch_ne_ok]

/-- A value that may be absent is read if the value is. -/
theorem agrees_readOptional (h : Agrees Node.Shows read Means) :
    Agrees Node.Shows (Node.readOptional read) (IsOptional Means) := by
  intro node tree hnode result
  by_cases hnull : tree = .null
  · subst hnull
    cases hnode
    rw [Node.readOptional]
    constructor
    · rintro ⟨⟩
      exact .absent
    · rintro (_ | ⟨hne, _⟩)
      · rfl
      · exact absurd rfl hne
  · have hread : node.readOptional read = some <$> read node := by
      cases hnode with
      | null => exact absurd rfl hnull
      | _ => rfl
    rw [hread, map_eq_ok_iff]
    constructor
    · rintro ⟨value, hvalue, rfl⟩
      exact .present hnull ((h node tree hnode value).mp hvalue)
    · rintro (_ | ⟨_, hmeans⟩)
      · exact absurd rfl hnull
      · exact ⟨_, (h node tree hnode _).mpr hmeans, rfl⟩

/-- Items are read, in order, if each of them is. -/
theorem readItems_eq_ok_iff (h : Agrees Node.Shows read Means) {items : List (Item Node)}
    {trees : List Tree} (hitems : ItemsShow items trees) {results : List α} :
    Node.readItems read items = .ok results ↔ List.Forall₂ Means trees results := by
  induction items generalizing trees results with
  | nil =>
    cases hitems
    simp [Node.readItems, eq_comm]
  | cons item items ih =>
    obtain ⟨node, resume⟩ := item
    cases hitems with
    | cons hitem hitems =>
      simp only [Node.readItems, bind_eq_ok_iff, settled_eq_ok_iff, pure_eq_ok_iff, ih hitems,
        h _ _ hitem, List.forall₂_cons_left_iff]
      constructor
      · rintro ⟨first, hfirst, others, hothers, rfl⟩
        exact ⟨first, others, hfirst, hothers, rfl⟩
      · rintro ⟨first, others, hfirst, hothers, rfl⟩
        exact ⟨first, hfirst, others, hothers, rfl⟩

/-- A list is read if each of its items is. -/
theorem agrees_readList (h : Agrees Node.Shows read Means) :
    Agrees Node.Shows (Node.readList read) (IsList Means) := by
  intro node tree hnode results
  cases hnode with
  | list hitems =>
    simp only [Node.readList, bind_eq_ok_iff, readItems_eq_ok_iff h hitems, pure_eq_ok_iff]
    constructor
    · rintro ⟨_, hresults, _, _, rfl⟩
      exact .mk hresults
    · rintro ⟨hresults⟩
      exact ⟨results, hresults, (), rfl, rfl⟩
  | _ =>
    refine ⟨fun h => ?_, nofun⟩
    simp only [Node.readList] at h
    exact absurd h Node.mismatch_ne_ok

/-- What stands for a choice that carries nothing is null. -/
theorem readNothing_eq_ok_iff {node : Node} {tree : Tree} (hnode : node.Shows tree) :
    node.readNothing = .ok () ↔ tree = .null := by
  cases hnode with
  | null => simp [Node.readNothing]
  | _ => simp [Node.readNothing, Node.mismatch_ne_ok]

/-- A choice is read if it is written in one of the two ways. -/
theorem agrees_readChoice (choices : List (String × α)) :
    Agrees Node.Shows (Node.readChoice choices) (IsChoice choices) := by
  intro node tree hnode result
  cases hnode with
  | @text _ literal _ h =>
    rw [Node.readChoice, readVariantName_eq_ok_iff, h]
    constructor
    · rintro ⟨name, rfl, hchoice⟩
      exact .name hchoice
    · rintro (⟨hchoice⟩ | _)
      exact ⟨_, rfl, hchoice⟩
  | object hmembers =>
    cases hmembers with
    | nil => exact ⟨nofun, nofun⟩
    | @cons member members key tree trees hkey hvalue hmembers =>
      simp only [Node.readChoice, bind_eq_ok_iff, readVariantName_eq_ok_iff, hkey]
      constructor
      · rintro ⟨choice, ⟨name, rfl, hchoice⟩, ⟨⟩, hnothing, h⟩
        cases hmembers with
        | nil =>
          cases h
          rw [(readNothing_eq_ok_iff hvalue).mp hnothing]
          exact .key hchoice
        | cons => cases h
      · rintro (_ | ⟨hchoice⟩)
        cases hmembers
        exact ⟨result, ⟨_, rfl, hchoice⟩, (), (readNothing_eq_ok_iff hvalue).mpr rfl, rfl⟩
  | _ => exact ⟨nofun, nofun⟩

end Kinds

end Json

/-! ## Column types -/

/-- Whether a field has a value among the entries of a column type. -/
def Json.Field.Has {α : Type} (room : Nat) (field : Field Value α) (entries : List (String × Tree))
    (result : α) : Prop :=
  Written (MeansBy room field.read) field.default? (entries.lookup field.name) result

/-- Whether a tree selects a form of column types, with the fields of the given shape. -/
abbrev ColumnType.Selects (room : Nat) (shape : Shape Value) (form : ColumnType.Form) (tree : Tree)
    (entries : List (String × Tree)) : Prop :=
  ColumnType.tagging.Selects room shape.names form tree entries

/-- Whether a tree selects a form of plain column types, with the fields of the given shape. -/
structure BasicType.Selects (room : Nat) (shape : Shape Value) (form : BasicType.Form) (tree : Tree)
    (entries : List (String × Tree)) : Prop where
  basic : ColumnType.tagging.Selects room (BasicType.tagging.tag :: shape.names) .basic tree entries
  form : Written (MeansBy room BasicType.tagging.readTag) none
    (entries.lookup BasicType.tagging.tag) form

/-- The shape of the plain column types without fields. -/
def BasicType.emptyShape : Shape Value := ⟨"", []⟩

/-- Whether a tree means a column type. The first argument is the number of containers that may be
opened in what is not its category. -/
inductive IsColumnType (room : Nat) (tree : Tree) : ColumnType → Prop
  | identifier {entries : List (String × Tree)} {kind : IdKind} {generated : Bool}
      (h : ColumnType.Selects room ColumnType.identifierShape .identifier tree entries)
      (hkind : ColumnType.idTypeField.Has room entries kind)
      (hgenerated : ColumnType.generatedField.Has room entries generated) :
      IsColumnType room tree (.identifier kind generated)
  | version {entries : List (String × Tree)} {kind : VersionKind}
      (h : ColumnType.Selects room ColumnType.versionShape .version tree entries)
      (hkind : ColumnType.versionTypeField.Has room entries kind) :
      IsColumnType room tree (.version kind)
  | manyToOne {entries : List (String × Tree)} {target : String}
      (h : ColumnType.Selects room ColumnType.manyToOneShape .manyToOne tree entries)
      (htarget : ColumnType.targetField.Has room entries target) :
      IsColumnType room tree (.manyToOne target)
  | plain {entries : List (String × Tree)} {type : BasicType}
      (h : BasicType.Selects room BasicType.emptyShape (.plain type) tree entries) :
      IsColumnType room tree (.basic type)
  | string {entries : List (String × Tree)} {length : Option UInt32}
      (h : BasicType.Selects room BasicType.stringShape .string tree entries)
      (hlength : BasicType.lengthField.Has room entries length) :
      IsColumnType room tree (.basic (.string length))
  | bigDecimal {entries : List (String × Tree)} {precision scale : Option UInt32}
      (h : BasicType.Selects room BasicType.bigDecimalShape .bigDecimal tree entries)
      (hprecision : BasicType.precisionField.Has room entries precision)
      (hscale : BasicType.scaleField.Has room entries scale) :
      IsColumnType room tree (.basic (.bigDecimal precision scale))

section ColumnType

variable {room : Nat} {node : Node} {tree : Tree} {content : Content} {type : ColumnType}

/-- A field of a column type is read as the value it has. -/
theorem Json.Field.get_eq_ok_iff_has {α : Type} {field : Field Value α} {found : FoundFields Value}
    {entries : List (String × Tree)} {result : α}
    (hrel : Option.Rel (IsValueOf room) (found.lookup field.name) (entries.lookup field.name)) :
    field.get found = .ok result ↔ field.Has room entries result :=
  field.get_eq_ok_iff (agrees_meansBy room field.read) hrel

/-- A field that has a value among some entries fits its rule. -/
theorem Json.Field.Has.fitsAll {α : Type} {field : Field Value α} {entries : List (String × Tree)}
    {result : α} (h : field.Has room entries result) :
    field.rule.FitsAll (IsValueOf room) (entries.lookup field.rule.name) :=
  Written.fitsAll (agrees_meansBy room field.read) h

/-- A content without fields passes its check if it is read up to no fields. -/
theorem checkEmpty_eq_ok_iff : content.checkEmpty = .ok () ↔
    ∃ found, BasicType.emptyShape.contentFields content = .ok found := by
  have hadmits (contents : List (String × Value)) : BasicType.emptyShape.Admits contents :=
    ⟨nofun, nofun⟩
  have hnodup : BasicType.emptyShape.names.Nodup := List.nodup_nil
  rw [Content.checkEmpty_eq_ok_iff]
  simp only [Shape.contentFields_eq_ok_iff hnodup, hadmits, true_and]
  constructor
  · rintro ⟨contents, hlists⟩
    exact ⟨_, contents, hlists, rfl⟩
  · rintro ⟨_, contents, hlists, -⟩
    exact ⟨contents, hlists⟩

/-- A plain column type that is read is meant by its tree. -/
theorem isColumnType_of_ofContent {type : BasicType} (hnode : node.Shows tree)
    (hsplit : ColumnType.tagging.split (room + 1) node = .ok (.basic, content))
    (h : BasicType.ofContent content = .ok type) : IsColumnType room tree (.basic type) := by
  obtain ⟨⟨form, rest⟩, hinner, h⟩ := bind_eq_ok_iff.mp h
  cases form with
  | plain type =>
    obtain ⟨⟨⟩, hempty, h⟩ := bind_eq_ok_iff.mp h
    cases h
    obtain ⟨found, hfields⟩ := checkEmpty_eq_ok_iff.mp hempty
    obtain ⟨entries, hselects, hform, -⟩ :=
      Tagging.exists_selects_nested (by decide) hnode hsplit hinner hfields
    exact .plain ⟨hselects, hform⟩
  | string =>
    obtain ⟨found, hfields, h⟩ := bind_eq_ok_iff.mp h
    obtain ⟨length, hlength, h⟩ := bind_eq_ok_iff.mp h
    cases h
    obtain ⟨entries, hselects, hform, hrel⟩ :=
      Tagging.exists_selects_nested (by decide) hnode hsplit hinner hfields
    exact .string ⟨hselects, hform⟩ ((Field.get_eq_ok_iff_has (hrel _ (by decide))).mp hlength)
  | bigDecimal =>
    obtain ⟨found, hfields, h⟩ := bind_eq_ok_iff.mp h
    obtain ⟨precision, hprecision, h⟩ := bind_eq_ok_iff.mp h
    obtain ⟨scale, hscale, h⟩ := bind_eq_ok_iff.mp h
    cases h
    obtain ⟨entries, hselects, hform, hrel⟩ :=
      Tagging.exists_selects_nested (by decide) hnode hsplit hinner hfields
    exact .bigDecimal ⟨hselects, hform⟩
      ((Field.get_eq_ok_iff_has (hrel _ (by decide))).mp hprecision)
      ((Field.get_eq_ok_iff_has (hrel _ (by decide))).mp hscale)

/-- A column type that is read is meant by its tree. -/
theorem isColumnType_of_read (hnode : node.Shows tree)
    (h : ColumnType.read (room + 1) node = .ok type) : IsColumnType room tree type := by
  obtain ⟨⟨form, content⟩, hsplit, h⟩ := bind_eq_ok_iff.mp h
  cases form with
  | identifier =>
    obtain ⟨found, hfields, h⟩ := bind_eq_ok_iff.mp h
    obtain ⟨kind, hkind, h⟩ := bind_eq_ok_iff.mp h
    obtain ⟨generated, hgenerated, h⟩ := bind_eq_ok_iff.mp h
    cases h
    obtain ⟨entries, hselects, hrel⟩ := Tagging.exists_selects (by decide) hnode hsplit hfields
    exact .identifier hselects ((Field.get_eq_ok_iff_has (hrel _ (by decide))).mp hkind)
      ((Field.get_eq_ok_iff_has (hrel _ (by decide))).mp hgenerated)
  | version =>
    obtain ⟨found, hfields, h⟩ := bind_eq_ok_iff.mp h
    obtain ⟨kind, hkind, h⟩ := bind_eq_ok_iff.mp h
    cases h
    obtain ⟨entries, hselects, hrel⟩ := Tagging.exists_selects (by decide) hnode hsplit hfields
    exact .version hselects ((Field.get_eq_ok_iff_has (hrel _ (by decide))).mp hkind)
  | basic =>
    obtain ⟨type, htype, h⟩ := bind_eq_ok_iff.mp h
    cases h
    exact isColumnType_of_ofContent hnode hsplit htype
  | manyToOne =>
    obtain ⟨found, hfields, h⟩ := bind_eq_ok_iff.mp h
    obtain ⟨target, htarget, h⟩ := bind_eq_ok_iff.mp h
    cases h
    obtain ⟨entries, hselects, hrel⟩ := Tagging.exists_selects (by decide) hnode hsplit hfields
    exact .manyToOne hselects ((Field.get_eq_ok_iff_has (hrel _ (by decide))).mp htarget)

/-- A column type that is meant by a tree is read. -/
theorem IsColumnType.read_eq_ok (hnode : node.Shows tree) (h : IsColumnType room tree type) :
    ColumnType.read (room + 1) node = .ok type := by
  cases h with
  | identifier h hkind hgenerated =>
    obtain ⟨content, found, hsplit, hfields, hrel⟩ := h.exists_fields (by decide) hnode
      (List.forall_mem_cons.mpr ⟨hkind.fitsAll, List.forall_mem_singleton.mpr hgenerated.fitsAll⟩)
    have hkind := (Field.get_eq_ok_iff_has (hrel _ (by decide))).mpr hkind
    have hgenerated := (Field.get_eq_ok_iff_has (hrel _ (by decide))).mpr hgenerated
    simp only [ColumnType.read, hsplit, hfields, hkind, hgenerated, bind, Except.bind]
    rfl
  | version h hkind =>
    obtain ⟨content, found, hsplit, hfields, hrel⟩ := h.exists_fields (by decide) hnode
      (List.forall_mem_singleton.mpr hkind.fitsAll)
    have hkind := (Field.get_eq_ok_iff_has (hrel _ (by decide))).mpr hkind
    simp only [ColumnType.read, hsplit, hfields, hkind, bind, Except.bind]
    rfl
  | manyToOne h htarget =>
    obtain ⟨content, found, hsplit, hfields, hrel⟩ := h.exists_fields (by decide) hnode
      (List.forall_mem_singleton.mpr htarget.fitsAll)
    have htarget := (Field.get_eq_ok_iff_has (hrel _ (by decide))).mpr htarget
    simp only [ColumnType.read, hsplit, hfields, htarget, bind, Except.bind]
    rfl
  | plain h =>
    obtain ⟨content, rest, found, hsplit, hinner, hfields, -⟩ :=
      h.basic.exists_fields_nested (by decide) hnode h.form nofun
    have hempty := checkEmpty_eq_ok_iff.mpr ⟨found, hfields⟩
    simp only [ColumnType.read, BasicType.ofContent, hsplit, hinner, hempty, bind, Except.bind]
    rfl
  | string h hlength =>
    obtain ⟨content, rest, found, hsplit, hinner, hfields, hrel⟩ :=
      h.basic.exists_fields_nested (by decide) hnode h.form
        (List.forall_mem_singleton.mpr hlength.fitsAll)
    have hlength := (Field.get_eq_ok_iff_has (hrel _ (by decide))).mpr hlength
    simp only [ColumnType.read, BasicType.ofContent, hsplit, hinner, hfields, hlength, bind,
      Except.bind]
    rfl
  | bigDecimal h hprecision hscale =>
    obtain ⟨content, rest, found, hsplit, hinner, hfields, hrel⟩ :=
      h.basic.exists_fields_nested (by decide) hnode h.form
        (List.forall_mem_cons.mpr
          ⟨hprecision.fitsAll, List.forall_mem_singleton.mpr hscale.fitsAll⟩)
    have hprecision := (Field.get_eq_ok_iff_has (hrel _ (by decide))).mpr hprecision
    have hscale := (Field.get_eq_ok_iff_has (hrel _ (by decide))).mpr hscale
    simp only [ColumnType.read, BasicType.ofContent, hsplit, hinner, hfields, hprecision, hscale,
      bind, Except.bind]
    rfl

/-- A column type is read if the tree means one. -/
theorem agrees_readColumnType (room : Nat) :
    Agrees Node.Shows (ColumnType.read (room + 1)) (IsColumnType room) :=
  fun _ _ hnode _ => ⟨isColumnType_of_read hnode, fun h => h.read_eq_ok hnode⟩

end ColumnType

/-! ## Attributes -/

/-- The names of the fields of an attribute. -/
def Attribute.fieldNames : List String :=
  ["name", "column_type", "column_name", "column_unique", "column_nullable", "column_insertable",
    "column_updatable", "constraints"]

/-- Whether entries are those of an attribute. -/
structure Attribute.IsListed (room : Nat) (entries : List (String × Tree)) (attr : Attribute) :
    Prop where
  name : Written IsText none (entries.lookup "name") attr.name
  columnType :
    Written (IsOptional (IsColumnType room)) (some none) (entries.lookup "column_type")
      attr.columnType
  columnName :
    Written (IsOptional IsText) (some none) (entries.lookup "column_name") attr.columnName
  isUnique :
    Written (IsOptional IsBoolean) (some none) (entries.lookup "column_unique") attr.isUnique
  isNullable :
    Written (IsOptional IsBoolean) (some none) (entries.lookup "column_nullable") attr.isNullable
  isInsertable :
    Written (IsOptional IsBoolean) (some none) (entries.lookup "column_insertable")
      attr.isInsertable
  isUpdatable :
    Written (IsOptional IsBoolean) (some none) (entries.lookup "column_updatable") attr.isUpdatable
  constraints :
    Written (IsList (IsChoice Constraint.choices)) (some []) (entries.lookup "constraints")
      attr.constraints

/-- Whether a tree means an attribute. -/
def IsAttribute (room : Nat) (tree : Tree) (attr : Attribute) : Prop :=
  ∃ entries, tree.IsRecord Attribute.fieldNames entries ∧ attr.IsListed room entries

section Attribute

variable {room : Nat} {node : Node} {entries : List (String × Tree)} {attr : Attribute}

/-- The name of an attribute is read as what it means. -/
theorem agrees_attributeName : Agrees Node.Shows Attribute.nameField.read IsText :=
  agrees_readText

/-- The column type of an attribute is read as what it means. -/
theorem agrees_columnType : Agrees Node.Shows (Attribute.columnTypeField (room + 1)).read
    (IsOptional (IsColumnType room)) :=
  agrees_readOptional (agrees_readColumnType room)

/-- The column name of an attribute is read as what it means. -/
theorem agrees_columnName : Agrees Node.Shows Attribute.columnNameField.read (IsOptional IsText) :=
  agrees_readOptional agrees_readText

/-- A flag of an attribute is read as what it means. -/
theorem agrees_flag (name : String) :
    Agrees Node.Shows (Attribute.flagField name).read (IsOptional IsBoolean) :=
  agrees_readOptional agrees_readBoolean

/-- The constraints of an attribute are read as what they mean. -/
theorem agrees_constraints :
    Agrees Node.Shows Attribute.constraintsField.read (IsList (IsChoice Constraint.choices)) :=
  agrees_readList (agrees_readChoice _)

/-- The entries of an attribute fit its fields. -/
theorem Attribute.IsListed.fitsAll (h : attr.IsListed room entries) :
    ∀ rule ∈ (Attribute.shape (room + 1)).rules,
      rule.FitsAll Node.Shows (entries.lookup rule.name) := by
  simp only [Attribute.shape, List.forall_mem_cons]
  exact ⟨h.name.fitsAll agrees_attributeName, h.columnType.fitsAll agrees_columnType,
    h.columnName.fitsAll agrees_columnName, h.isUnique.fitsAll (agrees_flag _),
    h.isNullable.fitsAll (agrees_flag _), h.isInsertable.fitsAll (agrees_flag _),
    h.isUpdatable.fitsAll (agrees_flag _), h.constraints.fitsAll agrees_constraints, nofun⟩

/-- An attribute that is read up to its fields is the one its entries are those of. -/
theorem Attribute.read_eq_ok_iff_isListed {found : FoundFields Node}
    (hfields : (Attribute.shape (room + 1)).fields node = .ok found)
    (hrel : ∀ name ∈ Attribute.fieldNames,
      Option.Rel Node.Shows (found.lookup name) (entries.lookup name)) :
    Attribute.read (room + 2) node = .ok attr ↔ attr.IsListed room entries := by
  have hname (result : String) : Attribute.nameField.get found = .ok result ↔
      Written IsText none (entries.lookup "name") result :=
    Field.get_eq_ok_iff agrees_attributeName (hrel "name" (by decide))
  have hcolumnType (result : Option ColumnType) :
      (Attribute.columnTypeField (room + 1)).get found = .ok result ↔
        Written (IsOptional (IsColumnType room)) (some none) (entries.lookup "column_type")
          result :=
    Field.get_eq_ok_iff agrees_columnType (hrel "column_type" (by decide))
  have hcolumnName (result : Option String) : Attribute.columnNameField.get found = .ok result ↔
      Written (IsOptional IsText) (some none) (entries.lookup "column_name") result :=
    Field.get_eq_ok_iff agrees_columnName (hrel "column_name" (by decide))
  have hflag (name : String) (hmem : name ∈ Attribute.fieldNames) (result : Option Bool) :
      (Attribute.flagField name).get found = .ok result ↔
        Written (IsOptional IsBoolean) (some none) (entries.lookup name) result :=
    Field.get_eq_ok_iff (agrees_flag name) (hrel name hmem)
  have hconstraints (result : List Constraint) : Attribute.constraintsField.get found = .ok result ↔
      Written (IsList (IsChoice Constraint.choices)) (some []) (entries.lookup "constraints")
        result :=
    Field.get_eq_ok_iff agrees_constraints (hrel "constraints" (by decide))
  constructor
  · intro h
    obtain ⟨other, hother, h⟩ := bind_eq_ok_iff.mp h
    cases hfields.symm.trans hother
    simp only [bind_eq_ok_iff, pure_eq_ok_iff] at h
    obtain ⟨_, h₁, _, h₂, _, h₃, _, h₄, _, h₅, _, h₆, _, h₇, _, h₈, rfl⟩ := h
    exact ⟨(hname _).mp h₁, (hcolumnType _).mp h₂, (hcolumnName _).mp h₃,
      (hflag _ (by decide) _).mp h₄, (hflag _ (by decide) _).mp h₅, (hflag _ (by decide) _).mp h₆,
      (hflag _ (by decide) _).mp h₇, (hconstraints _).mp h₈⟩
  · intro h
    refine bind_eq_ok_iff.mpr ⟨found, hfields, ?_⟩
    simp only [bind_eq_ok_iff, pure_eq_ok_iff]
    exact ⟨_, (hname _).mpr h.name, _, (hcolumnType _).mpr h.columnType,
      _, (hcolumnName _).mpr h.columnName, _, (hflag _ (by decide) _).mpr h.isUnique,
      _, (hflag _ (by decide) _).mpr h.isNullable, _, (hflag _ (by decide) _).mpr h.isInsertable,
      _, (hflag _ (by decide) _).mpr h.isUpdatable, _, (hconstraints _).mpr h.constraints, rfl⟩

/-- An attribute is read if the tree means one. -/
theorem agrees_readAttribute (room : Nat) :
    Agrees Node.Shows (Attribute.read (room + 2)) (IsAttribute room) := by
  have hnames : (Attribute.shape (room + 1)).names = Attribute.fieldNames := rfl
  have hnodup : (Attribute.shape (room + 1)).names.Nodup := by
    rw [hnames]
    decide
  intro node tree hnode attr
  constructor
  · intro h
    obtain ⟨found, hfields, -⟩ := bind_eq_ok_iff.mp h
    obtain ⟨entries, hrecord, hrel⟩ := Shape.exists_isRecord hnodup hnode hfields
    exact ⟨entries, hrecord, (Attribute.read_eq_ok_iff_isListed hfields hrel).mp h⟩
  · rintro ⟨entries, hrecord, h⟩
    obtain ⟨found, hfields, hrel⟩ := Shape.exists_fields hnodup hnode hrecord h.fitsAll
    exact (Attribute.read_eq_ok_iff_isListed hfields hrel).mpr h

end Attribute

/-! ## Entities -/

/-- The names of the fields of an entity. -/
def Entity.fieldNames : List String :=
  ["name", "package_name", "entity_name", "table_name", "table_schema", "attributes"]

/-- Whether entries are those of an entity. -/
structure Entity.IsListed (room : Nat) (entries : List (String × Tree)) (entity : Entity) :
    Prop where
  name : Written IsText none (entries.lookup "name") entity.name
  packageName : Written IsText (some "") (entries.lookup "package_name") entity.packageName
  entityName :
    Written (IsOptional IsText) (some none) (entries.lookup "entity_name") entity.entityName
  tableName : Written (IsOptional IsText) (some none) (entries.lookup "table_name") entity.tableName
  tableSchema :
    Written (IsOptional IsText) (some none) (entries.lookup "table_schema") entity.tableSchema
  attributes :
    Written (IsList (IsAttribute room)) (some []) (entries.lookup "attributes") entity.attributes

/-- Whether a tree means an entity. -/
def IsEntity (room : Nat) (tree : Tree) (entity : Entity) : Prop :=
  ∃ entries, tree.IsRecord Entity.fieldNames entries ∧ entity.IsListed room entries

section Entity

variable {room : Nat} {node : Node} {entries : List (String × Tree)} {entity : Entity}

/-- The name of an entity is read as what it means. -/
theorem agrees_entityName : Agrees Node.Shows Entity.nameField.read IsText :=
  agrees_readText

/-- The package of an entity is read as what it means. -/
theorem agrees_packageName : Agrees Node.Shows Entity.packageNameField.read IsText :=
  agrees_readText

/-- An optional name of an entity is read as what it means. -/
theorem agrees_optionalName (name : String) :
    Agrees Node.Shows (Entity.optionalNameField name).read (IsOptional IsText) :=
  agrees_readOptional agrees_readText

/-- The attributes of an entity are read as what they mean. -/
theorem agrees_attributes : Agrees Node.Shows (Entity.attributesField (room + 3)).read
    (IsList (IsAttribute room)) :=
  agrees_readList (agrees_readAttribute room)

/-- The entries of an entity fit its fields. -/
theorem Entity.IsListed.fitsAll (h : entity.IsListed room entries) :
    ∀ rule ∈ (Entity.shape (room + 3)).rules,
      rule.FitsAll Node.Shows (entries.lookup rule.name) := by
  simp only [Entity.shape, List.forall_mem_cons]
  exact ⟨h.name.fitsAll agrees_entityName, h.packageName.fitsAll agrees_packageName,
    h.entityName.fitsAll (agrees_optionalName _), h.tableName.fitsAll (agrees_optionalName _),
    h.tableSchema.fitsAll (agrees_optionalName _), h.attributes.fitsAll agrees_attributes, nofun⟩

/-- An entity that is read up to its fields is the one its entries are those of. -/
theorem Entity.read_eq_ok_iff_isListed {found : FoundFields Node}
    (hfields : (Entity.shape (room + 3)).fields node = .ok found)
    (hrel : ∀ name ∈ Entity.fieldNames,
      Option.Rel Node.Shows (found.lookup name) (entries.lookup name)) :
    Entity.read (room + 4) node = .ok entity ↔ entity.IsListed room entries := by
  have hname (result : String) : Entity.nameField.get found = .ok result ↔
      Written IsText none (entries.lookup "name") result :=
    Field.get_eq_ok_iff agrees_entityName (hrel "name" (by decide))
  have hpackageName (result : String) : Entity.packageNameField.get found = .ok result ↔
      Written IsText (some "") (entries.lookup "package_name") result :=
    Field.get_eq_ok_iff agrees_packageName (hrel "package_name" (by decide))
  have hoptionalName (name : String) (hmem : name ∈ Entity.fieldNames) (result : Option String) :
      (Entity.optionalNameField name).get found = .ok result ↔
        Written (IsOptional IsText) (some none) (entries.lookup name) result :=
    Field.get_eq_ok_iff (agrees_optionalName name) (hrel name hmem)
  have hattributes (result : List Attribute) :
      (Entity.attributesField (room + 3)).get found = .ok result ↔
        Written (IsList (IsAttribute room)) (some []) (entries.lookup "attributes") result :=
    Field.get_eq_ok_iff agrees_attributes (hrel "attributes" (by decide))
  constructor
  · intro h
    obtain ⟨other, hother, h⟩ := bind_eq_ok_iff.mp h
    cases hfields.symm.trans hother
    simp only [bind_eq_ok_iff, pure_eq_ok_iff] at h
    obtain ⟨_, h₁, _, h₂, _, h₃, _, h₄, _, h₅, _, h₆, rfl⟩ := h
    exact ⟨(hname _).mp h₁, (hpackageName _).mp h₂, (hoptionalName _ (by decide) _).mp h₃,
      (hoptionalName _ (by decide) _).mp h₄, (hoptionalName _ (by decide) _).mp h₅,
      (hattributes _).mp h₆⟩
  · intro h
    refine bind_eq_ok_iff.mpr ⟨found, hfields, ?_⟩
    simp only [bind_eq_ok_iff, pure_eq_ok_iff]
    exact ⟨_, (hname _).mpr h.name, _, (hpackageName _).mpr h.packageName,
      _, (hoptionalName _ (by decide) _).mpr h.entityName,
      _, (hoptionalName _ (by decide) _).mpr h.tableName,
      _, (hoptionalName _ (by decide) _).mpr h.tableSchema,
      _, (hattributes _).mpr h.attributes, rfl⟩

/-- An entity is read if the tree means one. -/
theorem agrees_readEntity (room : Nat) :
    Agrees Node.Shows (Entity.read (room + 4)) (IsEntity room) := by
  have hnames : (Entity.shape (room + 3)).names = Entity.fieldNames := rfl
  have hnodup : (Entity.shape (room + 3)).names.Nodup := by
    rw [hnames]
    decide
  intro node tree hnode entity
  constructor
  · intro h
    obtain ⟨found, hfields, -⟩ := bind_eq_ok_iff.mp h
    obtain ⟨entries, hrecord, hrel⟩ := Shape.exists_isRecord hnodup hnode hfields
    exact ⟨entries, hrecord, (Entity.read_eq_ok_iff_isListed hfields hrel).mp h⟩
  · rintro ⟨entries, hrecord, h⟩
    obtain ⟨found, hfields, hrel⟩ := Shape.exists_fields hnodup hnode hrecord h.fitsAll
    exact (Entity.read_eq_ok_iff_isListed hfields hrel).mpr h

end Entity

/-! ## Sets of entities -/

/-- The number of containers that may be opened in the parts of a column type. Five are open around
them: the lists of entities and of attributes, an entity, an attribute, and the column type. -/
def columnTypeRoom : Nat := nestingLimit - 5

/-- Whether a tree means a list of entities. -/
def IsModel : Tree → List Entity → Prop :=
  IsList (IsEntity columnTypeRoom)

/-- A list of entities is read if the tree means one. -/
theorem agrees_readEntities : Agrees Node.Shows readEntities IsModel :=
  agrees_readList (agrees_readEntity columnTypeRoom)

/-- A text is read as a set of entities if what it writes means them. -/
theorem EntitySet.ofJson_eq_ok_iff {text : String} {tree : Tree} {set : EntitySet}
    (hwrites : Writes text tree) : ofJson text = .ok set ↔
      ∃ entities, IsModel tree entities ∧ ofEntities entities = .ok set := by
  obtain ⟨node, hdocument, hnode⟩ := exists_ofText_of_writes hwrites
  simp only [ofJson, hdocument, Document.read, EntitySet.read, bind_eq_ok_iff, pure_eq_ok_iff,
    agrees_readEntities _ _ hnode _]
  constructor
  · rintro ⟨_, ⟨entities, hentities, h⟩, rfl⟩
    refine ⟨entities, hentities, ?_⟩
    cases hset : ofEntities entities with
    | error => simp [hset] at h
    | ok => simpa [hset, pure, Except.pure] using h
  · rintro ⟨entities, hentities, hset⟩
    exact ⟨set, ⟨entities, hentities, by simp [hset, pure, Except.pure]⟩, rfl⟩

end PersistenceLayer
