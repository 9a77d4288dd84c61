import PersistenceLayer.Proofs.PresentedRecords
import PersistenceLayer.Proofs.ThoroughReaders

/-!
# Models do not depend on their presentation

A change of presentation keeps what a tree means: first what a field means, then a
column type, an attribute, an entity and a list of entities. So a text is read as
the same set of entities after any number of changes.
-/

namespace PersistenceLayer

open Json

/-! ## What stays as it is -/

/-- Whether changes at a place keep what a tree means. -/
def Keeps {α : Type} (place : Place) (Means : Tree → α → Prop) : Prop :=
  ∀ ⦃tree changed⦄, Changes place tree changed →
    ∀ ⦃result⦄, Means tree result → Means changed result

section Keeps

variable {α : Type} {Means : Tree → α → Prop} {place : Place}

/-- What only rigid trees mean is kept. -/
theorem keeps_of_isRigid (h : ∀ ⦃tree result⦄, Means tree result → tree.IsRigid) :
    Keeps .other Means := by
  intro tree changed hchange result hmeans
  rwa [hchange.eq_of_isRigid (h hmeans)]

/-- A text is rigid. -/
theorem IsText.isRigid {tree : Tree} {result : String} (h : IsText tree result) : tree.IsRigid := by
  rw [show tree = .text (some result) from h]
  exact .text

/-- A truth value is rigid. -/
theorem IsBoolean.isRigid {tree : Tree} {result : Bool} (h : IsBoolean tree result) :
    tree.IsRigid := by
  rw [show tree = .boolean result from h]
  exact .boolean

/-- An optional value is rigid if the value is. -/
theorem Json.IsOptional.isRigid (h : ∀ ⦃tree result⦄, Means tree result → tree.IsRigid)
    ⦃tree : Tree⦄ ⦃result : Option α⦄ (hmeans : IsOptional Means tree result) : tree.IsRigid := by
  cases hmeans with
  | absent => exact .null
  | present _ hmeans => exact h hmeans

/-- A choice is rigid. -/
theorem Json.IsChoice.isRigid {choices : List (String × α)} ⦃tree : Tree⦄ ⦃result : α⦄
    (h : IsChoice choices tree result) : tree.IsRigid := by
  cases h with
  | name => exact .text
  | key => exact .object (Nat.le_refl 1) (List.forall_mem_singleton.mpr .null)

/-- A list is rigid if its items are. -/
theorem Json.IsList.isRigid (h : ∀ ⦃tree result⦄, Means tree result → tree.IsRigid)
    ⦃tree : Tree⦄ ⦃result : List α⦄ (hmeans : IsList Means tree result) : tree.IsRigid := by
  obtain ⟨hitems⟩ := hmeans
  refine .list fun item hitem => ?_
  obtain ⟨index, hindex⟩ := List.mem_iff_getElem?.mp hitem
  obtain ⟨result, -, hresult⟩ := exists_getElem?_of_forall₂ hitems hindex
  exact h hresult

/-- Whatever is not null may also be absent. No change makes null of anything. -/
theorem keeps_isOptional (h : Keeps place Means) : Keeps place (IsOptional Means) := by
  intro tree changed hchange result hmeans
  cases hmeans with
  | absent => cases hchange
  | present hne hmeans =>
    refine .present ?_ (h hchange hmeans)
    rintro rfl
    cases hchange

/-- Items stay related if one of them is exchanged for another that is. -/
theorem forall₂_exchange {before after : List Tree} {item changed : Tree} {results : List α}
    (h : List.Forall₂ Means (before ++ item :: after) results)
    (hitem : ∀ result, Means item result → Means changed result) :
    List.Forall₂ Means (before ++ changed :: after) results := by
  induction before generalizing results with
  | nil =>
    cases h with
    | cons hfirst hothers => exact .cons (hitem _ hfirst) hothers
  | cons first before ih =>
    cases h with
    | cons hfirst hothers => exact .cons hfirst (ih hothers)

/-- A list of parts of a model is kept if each of its items is. -/
theorem keeps_isList (hplace : place = .model ∨ place = .attributes)
    (h : ∀ index, Keeps (place.item index) Means) : Keeps place (IsList Means) := by
  intro tree changed hchange results hmeans
  obtain ⟨hitems⟩ := hmeans
  cases hchange with
  | item hchange => exact .mk (forall₂_exchange hitems fun _ hresult => h _ hchange hresult)
  | defaultItem huses =>
    obtain rfl | rfl := hplace
    · cases huses
    · cases huses

/-- What is written for a field is kept if its meaning is, and if its default means what it is when
it is left out. -/
theorem Json.Written.of_fieldChanges {default? : Option Tree} {absent? : Option α}
    {listed other : Option Tree} {result : α} (h : Written Means absent? listed result)
    (hkeeps : Keeps place Means)
    (hdefault : ∀ tree result, default? = some tree → absent? = some result → Means tree result)
    (hchange : FieldChanges place default? listed other) : Written Means absent? other result := by
  cases hchange with
  | same => exact h
  | change hchange => exact hkeeps hchange h
  | default hlisted => exact hdefault _ _ hlisted h

/-- What is written for a required field is kept if its meaning is. -/
theorem Json.Written.of_required {absent? : Option α} {listed other : Option Tree} {result : α}
    (h : Written Means absent? listed result) (hkeeps : Keeps place Means)
    (hchange : FieldChanges place none listed other) : Written Means absent? other result := by
  refine h.of_fieldChanges hkeeps ?_ hchange
  rintro _ _ ⟨⟩

/-- What may be absent is kept if null is written where it is left out. -/
theorem Json.Written.of_optional {listed other : Option Tree} {result : Option α}
    (h : Written (IsOptional Means) (some none) listed result)
    (hkeeps : Keeps place (IsOptional Means))
    (hchange : FieldChanges place (some .null) listed other) :
    Written (IsOptional Means) (some none) other result := by
  refine h.of_fieldChanges hkeeps ?_ hchange
  rintro _ _ ⟨⟩ ⟨⟩
  exact .absent

/-- A list is kept if the empty one is written where it is left out. -/
theorem Json.Written.of_list {listed other : Option Tree} {results : List α}
    (h : Written (IsList Means) (some []) listed results) (hkeeps : Keeps place (IsList Means))
    (hchange : FieldChanges place (some (.list [])) listed other) :
    Written (IsList Means) (some []) other results := by
  refine h.of_fieldChanges hkeeps ?_ hchange
  rintro _ _ ⟨⟩ ⟨⟩
  exact .mk .nil

/-- Texts keep their meaning. -/
theorem keeps_isText : Keeps .other IsText :=
  keeps_of_isRigid fun _ _ => IsText.isRigid

/-- Optional texts keep their meaning. -/
theorem keeps_isOptional_isText : Keeps .other (IsOptional IsText) :=
  keeps_of_isRigid (IsOptional.isRigid fun _ _ => IsText.isRigid)

/-- Optional truth values keep their meaning. -/
theorem keeps_isOptional_isBoolean : Keeps .other (IsOptional IsBoolean) :=
  keeps_of_isRigid (IsOptional.isRigid fun _ _ => IsBoolean.isRigid)

/-- Lists of choices keep their meaning. -/
theorem keeps_isList_isChoice (choices : List (String × α)) :
    Keeps .other (IsList (IsChoice choices)) :=
  keeps_of_isRigid (IsList.isRigid IsChoice.isRigid)

end Keeps

/-! ## Values that stay as they are -/

/-- Values whose objects have no more than one member. -/
inductive Json.Value.IsRigid : Value → Prop
  | null : Json.Value.IsRigid .null
  | boolean {value : Bool} : Json.Value.IsRigid (.boolean value)
  | integer {value : Int} : Json.Value.IsRigid (.integer value)
  | text {value : String} : Json.Value.IsRigid (.text value)
  | object {members : List (String × Value)} (hshort : members.length ≤ 1)
      (h : ∀ member ∈ members, Json.Value.IsRigid member.2) : Json.Value.IsRigid (.object members)

/-- Members are related to their values. -/
theorem Json.forall₂_of_memberValues? {room : Nat} {members : List (Option String × Tree)}
    {values : List (String × Value)} (h : memberValues? room members = some values) :
    List.Forall₂ (fun member value => IsValueOf room value.2 member.2) members values := by
  induction members generalizing values with
  | nil =>
    cases h
    exact .nil
  | cons member members ih =>
    obtain ⟨key, tree⟩ := member
    simp only [memberValues?, Option.bind_eq_bind, Option.bind_eq_some_iff, Option.pure_def,
      Option.some.injEq] at h
    obtain ⟨name, -, value, hvalue, others, hothers, rfl⟩ := h
    exact .cons hvalue (ih hothers)

/-- A tree with a rigid value is rigid. -/
theorem Json.IsValueOf.isRigid {value : Value} (hvalue : value.IsRigid) {room : Nat} {tree : Tree}
    (h : IsValueOf room value tree) : tree.IsRigid := by
  induction hvalue generalizing room tree with
  | @object values hshort _ ih =>
    cases tree with
    | null => exact .null
    | boolean => exact .boolean
    | number => exact .number
    | text => exact .text
    | list => cases room <;> simp [IsValueOf, Tree.value?] at h
    | object members =>
      obtain - | room := room
      · cases h
      obtain ⟨others, hothers, heq⟩ := Option.map_eq_some_iff.mp h
      obtain rfl := Value.object.inj heq
      have hmembers := forall₂_of_memberValues? hothers
      refine .object (hmembers.length_eq ▸ hshort) fun member hmember => ?_
      obtain ⟨index, hindex⟩ := List.mem_iff_getElem?.mp hmember
      obtain ⟨value, hvalue, hmeans⟩ := exists_getElem?_of_forall₂ hmembers hindex
      exact ih value (List.mem_of_getElem? hvalue) hmeans
  | _ =>
    cases tree with
    | null => exact .null
    | boolean => exact .boolean
    | number => exact .number
    | text => exact .text
    | list | object => cases room <;> simp [IsValueOf, Tree.value?] at h

section Readers

variable {α : Type} {value : Value}

/-- Whether a reader takes rigid values only. -/
def ReadsRigid (read : Value → Except Fault α) : Prop :=
  ∀ ⦃value result⦄, read value = .ok result → value.IsRigid

/-- What is read as a text is rigid. -/
theorem readsRigid_readText : ReadsRigid Value.readText := by
  intro value result h
  cases value with
  | text => exact .text
  | _ => cases h

/-- What is read as a truth value is rigid. -/
theorem readsRigid_readBoolean : ReadsRigid Value.readBoolean := by
  intro value result h
  cases value with
  | boolean => exact .boolean
  | _ => cases h

/-- What is read as a number is rigid. -/
theorem readsRigid_readWord : ReadsRigid Value.readWord := by
  intro value result h
  cases value with
  | integer => exact .integer
  | _ => cases h

/-- What is read as an optional value is rigid if the value is. -/
theorem readsRigid_readOptional {read : Value → Except Fault α} (h : ReadsRigid read) :
    ReadsRigid (Value.readOptional read) := by
  intro value result hread
  cases value with
  | null => exact .null
  | _ =>
    obtain ⟨result, hresult, -⟩ := map_eq_ok_iff.mp hread
    exact h hresult

/-- What is read as a choice is rigid. -/
theorem readsRigid_readChoice (choices : List (String × α)) :
    ReadsRigid (Value.readChoice choices) := by
  intro value result h
  cases value with
  | text => exact .text
  | object members =>
    match members with
    | [] | _ :: _ :: _ => cases h
    | [(name, content)] =>
      refine .object (Nat.le_refl 1) (List.forall_mem_singleton.mpr ?_)
      obtain ⟨choice, -, h⟩ := bind_eq_ok_iff.mp h
      match content with
      | .null => exact .null
      | .object [] => exact .object (Nat.zero_le 1) nofun
      | .boolean _ | .integer _ | .decimal _ | .text _ | .list _ | .object (_ :: _) => cases h
  | _ => cases h

/-- What is read as a tag is rigid. -/
theorem readsRigid_readTag (tagging : Tagging α) : ReadsRigid tagging.readTag := by
  intro value result h
  cases value with
  | text => exact .text
  | integer => exact .integer
  | _ => cases h

/-- What is meant by a rigid value is kept. -/
theorem keeps_meansBy {read : Value → Except Fault α} (h : ReadsRigid read) (room : Nat) :
    Keeps .other (MeansBy room read) := by
  refine keeps_of_isRigid ?_
  rintro tree result ⟨value, hvalue, hread⟩
  exact hvalue.isRigid (h hread)

end Readers

/-! ## Column types -/

section ColumnType

variable {tree changed : Tree} {names : List String} {entries others : List (String × Tree)}
  {fields : FieldTable}

/-- A tag of a record is looked up as what it is. -/
theorem HasTag.lookup {tag : String} {index : Nat} {value : Tree} (h : HasTag tag index value tree)
    (hrecord : tree.IsRecord names entries) (hnodup : names.Nodup)
    (hindex : names[index]? = some tag) : entries.lookup tag = some value := by
  obtain ⟨hlists, honce⟩ := hrecord
  cases h with
  | member h =>
    obtain ⟨rfl⟩ := hlists
    exact (lookup_eq_some_iff_mem (honce tag (List.mem_of_getElem? hindex))).mpr
      (mem_keyed_iff.mp h)
  | item h =>
    cases hlists
    rw [lookup_zip hnodup hindex, h]

/-- A tree is the name of one choice only. -/
theorem Json.Tagging.IsTag.unique {α : Type} {tagging : Tagging α} {choice other : α}
    (h : tagging.IsTag tree choice) (hother : tagging.IsTag tree other) : choice = other := by
  obtain ⟨name, rfl, hchoice⟩ := h
  obtain ⟨_, hname, hother⟩ := hother
  cases hname
  exact Option.some_inj.mp (hchoice.symm.trans hother)

/-- A tag is rigid. -/
theorem Json.Tagging.IsTag.isRigid {α : Type} {tagging : Tagging α} {choice : α}
    (h : tagging.IsTag tree choice) : tree.IsRigid := by
  obtain ⟨name, rfl, -⟩ := h
  exact .text

/-- A tree means one thing only if its value is read. -/
theorem Json.MeansBy.unique {α : Type} {room : Nat} {read : Value → Except Fault α}
    {result other : α} (h : MeansBy room read tree result)
    (hother : MeansBy room read tree other) : result = other := by
  obtain ⟨value, hvalue, hread⟩ := h
  obtain ⟨_, hsame, hother⟩ := hother
  cases hvalue.symm.trans hsame
  exact Except.ok.inj (hread.symm.trans hother)

/-- The category of a tree that selects a form names this form. -/
theorem Json.Tagging.Selects.isTag {room : Nat} {form : ColumnType.Form} {category : Tree}
    (h : ColumnType.tagging.Selects room names form tree entries)
    (hnodup : ("category" :: names).Nodup) (hcategory : HasTag "category" 0 category tree) :
    ColumnType.tagging.IsTag category form := by
  have hlookup := hcategory.lookup h.record hnodup rfl
  have hchoice := h.choice
  rwa [show entries.lookup ColumnType.tagging.tag = some category from hlookup] at hchoice

/-- A column type that is not plain uses the fields of its form. -/
theorem Uses.eq_of_selects {room : Nat} {form : ColumnType.Form} (hform : form ≠ .basic)
    (h : ColumnType.tagging.Selects room names form tree entries)
    (hnodup : ("category" :: names).Nodup) (huses : Uses .columnType tree fields) :
    fields = form.fieldTable := by
  cases huses with
  | columnType hcategory hother => rw [(h.isTag hnodup hcategory).unique hother]
  | basicType hcategory hbasic => exact absurd ((h.isTag hnodup hcategory).unique hbasic) hform

/-- A plain column type uses the fields of its form. -/
theorem Uses.eq_of_selects_basic {shape : Shape Value} {form : BasicType.Form}
    (h : BasicType.Selects columnTypeRoom shape form tree entries)
    (hnodup : ("category" :: "type" :: shape.names).Nodup) (huses : Uses .columnType tree fields) :
    fields = form.fieldTable := by
  cases huses with
  | columnType hcategory hother hne =>
    exact absurd ((h.basic.isTag hnodup hcategory).unique hother).symm hne
  | basicType _ _ htype hother =>
    have hlookup := htype.lookup h.basic.record hnodup rfl
    have hform := h.form
    rw [show entries.lookup BasicType.tagging.tag = some _ from hlookup] at hform
    rw [hform.unique hother]

/-- A changed tree selects the same form, and its fields change no more than those of a record. -/
theorem Json.Tagging.Selects.exists_of_changes {form : ColumnType.Form}
    (h : ColumnType.tagging.Selects columnTypeRoom names form tree entries)
    (hchange : Changes .columnType tree changed) (hnodup : ("category" :: names).Nodup)
    (hnames : fields.names = "category" :: names) (hfields : ("category", none) ∈ fields)
    (hdefaults : ∀ field ∈ fields, ∀ value, field.2 = some value →
      (value.value? columnTypeRoom).isSome)
    (huses : ∀ other, Uses .columnType tree other → other = fields) :
    ∃ others, ColumnType.tagging.Selects columnTypeRoom names form changed others ∧
      EntriesChange .columnType fields entries others := by
  have hrecord : tree.IsRecord fields.names entries := hnames ▸ h.record
  obtain ⟨others, hothers, hentries⟩ :=
    hchange.exists_entriesChange (hnames ▸ hnodup) huses (fun _ => rfl) hrecord
  refine ⟨others, ⟨hnames ▸ hothers, ?_, fun entry hentry => ?_⟩, hentries⟩
  · have htag : Keeps .other ColumnType.tagging.IsTag := keeps_of_isRigid fun _ _ => IsTag.isRigid
    exact h.choice.of_required htag (hentries.lookups _ hfields)
  · obtain ⟨hmem, hne⟩ := List.mem_filter.mp hentry
    cases hentries.origin entry hmem with
    | same hold => exact h.values _ (List.mem_filter.mpr ⟨hold, hne⟩)
    | change hold hvalue =>
      exact hvalue.isSome_value? (h.values _ (List.mem_filter.mpr ⟨hold, hne⟩))
    | surplus hvalue => cases hvalue <;> rfl
    | default hfield => exact hdefaults _ hfield _ rfl

/-- The fields of a column type start with its category, and every default has a value. -/
theorem ColumnType.Form.fieldTable_spec (form : ColumnType.Form) :
    ("category", none) ∈ form.fieldTable ∧ ∀ field ∈ form.fieldTable, ∀ value,
      field.2 = some value → (value.value? columnTypeRoom).isSome := by
  cases form <;> simp [fieldTable, Tree.value?]

/-- The fields of a plain column type start with its category and its type, and every default has a
value. -/
theorem BasicType.Form.fieldTable_spec (form : BasicType.Form) :
    ("category", none) ∈ form.fieldTable ∧ ("type", none) ∈ form.fieldTable ∧
      ∀ field ∈ form.fieldTable, ∀ value,
        field.2 = some value → (value.value? columnTypeRoom).isSome := by
  cases form <;> simp [fieldTable, Tree.value?]

/-- A changed column type that is not plain selects the same form. -/
theorem ColumnType.Selects.exists_changed {shape : Shape Value} {form : ColumnType.Form}
    (h : ColumnType.Selects columnTypeRoom shape form tree entries)
    (hchange : Changes .columnType tree changed) (hform : form ≠ .basic)
    (hnodup : ("category" :: shape.names).Nodup)
    (hnames : form.fieldTable.names = "category" :: shape.names) :
    ∃ others, ColumnType.Selects columnTypeRoom shape form changed others ∧
      EntriesChange .columnType form.fieldTable entries others := by
  obtain ⟨hcategory, hdefaults⟩ := form.fieldTable_spec
  exact Tagging.Selects.exists_of_changes h hchange hnodup hnames hcategory hdefaults
    fun _ huses => huses.eq_of_selects hform h hnodup

/-- A changed plain column type selects the same form. -/
theorem BasicType.Selects.exists_changed {shape : Shape Value} {form : BasicType.Form}
    (h : BasicType.Selects columnTypeRoom shape form tree entries)
    (hchange : Changes .columnType tree changed)
    (hnodup : ("category" :: "type" :: shape.names).Nodup)
    (hnames : form.fieldTable.names = "category" :: "type" :: shape.names) :
    ∃ others, BasicType.Selects columnTypeRoom shape form changed others ∧
      EntriesChange .columnType form.fieldTable entries others := by
  obtain ⟨hcategory, htype, hdefaults⟩ := form.fieldTable_spec
  obtain ⟨others, hothers, hentries⟩ := h.basic.exists_of_changes hchange hnodup hnames hcategory
    hdefaults fun _ huses => huses.eq_of_selects_basic h hnodup
  have hform := h.form.of_required (keeps_meansBy (readsRigid_readTag _) _)
    (hentries.lookups _ htype)
  exact ⟨others, ⟨hothers, hform⟩, hentries⟩

/-- A required field of a column type is kept. -/
theorem Json.Field.Has.of_required {α : Type} {field : Field Value α} {result : α}
    (h : field.Has columnTypeRoom entries result) (hrigid : ReadsRigid field.read)
    (hchange : EntriesChange .columnType fields entries others)
    (hfield : (field.name, none) ∈ fields) :
    field.Has columnTypeRoom others result :=
  Written.of_required h (keeps_meansBy hrigid _) (hchange.lookups _ hfield)

/-- A field of a column type with a default is kept, as the default is written as what it means. -/
theorem Json.Field.Has.of_default {α : Type} {field : Field Value α} {result : α} {default : Tree}
    (h : field.Has columnTypeRoom entries result) (hrigid : ReadsRigid field.read)
    (hdefault : ∀ result, field.default? = some result →
      MeansBy columnTypeRoom field.read default result)
    (hchange : EntriesChange .columnType fields entries others)
    (hfield : (field.name, some default) ∈ fields) : field.Has columnTypeRoom others result := by
  refine Written.of_fieldChanges h (keeps_meansBy hrigid _) ?_ (hchange.lookups _ hfield)
  rintro _ result ⟨⟩ hresult
  exact hdefault result hresult

/-- A number that is left out of a plain column type is kept. -/
theorem BasicType.has_wordField {name : String} {result : Option UInt32}
    (h : (BasicType.wordField name).Has columnTypeRoom entries result)
    (hchange : EntriesChange .columnType fields entries others)
    (hfield : (name, some Tree.null) ∈ fields) :
    (BasicType.wordField name).Has columnTypeRoom others result := by
  refine h.of_default (readsRigid_readOptional readsRigid_readWord) ?_ hchange hfield
  rintro _ ⟨⟩
  exact ⟨.null, rfl, rfl⟩

/-- The column type that a tree means is kept. -/
theorem keeps_isColumnType : Keeps .columnType (IsColumnType columnTypeRoom) := by
  intro tree changed hchange type h
  cases h with
  | identifier h hkind hgenerated =>
    obtain ⟨others, hothers, hentries⟩ := h.exists_changed hchange nofun (by decide) rfl
    refine .identifier hothers
      (hkind.of_required (readsRigid_readChoice _) hentries (.tail _ (.head _)))
      (hgenerated.of_default readsRigid_readBoolean ?_ hentries (.tail _ (.tail _ (.head _))))
    rintro _ ⟨⟩
    exact ⟨.boolean false, rfl, rfl⟩
  | version h hkind =>
    obtain ⟨others, hothers, hentries⟩ := h.exists_changed hchange nofun (by decide) rfl
    exact .version hothers
      (hkind.of_required (readsRigid_readChoice _) hentries (.tail _ (.head _)))
  | manyToOne h htarget =>
    obtain ⟨others, hothers, hentries⟩ := h.exists_changed hchange nofun (by decide) rfl
    exact .manyToOne hothers (htarget.of_required readsRigid_readText hentries (.tail _ (.head _)))
  | plain h =>
    obtain ⟨others, hothers, -⟩ := h.exists_changed hchange (by decide) rfl
    exact .plain hothers
  | string h hlength =>
    obtain ⟨others, hothers, hentries⟩ := h.exists_changed hchange (by decide) rfl
    exact .string hothers
      (BasicType.has_wordField hlength hentries (.tail _ (.tail _ (.head _))))
  | bigDecimal h hprecision hscale =>
    obtain ⟨others, hothers, hentries⟩ := h.exists_changed hchange (by decide) rfl
    exact .bigDecimal hothers
      (BasicType.has_wordField hprecision hentries (.tail _ (.tail _ (.head _))))
      (BasicType.has_wordField hscale hentries (.tail _ (.tail _ (.tail _ (.head _)))))

end ColumnType

/-! ## Attributes, entities and models -/

/-- The attribute that a tree means is kept. -/
theorem keeps_isAttribute : Keeps .attr (IsAttribute columnTypeRoom) := by
  rintro tree changed hchange attr ⟨entries, hrecord, h⟩
  have huses : ∀ other, Uses .attr tree other → other = Attribute.fieldTable := by
    rintro _ ⟨⟩
    rfl
  obtain ⟨others, hothers, hentries⟩ :=
    hchange.exists_entriesChange (by decide) huses (fun _ => rfl) hrecord
  have hlisted (name : String) (default? : Option Tree)
      (hfield : (name, default?) ∈ Attribute.fieldTable) (hname : name ≠ "column_type") :
      FieldChanges .other default? (entries.lookup name) (others.lookup name) := by
    have hplace : Place.attr.member (some name) = .other := by simp [Place.member, hname]
    exact hplace ▸ hentries.lookups (name, default?) hfield
  have hcolumnType : FieldChanges .columnType (some .null) (entries.lookup "column_type")
      (others.lookup "column_type") :=
    hentries.lookups ("column_type", some .null) (.tail _ (.head _))
  have hflag (name : String) (hfield : (name, some .null) ∈ Attribute.fieldTable)
      (hname : name ≠ "column_type") {flag : Option Bool}
      (hwritten : Written (IsOptional IsBoolean) (some none) (entries.lookup name) flag) :
      Written (IsOptional IsBoolean) (some none) (others.lookup name) flag :=
    hwritten.of_optional keeps_isOptional_isBoolean (hlisted name _ hfield hname)
  exact ⟨others, hothers, {
    name := h.name.of_required keeps_isText (hlisted "name" _ (.head _) (by decide))
    columnType := h.columnType.of_optional (keeps_isOptional keeps_isColumnType) hcolumnType
    columnName := h.columnName.of_optional keeps_isOptional_isText
      (hlisted "column_name" _ (by simp [Attribute.fieldTable]) (by decide))
    isUnique := hflag _ (by simp [Attribute.fieldTable]) (by decide) h.isUnique
    isNullable := hflag _ (by simp [Attribute.fieldTable]) (by decide) h.isNullable
    isInsertable := hflag _ (by simp [Attribute.fieldTable]) (by decide) h.isInsertable
    isUpdatable := hflag _ (by simp [Attribute.fieldTable]) (by decide) h.isUpdatable
    constraints := h.constraints.of_list (keeps_isList_isChoice _)
      (hlisted "constraints" _ (by simp [Attribute.fieldTable]) (by decide)) }⟩

/-- The entity that a tree means is kept. -/
theorem keeps_isEntity : Keeps .entity (IsEntity columnTypeRoom) := by
  rintro tree changed hchange entity ⟨entries, hrecord, h⟩
  have huses : ∀ other, Uses .entity tree other → other = Entity.fieldTable := by
    rintro _ ⟨⟩
    rfl
  obtain ⟨others, hothers, hentries⟩ :=
    hchange.exists_entriesChange (by decide) huses (fun _ => rfl) hrecord
  have hlisted (name : String) (default? : Option Tree)
      (hfield : (name, default?) ∈ Entity.fieldTable) (hname : name ≠ "attributes") :
      FieldChanges .other default? (entries.lookup name) (others.lookup name) := by
    have hplace : Place.entity.member (some name) = .other := by simp [Place.member, hname]
    exact hplace ▸ hentries.lookups (name, default?) hfield
  have hattributes : FieldChanges .attributes (some (.list [])) (entries.lookup "attributes")
      (others.lookup "attributes") :=
    hentries.lookups ("attributes", some (.list [])) (by simp [Entity.fieldTable])
  have hpackageName : ∀ tree result, some (Tree.text (some "")) = some tree →
      some "" = some result → IsText tree result := by
    rintro _ _ ⟨⟩ ⟨⟩
    rfl
  exact ⟨others, hothers, {
    name := h.name.of_required keeps_isText (hlisted "name" _ (.head _) (by decide))
    packageName := h.packageName.of_fieldChanges keeps_isText hpackageName
      (hlisted "package_name" _ (.tail _ (.head _)) (by decide))
    entityName := h.entityName.of_optional keeps_isOptional_isText
      (hlisted "entity_name" _ (by simp [Entity.fieldTable]) (by decide))
    tableName := h.tableName.of_optional keeps_isOptional_isText
      (hlisted "table_name" _ (by simp [Entity.fieldTable]) (by decide))
    tableSchema := h.tableSchema.of_optional keeps_isOptional_isText
      (hlisted "table_schema" _ (by simp [Entity.fieldTable]) (by decide))
    attributes := h.attributes.of_list (keeps_isList (.inr rfl) fun _ => keeps_isAttribute)
      hattributes }⟩

/-- The list of entities that a tree means is kept. -/
theorem keeps_isModel : Keeps .model IsModel :=
  keeps_isList (.inl rfl) fun _ => keeps_isEntity

/-- A model is kept by any number of changes of its presentation. -/
theorem IsModel.of_changes {tree changed : Tree} {entities : List Entity}
    (h : IsModel tree entities) (hchanges : Relation.ReflTransGen (Changes .model) tree changed) :
    IsModel changed entities := by
  induction hchanges with
  | refl => exact h
  | tail _ hchange ih => exact keeps_isModel hchange ih

/-! ## An entity that refers to itself -/

/-- The reference of an entity to itself. -/
def bossType : Tree :=
  .object [(some "category", .text (some "many_to_one")), (some "target", .text (some "User"))]

/-- The reference with its category behind the rest, and with a member that nobody reads. -/
def presentedBossType : Tree :=
  .object [(some "target", .text (some "User")), (some "lazy", .boolean true),
    (some "category", .text (some "many_to_one"))]

/-- The attribute of a column type. -/
def bossAttribute (type : Tree) : Tree :=
  .object [(some "name", .text (some "boss")), (some "column_type", type)]

/-- The attribute as the list of its fields. -/
def presentedBossAttribute : Tree :=
  .list [.text (some "boss"), presentedBossType, .null, .null, .null, .null, .null, .list []]

/-- The entity of an attribute. -/
def bossEntity (attr : Tree) : Tree :=
  .object [(some "name", .text (some "User")), (some "attributes", .list [attr])]

/-- The entity with its members in another order, one of them a default and one that nobody
reads. -/
def presentedBossEntity : Tree :=
  .object [(some "note", .list []), (some "attributes", .list [presentedBossAttribute]),
    (some "name", .text (some "User")), (some "package_name", .text (some ""))]

/-- The model of the entity. -/
def bossText : String :=
  "[\x7b\"name\":\"User\",\"attributes\":[\x7b\"name\":\"boss\",\"column_type\":" ++
    "\x7b\"category\":\"many_to_one\",\"target\":\"User\"\x7d\x7d]\x7d]"

/-- The same model in another presentation, with white space and an escape. -/
def presentedBossText : String :=
  "[ \x7b\"note\":[],\"attributes\":[[\"bo\\u0073s\"," ++
    "\x7b\"target\":\"User\",\"lazy\":true,\"category\":\"many_to_one\"\x7d," ++
    "null,null,null,null,null,[]]],\"name\":\"User\",\"package_name\":\"\"\x7d\n]"

/-- What the plain text of the example writes. -/
theorem writes_bossText : Writes bossText (.list [bossEntity (bossAttribute bossType)]) := by
  have hkey := spellsKey_textChars
  have htext (value : String) (rest : List Char) :
      SpellsSpaced (.text (some value)) (textChars value ++ rest) rest :=
    .mk .nil (spells_textChars value rest) .nil
  rw [show bossText = String.ofList _ ++ String.ofList _ from rfl, ← String.ofList_append,
    writes_ofList_iff]
  refine .mk .nil (.list (.last (.mk .nil (.object ?_) .nil))) .nil
  refine .cons (hkey _ _) (htext _ _) (.last (hkey _ _) (.mk .nil (.list (.last ?_)) .nil))
  refine .mk .nil (.object (.cons (hkey _ _) (htext _ _) (.last (hkey _ _) ?_))) .nil
  exact .mk .nil (.object (.cons (hkey _ _) (htext _ _) (.last (hkey _ _) (htext _ _)))) .nil

/-- What the other text of the example writes. -/
theorem writes_presentedBossText : Writes presentedBossText (.list [presentedBossEntity]) := by
  have hkey := spellsKey_textChars
  have htext (value : String) (rest : List Char) :
      SpellsSpaced (.text (some value)) (textChars value ++ rest) rest :=
    .mk .nil (spells_textChars value rest) .nil
  have hnull (rest : List Char) : SpellsSpaced .null ('n' :: 'u' :: 'l' :: 'l' :: rest) rest :=
    .mk .nil .null .nil
  have hempty (rest : List Char) : SpellsSpaced (.list []) ('[' :: ']' :: rest) rest :=
    .mk .nil (.emptyList .nil) .nil
  have hblank (c : Char) (hc : c ∈ [' ', '\t', '\n', '\r']) (rest : List Char) :
      Blanks (c :: rest) rest := .cons hc .nil
  have hplain {c : Char} {elements : List TextElement} {chars rest : List Char}
      (hc : c ≠ '"' ∧ c ≠ '\\' ∧ 0x20 ≤ c.toNat) (h : SpellsElements elements chars rest) :
      SpellsElements (.char c :: elements) (c :: chars) rest := .plain hc.1 hc.2.1 hc.2.2 h
  have hescaped (rest : List Char) : SpellsSpaced (.text (some "boss"))
      ('"' :: 'b' :: 'o' :: '\\' :: 'u' :: '0' :: '0' :: '7' :: '3' :: 's' :: '"' :: rest) rest :=
    .mk .nil (.text (.paired (hplain (by decide) (hplain (by decide)
      (.unit (show _ = some 's'.toNat by decide) (hplain (by decide) .close))))
      (.char (.char (.unit (by decide) (.char .nil)))))) .nil
  rw [show presentedBossText = String.ofList _ ++ String.ofList _ ++ String.ofList _ from rfl,
    ← String.ofList_append, ← String.ofList_append, writes_ofList_iff]
  refine .mk .nil (.list (.last (.mk (hblank ' ' (by decide) _) (.object ?_)
    (hblank '\n' (by decide) _)))) .nil
  refine .cons (hkey _ _) (hempty _) ?_
  refine .cons (hkey _ _) (.mk .nil (.list (.last (.mk .nil (.list (.cons (hescaped _)
    (.cons (.mk .nil (.object (.cons (hkey _ _) (htext _ _) (.cons (hkey _ _)
      (.mk .nil .true .nil) (.last (hkey _ _) (htext _ _))))) .nil)
    (.cons (hnull _) (.cons (hnull _) (.cons (hnull _) (.cons (hnull _) (.cons (hnull _)
      (.last (hempty _)))))))))) .nil))) .nil) ?_
  exact .cons (hkey _ _) (htext _ _) (.last (hkey _ _) (htext _ _))

/-- The presentation is changed from the column type out to the entity. -/
theorem bossEntity_changes : Relation.ReflTransGen (Changes .model)
    (.list [bossEntity (bossAttribute bossType)]) (.list [presentedBossEntity]) := by
  have htype : Relation.ReflTransGen (Changes .columnType) bossType presentedBossType :=
    .tail (.single (@Changes.surplus _ [_, _] [] ColumnType.Form.manyToOne.fieldTable "lazy" _
      (.columnType (.member (.head _)) ⟨_, rfl, rfl⟩ nofun) (by decide) .boolean))
      (.reorder (@List.perm_append_comm _ [_] _))
  have htypeOfAttribute : Relation.ReflTransGen (Changes .attr) (bossAttribute bossType)
      (bossAttribute presentedBossType) :=
    htype.lift bossAttribute fun _ _ h => @Changes.member .attr [_] [] _ _ _ h
  have hlist : Changes .attr (bossAttribute presentedBossType) presentedBossAttribute := by
    refine .toList (.inr rfl) .attr (.cons (.member (.head _))
      (.cons (.member (.tail _ (.head _))) ?_))
    repeat' first | exact .nil | refine .cons (.default (by decide)) ?_
  have hattr : Relation.ReflTransGen (Changes .entity) (bossEntity (bossAttribute bossType))
      (bossEntity presentedBossAttribute) :=
    (htypeOfAttribute.tail hlist).lift bossEntity fun _ _ h =>
      @Changes.member .entity [_] [] _ _ _ (@Changes.item .attributes [] [] _ _ h)
  have hsurplus : Changes .entity (bossEntity presentedBossAttribute) (.object
      [(some "note", .list []), (some "name", .text (some "User")),
        (some "attributes", .list [presentedBossAttribute])]) :=
    @Changes.surplus _ [] [_, _] _ "note" _ .entity (by decide) .entity
  have hdefault : Changes .entity (.object
      [(some "note", .list []), (some "name", .text (some "User")),
        (some "attributes", .list [presentedBossAttribute])]) (.object
      [(some "note", .list []), (some "name", .text (some "User")),
        (some "attributes", .list [presentedBossAttribute]),
        (some "package_name", .text (some ""))]) :=
    @Changes.default _ [_, _, _] [] _ "package_name" _ .entity (.tail _ (.head _)) (by decide)
  have hentity := ((hattr.tail hsurplus).tail hdefault).tail (.reorder (.cons _ (.swap _ _ _)))
  exact hentity.lift (fun entity => Tree.list [entity])
    fun _ _ h => @Changes.item .model [] [] _ _ h

namespace EntitySet

/-- A text that is read as a set of entities writes a tree, and it is read as the same set in any
other presentation: what the other text writes is what this one writes, up to any number of changes
of members, defaults and lists of fields. White space and the way characters are escaped are no part
of what is written. A member that is added has some text as its key, and what is added to a column
type is a text, a truth value or null: half a surrogate pair, which an escape can write, makes no
text. -/
theorem ofJson_of_changes {text : String} {set : EntitySet} (h : ofJson text = .ok set) :
    (∃ tree, Writes text tree) ∧
      ∀ {tree changed : Tree} {other : String}, Writes text tree →
        Relation.ReflTransGen (Changes .model) tree changed → Writes other changed →
        ofJson other = .ok set := by
  refine ⟨exists_writes_of_ofJson h, fun htext hchanges hother => ?_⟩
  obtain ⟨entities, hmodel, hset⟩ := (ofJson_eq_ok_iff htext).mp h
  exact (ofJson_eq_ok_iff hother).mpr ⟨entities, hmodel.of_changes hchanges, hset⟩

/-- The entity that refers to itself is read as the same set in both presentations. -/
theorem ofJson_presentedBossText :
    ∃ set, ofJson bossText = .ok set ∧ ofJson presentedBossText = .ok set := by
  have hok : (ofJson bossText).isOk = true := by decide +kernel
  cases h : ofJson bossText with
  | error fault =>
    rw [h] at hok
    cases hok
  | ok set =>
    obtain ⟨-, hpresented⟩ := ofJson_of_changes h
    exact ⟨set, rfl, hpresented writes_bossText bossEntity_changes writes_presentedBossText⟩

end EntitySet

end PersistenceLayer
