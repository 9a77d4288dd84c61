import Mathlib.Logic.Relation
import PersistenceLayer.Proofs.ModelMeaning

/-!
# Ways to present a model

The same model can be written in many ways. Members may stand in any order, and
next to members that nobody reads; a default may be written out; an entity or an
attribute may be the list of its fields. One change of a tree is a change of this
kind somewhere in it. Changes of the text alone, such as white space and escapes,
leave the tree as it is.
-/

namespace PersistenceLayer

open Json

/-! ## Places of a model -/

/-- What a tree is for. -/
inductive Place where
  | model
  | entity
  | attributes
  | attr
  | columnType
  | other
  deriving DecidableEq

/-- What a member of an object is for. -/
def Place.member : Place → Option String → Place
  | entity, key => if key = some "attributes" then attributes else other
  | attr, key => if key = some "column_type" then columnType else other
  | _, _ => other

/-- What an item of a list is for. The items of a record are its fields in order. -/
def Place.item : Place → Nat → Place
  | model, _ => entity
  | attributes, _ => attr
  | entity, index => entity.member Entity.fieldNames[index]?
  | attr, index => attr.member Attribute.fieldNames[index]?
  | _, _ => other

/-! ## Fields and their defaults -/

/-- The fields of a record in order, each with its default if it has one. -/
abbrev FieldTable := List (String × Option Tree)

/-- The names of the fields of a record. -/
abbrev FieldTable.names (fields : FieldTable) : List String := fields.map Prod.fst

/-- The fields of an entity. -/
def Entity.fieldTable : FieldTable :=
  [("name", none), ("package_name", some (.text (some ""))), ("entity_name", some .null),
    ("table_name", some .null), ("table_schema", some .null), ("attributes", some (.list []))]

/-- The fields of an attribute. -/
def Attribute.fieldTable : FieldTable :=
  [("name", none), ("column_type", some .null), ("column_name", some .null),
    ("column_unique", some .null), ("column_nullable", some .null),
    ("column_insertable", some .null), ("column_updatable", some .null),
    ("constraints", some (.list []))]

/-- The fields of a column type that is not plain, its category in front. -/
def ColumnType.Form.fieldTable : ColumnType.Form → FieldTable
  | identifier =>
    [("category", none), ("id_type", none), ("auto_generated", some (.boolean false))]
  | version => [("category", none), ("version_type", none)]
  | manyToOne => [("category", none), ("target", none)]
  | basic => [("category", none), ("type", none)]

/-- The fields of a plain column type, its category and its type in front. -/
def BasicType.Form.fieldTable : BasicType.Form → FieldTable
  | plain _ => [("category", none), ("type", none)]
  | string => [("category", none), ("type", none), ("length", some .null)]
  | bigDecimal =>
    [("category", none), ("type", none), ("precision", some .null), ("scale", some .null)]

/-- Whether a tree has a tag: a member of an object, or the item of a list at the tag's place. -/
inductive HasTag (tag : String) (index : Nat) (value : Tree) : Tree → Prop
  | member {members : List (Option String × Tree)} (h : (some tag, value) ∈ members) :
      HasTag tag index value (.object members)
  | item {items : List Tree} (h : items[index]? = some value) :
      HasTag tag index value (.list items)

/-- The fields that the tree at a place uses. Those of a column type depend on its tags: the
category and, if it is plain, the type, which is a name or a number. -/
inductive Uses : Place → Tree → FieldTable → Prop
  | entity {tree : Tree} : Uses .entity tree Entity.fieldTable
  | attr {tree : Tree} : Uses .attr tree Attribute.fieldTable
  | columnType {tree category : Tree} {form : ColumnType.Form}
      (hcategory : HasTag "category" 0 category tree)
      (hform : ColumnType.tagging.IsTag category form) (hbasic : form ≠ .basic) :
      Uses .columnType tree form.fieldTable
  | basicType {tree category type : Tree} {form : BasicType.Form}
      (hcategory : HasTag "category" 0 category tree)
      (hbasic : ColumnType.tagging.IsTag category .basic) (htype : HasTag "type" 1 type tree)
      (hform : MeansBy columnTypeRoom BasicType.tagging.readTag type form) :
      Uses .columnType tree form.fieldTable

/-! ## Changes -/

/-- What may be added under a key that is not used: any value to an entity or an attribute, but only
a text, a truth value or null to a column type. -/
inductive IsSurplus : Place → Tree → Prop
  | entity {value : Tree} : IsSurplus .entity value
  | attr {value : Tree} : IsSurplus .attr value
  /-- The text has content: what is written with half a surrogate pair in it is no text, and a
  column type that holds it is not read. -/
  | text {value : String} : IsSurplus .columnType (.text (some value))
  | boolean {value : Bool} : IsSurplus .columnType (.boolean value)
  | null : IsSurplus .columnType .null

/-- Whether an item is the value of a field: the one among some members, or its default if there is
none. -/
inductive IsFieldValue (members : List (Option String × Tree)) :
    String × Option Tree → Tree → Prop
  | member {name : String} {default? : Option Tree} {value : Tree}
      (h : (some name, value) ∈ members) : IsFieldValue members (name, default?) value
  | default {name : String} {value : Tree} (h : some name ∉ members.map Prod.fst) :
      IsFieldValue members (name, some value) value

/-- One change in the way a model is presented. -/
inductive Changes : Place → Tree → Tree → Prop
  /-- An item of a list is presented in another way. -/
  | item {place : Place} {before after : List Tree} {item changed : Tree}
      (h : Changes (place.item before.length) item changed) :
      Changes place (.list (before ++ item :: after)) (.list (before ++ changed :: after))
  /-- The value of a member is presented in another way. -/
  | member {place : Place} {before after : List (Option String × Tree)} {key : Option String}
      {value changed : Tree} (h : Changes (place.member key) value changed) :
      Changes place (.object (before ++ (key, value) :: after))
        (.object (before ++ (key, changed) :: after))
  /-- The members of an object stand in another order. -/
  | reorder {place : Place} {members others : List (Option String × Tree)}
      (h : members.Perm others) : Changes place (.object members) (.object others)
  /-- A member is added under a key that is not used. The key is a text; one that is written with
  half a surrogate pair in it is none, and an object with such a key is not read. -/
  | surplus {place : Place} {before after : List (Option String × Tree)} {fields : FieldTable}
      {key : String} {value : Tree} (huses : Uses place (.object (before ++ after)) fields)
      (hkey : key ∉ fields.names) (hvalue : IsSurplus place value) :
      Changes place (.object (before ++ after)) (.object (before ++ (some key, value) :: after))
  /-- A field that is missing is added with its default. -/
  | default {place : Place} {before after : List (Option String × Tree)} {fields : FieldTable}
      {name : String} {value : Tree} (huses : Uses place (.object (before ++ after)) fields)
      (hfield : (name, some value) ∈ fields)
      (habsent : some name ∉ (before ++ after).map Prod.fst) :
      Changes place (.object (before ++ after)) (.object (before ++ (some name, value) :: after))
  /-- The default of the next field is added to a list of fields. -/
  | defaultItem {place : Place} {items : List Tree} {fields : FieldTable} {name : String}
      {value : Tree} (huses : Uses place (.list items) fields)
      (hfield : fields[items.length]? = some (name, some value)) :
      Changes place (.list items) (.list (items ++ [value]))
  /-- An object is written as the list of its fields. -/
  | toList {place : Place} {members : List (Option String × Tree)} {fields : FieldTable}
      {items : List Tree} (hplace : place = .entity ∨ place = .attr)
      (huses : Uses place (.object members) fields)
      (hitems : List.Forall₂ (IsFieldValue members) fields items) :
      Changes place (.object members) (.list items)

end PersistenceLayer
