import PersistenceLayer.Proofs.JsonFields

/-!
# Reading records back

A record is written with one entry for each of its fields, in the order of
declaration; an entry without a value leaves its field out. Reading such a record
finds every field that was written, misses none that is required, and gives each
field the value it was written for. The same holds of records that are read
apart from their text, as the content of a tagged choice is.
-/

namespace PersistenceLayer.Json

/-! ## Values of one kind -/

/-- A text is read from a node that holds it. -/
theorem Node.Holds.readText {node : Node} {value : String} (h : node.Holds (.text value)) :
    node.readText = .ok value := by
  cases h with
  | text h => exact h

/-- A truth value is read from a node that holds it. -/
theorem Node.Holds.readBoolean {node : Node} {value : Bool} (h : node.Holds (.boolean value)) :
    node.readBoolean = .ok value := by
  cases h
  rfl

section

variable {α : Type} {choices : List (String × α)} {name : String} {choice : α} {node : Node}

/-- The name of a choice is read back. -/
theorem Node.Holds.readVariant (h : node.Holds (.text name))
    (hchoice : choices.lookup name = some choice) : node.readVariant choices = .ok choice := by
  cases h with
  | text h =>
    simp only [Node.readVariant, readVariantName, h, Value.choose, hchoice, settled, bind,
      Except.bind]

/-- A choice is read back from its name. -/
theorem Node.Holds.readChoice (h : node.Holds (.text name))
    (hchoice : choices.lookup name = some choice) : node.readChoice choices = .ok choice := by
  have hvariant := h.readVariant hchoice
  cases h
  exact hvariant

end

/-- A value that is not null is read back where it may be absent. -/
theorem Node.Holds.readOptional {α : Type} {read : Node → Except Fault α} {node : Node}
    {value : Value} {result : α} (h : node.Holds value) (hvalue : value ≠ .null)
    (hread : read node = .ok result) : node.readOptional read = .ok (some result) := by
  cases h with
  | null => exact absurd rfl hvalue
  | _ => simp only [Node.readOptional, hread, Functor.map, Except.map]

/-- Items are read back, in order, if each of them is. -/
theorem ItemsHold.readItems {α : Type} {read : Node → Except Fault α} {encode : α → Value}
    {contents : List α} {items : List (Item Node)} (h : ItemsHold items (contents.map encode))
    (hread : ∀ content ∈ contents, ∀ node : Node, node.Holds (encode content) →
      read node = .ok content) :
    Node.readItems read items = .ok contents := by
  induction contents generalizing items with
  | nil =>
    cases h
    rfl
  | cons content contents ih =>
    cases h with
    | cons hitem hitems =>
      have hfirst := hread content List.mem_cons_self _ hitem
      have hothers := ih hitems fun other hother => hread other (List.mem_cons_of_mem _ hother)
      simp only [Node.readItems, hfirst, settled, hothers, bind, Except.bind, pure, Except.pure]

/-- A list is read back if each of its items is. -/
theorem Node.Holds.readList {α : Type} {read : Node → Except Fault α} {encode : α → Value}
    {contents : List α} {node : Node} (h : node.Holds (.list (contents.map encode)))
    (hread : ∀ content ∈ contents, ∀ node : Node, node.Holds (encode content) →
      read node = .ok content) :
    node.readList read = .ok contents := by
  cases h with
  | list hitems =>
    simp only [Node.readList, hitems.readItems hread, ListEnding.check, bind, Except.bind, pure,
      Except.pure]

/-! ## Entries of records -/

/-- What is written for the fields of a record, each by its name; a field may be left out. -/
abbrev Entries := List (String × Option Value)

/-- The members that entries are written as. -/
def Entries.members (entries : Entries) : List (String × Value) :=
  entries.filterMap fun entry => entry.2.map fun value => (entry.1, value)

@[simp] theorem Entries.members_nil : Entries.members [] = [] := rfl

@[simp] theorem Entries.members_cons (name : String) (written : Option Value) (entries : Entries) :
    Entries.members ((name, written) :: entries) =
      (written.map fun value => (name, value)).toList ++ Entries.members entries := by
  cases written <;> rfl

/-- Members are written for entries. -/
theorem Entries.exists_mem {entries : Entries} {member : String × Value}
    (h : member ∈ entries.members) : (member.1, some member.2) ∈ entries := by
  obtain ⟨entry, hentry, hvalue⟩ := List.mem_filterMap.mp h
  obtain ⟨value, hwritten, rfl⟩ := Option.map_eq_some_iff.mp hvalue
  rwa [← hwritten]

/-- What is written for a field that may be left out has any property of everything that can be
written for it. -/
theorem forall_mem_map_encode {α : Type} {P : Value → Prop} {encode : α → Value}
    (h : ∀ content, P (encode content)) (content : Option α) :
    ∀ value ∈ content.map encode, P value := by
  intro value hvalue
  obtain ⟨content, -, rfl⟩ := Option.map_eq_some_iff.mp hvalue
  exact h content

/-- A record is plain if everything that is written in it is. -/
theorem Entries.isPlain_object {entries : Entries}
    (h : ∀ entry ∈ entries, ∀ value ∈ entry.2, value.IsPlain) :
    (Value.object entries.members).IsPlain := by
  refine .object (membersArePlain_of_forall fun member hmember => ?_)
  exact h _ (exists_mem hmember) member.2 rfl

section

variable {ν : Type} {R : ν → Value → Prop}

/-- Whether a rule is content with what is written for its field, where `R` says which contents
stand for a value. -/
def Rule.Accepts (R : ν → Value → Prop) (rule : Rule ν) : Option Value → Prop
  | some value => ∀ content, R content value → rule.check content = .ok ()
  | none => rule.isRequired = false

/-- Whether rules are content with entries, one after the other. -/
inductive AcceptsAll (R : ν → Value → Prop) : List (Rule ν) → Entries → Prop
  | nil : AcceptsAll R [] []
  | cons {rule : Rule ν} {rules : List (Rule ν)} {written : Option Value} {entries : Entries}
      (h : rule.Accepts R written) (hrules : AcceptsAll R rules entries) :
      AcceptsAll R (rule :: rules) ((rule.name, written) :: entries)

/-- Whether the fields that were found are those that were written. -/
inductive Finds (R : ν → Value → Prop) : FoundFields ν → Entries → Prop
  | nil : Finds R [] []
  | absent {name : String} {found : FoundFields ν} {entries : Entries} (h : Finds R found entries) :
      Finds R found ((name, none) :: entries)
  | present {name : String} {content : ν} {value : Value} {found : FoundFields ν}
      {entries : Entries} (hcontent : R content value) (h : Finds R found entries) :
      Finds R ((name, content) :: found) ((name, some value) :: entries)

/-- Whether a field is read as the given value from what is written for it. -/
def Field.Recovers {α : Type} (R : ν → Value → Prop) (field : Field ν α) (result : α) :
    Option Value → Prop
  | some value => ∀ content, R content value → field.read content = .ok result
  | none => field.default? = some result

/-- The rule of a field is content with what the field can be read from. -/
theorem Field.Recovers.accepts {α : Type} {field : Field ν α} {result : α}
    {written : Option Value} (h : field.Recovers R result written) :
    field.rule.Accepts R written := by
  cases written with
  | none => simp [Rule.Accepts, Field.rule, show field.default? = some result from h]
  | some value =>
    intro content hcontent
    simp only [Field.rule, h content hcontent, bind, Except.bind]
    rfl

/-- Entries that are accepted by rules have the names of the rules. -/
theorem AcceptsAll.map_fst {rules : List (Rule ν)} {entries : Entries}
    (h : AcceptsAll R rules entries) : entries.map Prod.fst = rules.map Rule.name := by
  induction h with
  | nil => rfl
  | cons _ _ ih => rw [List.map_cons, List.map_cons, ih]

/-- Fields have distinct names if their entries do. -/
theorem AcceptsAll.names_nodup {shape : Shape ν} {entries : Entries}
    (h : AcceptsAll R shape.rules entries) (hnodup : (entries.map Prod.fst).Nodup) :
    shape.names.Nodup := by
  rwa [Shape.names, ← h.map_fst]

/-- Every rule is content with one of the entries. -/
theorem AcceptsAll.exists_mem {rules : List (Rule ν)} {entries : Entries} {rule : Rule ν}
    (h : AcceptsAll R rules entries) (hrule : rule ∈ rules) :
    ∃ written, (rule.name, written) ∈ entries ∧ rule.Accepts R written := by
  induction h with
  | nil => cases hrule
  | cons haccept _ ih =>
    rcases List.mem_cons.mp hrule with rfl | hrule
    · exact ⟨_, List.mem_cons_self, haccept⟩
    · obtain ⟨written, hmem, haccept⟩ := ih hrule
      exact ⟨written, List.mem_cons_of_mem _ hmem, haccept⟩

/-- A field without an entry is not found. -/
theorem Finds.lookup_eq_none {found : FoundFields ν} {entries : Entries} {name : String}
    (h : Finds R found entries) (hname : name ∉ entries.map Prod.fst) :
    found.lookup name = none := by
  induction h with
  | nil => rfl
  | absent _ ih => exact ih fun hmem => hname (List.mem_cons_of_mem _ hmem)
  | present _ _ ih =>
    have hne : name ≠ _ := fun heq => hname (heq ▸ List.mem_cons_self)
    rw [List.lookup_cons, beq_eq_false_iff_ne.mpr hne]
    exact ih fun hmem => hname (List.mem_cons_of_mem _ hmem)

/-- A field with an entry is found if the entry has a value, and then with that value. -/
theorem Finds.lookup {found : FoundFields ν} {entries : Entries} {name : String}
    {written : Option Value} (h : Finds R found entries) (hnodup : (entries.map Prod.fst).Nodup)
    (hmem : (name, written) ∈ entries) : Option.Rel R (found.lookup name) written := by
  induction h with
  | nil => cases hmem
  | absent hfinds ih =>
    obtain ⟨hfirst, hothers⟩ := List.nodup_cons.mp hnodup
    rcases List.mem_cons.mp hmem with heq | hmem
    · obtain ⟨rfl, rfl⟩ := Prod.mk.inj heq
      rw [hfinds.lookup_eq_none hfirst]
      exact .none
    · exact ih hothers hmem
  | @present other _ _ _ _ hcontent _ ih =>
    obtain ⟨hfirst, hothers⟩ := List.nodup_cons.mp hnodup
    rcases List.mem_cons.mp hmem with heq | hmem
    · obtain ⟨rfl, rfl⟩ := Prod.mk.inj heq
      rw [List.lookup_cons_self]
      exact .some hcontent
    · have hne : name ≠ other := fun heq => hfirst (List.mem_map.mpr ⟨_, hmem, heq⟩)
      rw [List.lookup_cons, beq_eq_false_iff_ne.mpr hne]
      exact ih hothers hmem

/-- A field is read back from those that were found. -/
theorem Finds.get {α : Type} {found : FoundFields ν} {entries : Entries} {field : Field ν α}
    {result : α} {written : Option Value} (h : Finds R found entries)
    (hnodup : (entries.map Prod.fst).Nodup) (hfield : field.Recovers R result written)
    (hmem : (field.name, written) ∈ entries) : field.get found = .ok result := by
  have hlookup := h.lookup hnodup hmem
  rw [Field.get]
  generalize found.lookup field.name = content at hlookup
  cases hlookup with
  | none => simp only [show field.default? = some result from hfield]
  | some hcontent => exact hfield _ hcontent

/-- No name is found that has no entry. -/
theorem Finds.map_fst_sublist {found : FoundFields ν} {entries : Entries}
    (h : Finds R found entries) : (found.map Prod.fst).Sublist (entries.map Prod.fst) := by
  induction h with
  | nil => exact .slnil
  | absent _ ih => exact ih.cons _
  | present _ _ ih => exact ih.cons_cons _

/-- What is found for accepted entries makes a record, and everything in it is known. -/
theorem Finds.admits {found : FoundFields ν} {entries : Entries} {shape : Shape ν}
    (h : Finds R found entries) (hnodup : (entries.map Prod.fst).Nodup)
    (haccepts : AcceptsAll R shape.rules entries) :
    shape.Admits found ∧ shape.known found = found := by
  refine ⟨⟨fun rule _ => ?_, fun rule hrule => ?_⟩, ?_⟩
  · exact List.nodup_iff_count_le_one.mp (hnodup.sublist h.map_fst_sublist) rule.name
  · obtain ⟨written, hmem, haccept⟩ := haccepts.exists_mem hrule
    have hlookup := h.lookup hnodup hmem
    generalize found.lookup rule.name = content at hlookup
    cases hlookup with
    | none => exact haccept
    | some hcontent => exact haccept _ hcontent
  · refine List.filter_eq_self.mpr fun entry hentry => Shape.isSome_rule?_iff.mpr ?_
    rw [Shape.names, ← haccepts.map_fst]
    exact h.map_fst_sublist.subset (List.mem_map_of_mem hentry)

end

/-- A field that may be left out is recovered from what is written for its value, unless null is. -/
theorem Field.recovers_optional {α : Type} {read : Node → Except Fault α} {encode : α → Value}
    (hread : ∀ result (node : Node), node.Holds (encode result) → read node = .ok result)
    (hencode : ∀ result, encode result ≠ .null) (name : String) (result : Option α) :
    (Field.mk name (Node.readOptional read) (some none)).Recovers Node.Holds result
      (result.map encode) := by
  cases result with
  | none => rfl
  | some result => exact fun node h => h.readOptional (hencode result) (hread result node h)

/-! ## Records of nodes -/

mutual

/-- What holds a value shows a tree. -/
theorem Node.Holds.exists_shows {node : Node} {value : Value} (h : node.Holds value) :
    ∃ tree, node.Shows tree := by
  cases h with
  | null => exact ⟨_, .null⟩
  | boolean => exact ⟨_, .boolean⟩
  | integer => exact ⟨_, .number⟩
  | text => exact ⟨_, .text rfl⟩
  | list h =>
    obtain ⟨trees, hitems⟩ := h.exists_show
    exact ⟨_, .list hitems⟩
  | object h =>
    obtain ⟨trees, hmembers⟩ := h.exists_show
    exact ⟨_, .object hmembers⟩

/-- Items that hold values show trees. -/
theorem ItemsHold.exists_show {items : List (Item Node)} {values : List Value}
    (h : ItemsHold items values) : ∃ trees, ItemsShow items trees := by
  cases h with
  | nil => exact ⟨[], .nil⟩
  | cons h hitems =>
    obtain ⟨tree, hitem⟩ := h.exists_shows
    obtain ⟨trees, hothers⟩ := hitems.exists_show
    exact ⟨tree :: trees, .cons hitem hothers⟩

/-- Members that hold values show trees. -/
theorem MembersHold.exists_show {members : List (Member Node)} {values : List (String × Value)}
    (h : MembersHold members values) : ∃ trees, MembersShow members trees := by
  cases h with
  | nil => exact ⟨[], .nil⟩
  | cons _ h hmembers =>
    obtain ⟨tree, hmember⟩ := h.exists_shows
    obtain ⟨trees, hothers⟩ := hmembers.exists_show
    exact ⟨(_, tree) :: trees, .cons rfl hmember hothers⟩

end

/-- Members that are written for entries are found as what they hold. -/
theorem MembersHold.exists_finds {entries : Entries} {members : List (Member Node)}
    (h : MembersHold members entries.members) :
    ∃ contents, List.Forall₂ Member.Is members contents ∧ Finds Node.Holds contents entries := by
  induction entries generalizing members with
  | nil =>
    cases h
    exact ⟨[], .nil, .nil⟩
  | cons entry entries ih =>
    obtain ⟨name, written⟩ := entry
    cases written with
    | none =>
      obtain ⟨contents, hmembers, hfinds⟩ := ih h
      exact ⟨contents, hmembers, .absent hfinds⟩
    | some value =>
      obtain - | @⟨member, _, _, _, _, hkey, hvalue, hothers⟩ := h
      obtain ⟨contents, hmembers, hfinds⟩ := ih hothers
      exact ⟨(name, member.value) :: contents, .cons ⟨hkey, rfl⟩ hmembers, .present hvalue hfinds⟩

/-- A record that is written with accepted entries is read up to its fields, each of which is
recovered from its entry. -/
theorem Shape.fields_eq_ok {shape : Shape Node} {entries : Entries} {node : Node}
    (hnodup : (entries.map Prod.fst).Nodup)
    (haccepts : AcceptsAll Node.Holds shape.rules entries)
    (hnode : node.Holds (.object entries.members)) :
    ∃ found, shape.fields node = .ok found ∧
      ∀ {α : Type} {field : Field Node α} {result : α} {written : Option Value} (index : Nat),
        field.Recovers Node.Holds result written → entries[index]? = some (field.name, written) →
          field.get found = .ok result := by
  have hrules : shape.names.Nodup := haccepts.names_nodup hnodup
  obtain ⟨tree, hshows⟩ := hnode.exists_shows
  cases hnode with
  | object hmembers =>
    obtain ⟨contents, hcontents, hfinds⟩ := hmembers.exists_finds
    obtain ⟨hadmits, hknown⟩ := hfinds.admits hnodup haccepts
    exact ⟨contents, (fields_eq_ok_iff hrules hshows).mpr
      ⟨contents, .object hcontents, hadmits, hknown.symm⟩,
      fun _ hfield hentry => hfinds.get hnodup hfield (List.mem_of_getElem? hentry)⟩

/-! ## Records apart from their text -/

/-- Members are found as the entries they are written for. -/
theorem Entries.finds_members (entries : Entries) : Finds Eq entries.members entries := by
  induction entries with
  | nil => exact .nil
  | cons entry entries ih =>
    obtain ⟨name, written⟩ := entry
    cases written with
    | none => exact .absent ih
    | some value => exact .present rfl ih

/-- The content of a choice that is written with accepted entries is read up to its fields, each of
which is recovered from its entry. -/
theorem Shape.contentFields_eq_ok {shape : Shape Value} {entries : Entries}
    (hnodup : (entries.map Prod.fst).Nodup) (haccepts : AcceptsAll Eq shape.rules entries) :
    ∃ found, shape.contentFields (.members entries.members) = .ok found ∧
      ∀ {α : Type} {field : Field Value α} {result : α} {written : Option Value} (index : Nat),
        field.Recovers Eq result written → entries[index]? = some (field.name, written) →
          field.get found = .ok result := by
  have hrules : shape.names.Nodup := haccepts.names_nodup hnodup
  have hfinds := entries.finds_members
  obtain ⟨hadmits, hknown⟩ := hfinds.admits hnodup haccepts
  exact ⟨entries.members, (contentFields_eq_ok_iff hrules).mpr
    ⟨_, .members, hadmits, hknown.symm⟩,
    fun _ hfield hentry => hfinds.get hnodup hfield (List.mem_of_getElem? hentry)⟩

/-! ## Tagged choices -/

/-- The plain values that hold no other values and are something. -/
inductive Value.IsScalar : Value → Prop
  | boolean (value : Bool) : Value.IsScalar (.boolean value)
  | integer {value : Nat} (h : value < UInt64.size) : Value.IsScalar (.integer value)
  | text (value : String) : Value.IsScalar (.text value)

/-- A scalar is written plainly. -/
theorem Value.IsScalar.isPlain {value : Value} (h : value.IsScalar) : value.IsPlain := by
  cases h with
  | boolean => exact .boolean _
  | integer h => exact .integer h
  | text => exact .text _

/-- A scalar is taken out of its text no matter how many containers are open. -/
theorem Node.Holds.toValue {node : Node} {value : Value} (h : node.Holds value)
    (hvalue : value.IsScalar) (room : Nat) : node.toValue room = .ok value := by
  cases hvalue with
  | boolean =>
    cases h
    rw [Node.toValue]
  | integer =>
    cases h with
    | integer h =>
      simp only [Node.toValue, NumberLiteral.read, h, bind, Except.bind]
      rfl
  | text =>
    cases h with
    | text h =>
      simp only [Node.toValue, h, bind, Except.bind]
      rfl

namespace Tagging

variable {α : Type} {tagging : Tagging α} {name : String} {choice : α} {entries : Entries}

/-- What is written for entries besides the tag is never the tag. -/
theorem ne_tag_of_mem (htag : tagging.tag ∉ entries.map Prod.fst) {member : String × Value}
    (h : member ∈ entries.members) : member.1 ≠ tagging.tag :=
  fun heq => htag (List.mem_map.mpr ⟨_, Entries.exists_mem h, heq⟩)

/-- Members that are not the tag are taken out of their text as they were written. -/
theorem splitMembers_eq_ok {room : Nat} {found : Option α} {members : List (Member Node)}
    {values : List (String × Value)} (h : MembersHold members values)
    (hvalues : ∀ member ∈ values, member.1 ≠ tagging.tag ∧ member.2.IsScalar) :
    tagging.splitMembers room found members = .ok (found, values) := by
  induction values generalizing members with
  | nil =>
    cases h
    rfl
  | cons value values ih =>
    obtain ⟨htag, hscalar⟩ := hvalues value List.mem_cons_self
    have hothers := fun member hmember => hvalues member (List.mem_cons_of_mem _ hmember)
    cases h with
    | cons hkey hvalue hmembers =>
      simp only [splitMembers, hkey, if_neg htag, hvalue.toValue hscalar, ih hmembers hothers,
        bind, Except.bind]
      rfl

/-- A choice that is written with its tag in front is split into the choice and its entries. -/
theorem split_eq_ok {room : Nat} {node : Node}
    (h : node.Holds (.object ((tagging.tag, .text name) :: entries.members)))
    (hchoice : tagging.choices.lookup name = some choice)
    (htag : tagging.tag ∉ entries.map Prod.fst)
    (hscalars : ∀ entry ∈ entries, ∀ value ∈ entry.2, value.IsScalar) :
    tagging.split (room + 1) node = .ok (choice, .members entries.members) := by
  have hmembers : ∀ member ∈ entries.members, member.1 ≠ tagging.tag ∧ member.2.IsScalar :=
    fun member hmember => ⟨ne_tag_of_mem htag hmember,
      hscalars _ (Entries.exists_mem hmember) member.2 rfl⟩
  cases h with
  | object h =>
    cases h with
    | cons hkey hname hvalues =>
      simp only [split, splitMembers, hkey, hname.readVariant hchoice, Option.isSome_none,
        Bool.false_eq_true, if_true, if_false, splitMembers_eq_ok hvalues hmembers, checkEnding,
        bind, Except.bind]
      rfl

/-- The content of a choice that is written with another tag in front is split into the inner
choice and its entries. -/
theorem splitContent_eq_ok (hchoice : tagging.choices.lookup name = some choice)
    (htag : tagging.tag ∉ entries.map Prod.fst) :
    tagging.splitContent (.members ((tagging.tag, .text name) :: entries.members)) =
      .ok (choice, .members entries.members) := by
  have htags : entries.members.filter (fun member => member.1 == tagging.tag) = [] := by
    rw [List.filter_eq_nil_iff]
    exact fun member hmember => by simpa using ne_tag_of_mem htag hmember
  have hothers : entries.members.filter (fun member => member.1 != tagging.tag) =
      entries.members := by
    rw [List.filter_eq_self]
    exact fun member hmember => by simpa using ne_tag_of_mem htag hmember
  simp only [splitContent, List.filter_cons, beq_self_eq_true, if_true, htags, readTag,
    Value.choose, hchoice, bne_self_eq_false, hothers, bind, Except.bind]
  rfl

end Tagging

end PersistenceLayer.Json
