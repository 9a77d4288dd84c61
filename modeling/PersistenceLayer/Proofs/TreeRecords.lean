import PersistenceLayer.Proofs.JsonFields

/-!
# Records of trees

What a record means depends on the tree of a text alone, and of the tree only on
what it lists under the names of the fields. The readers of nodes and of values are
taken back to that, so nothing below speaks of the places of a text or of the order
in which a reader goes.
-/

namespace PersistenceLayer.Json

/-! ## What a tree lists -/

/-- The members of an object whose keys are the given names. -/
def keyed (entries : List (String × Tree)) : List (Option String × Tree) :=
  entries.map fun entry => (some entry.1, entry.2)

@[simp] theorem keyed_nil : keyed [] = [] := rfl

@[simp] theorem keyed_cons (entry : String × Tree) (entries : List (String × Tree)) :
    keyed (entry :: entries) = (some entry.1, entry.2) :: keyed entries := rfl

/-- What a tree lists: an object its members, a list its items under the given names. -/
inductive Tree.Lists (names : List String) : Tree → List (String × Tree) → Prop
  | object {members : List (Option String × Tree)} {entries : List (String × Tree)}
      (h : members = keyed entries) : Tree.Lists names (.object members) entries
  | list {items : List Tree} (h : items.length ≤ names.length) :
      Tree.Lists names (.list items) (names.zip items)

/-- Whether a tree lists entries for a record, none of its fields twice. -/
structure Tree.IsRecord (names : List String) (tree : Tree) (entries : List (String × Tree)) :
    Prop where
  lists : tree.Lists names entries
  once : ∀ name ∈ names, (entries.map Prod.fst).count name ≤ 1

section Lists

variable {β γ : Type} {R : β → γ → Prop} {names : List String} {tree : Tree}
  {entries : List (String × Tree)}

/-- Related items are listed under the same names. -/
theorem forall₂_zip {values : List β} {others : List γ} (h : List.Forall₂ R values others) :
    List.Forall₂ (EntryIs R) (names.zip values) (names.zip others) := by
  induction h generalizing names with
  | nil => simp
  | cons hfirst _ ih =>
    cases names with
    | nil => exact .nil
    | cons name names => exact .cons ⟨rfl, hfirst⟩ ih

/-- Items show trees one by one. -/
theorem ItemsShow.forall₂ {items : List (Item Node)} {trees : List Tree}
    (h : ItemsShow items trees) :
    List.Forall₂ Node.Shows (items.map Item.value) trees := by
  induction items generalizing trees with
  | nil =>
    cases h
    exact .nil
  | cons item items ih =>
    cases h with
    | cons h hitems => exact .cons h (ih hitems)

/-- Members with names show entries. -/
theorem MembersShow.exists_entries {members : List (Member Node)}
    {trees : List (Option String × Tree)} {contents : List (String × Node)}
    (h : MembersShow members trees) (hmembers : List.Forall₂ Member.Is members contents) :
    ∃ entries, trees = keyed entries ∧ List.Forall₂ (EntryIs Node.Shows) contents entries := by
  induction hmembers generalizing trees with
  | nil =>
    cases h
    exact ⟨[], rfl, .nil⟩
  | @cons member content members contents hmember _ ih =>
    obtain ⟨hname, hvalue⟩ := hmember
    cases h with
    | @cons _ _ _ tree _ hkey h hothers =>
      obtain ⟨entries, rfl, hentries⟩ := ih hothers
      refine ⟨(content.1, tree) :: entries, ?_, .cons ⟨rfl, hvalue ▸ h⟩ hentries⟩
      rw [keyed_cons, ← hkey, toOption_eq_some_iff.mpr hname]

/-- Members that show entries have names. -/
theorem MembersShow.exists_contents {members : List (Member Node)}
    (h : MembersShow members (keyed entries)) :
    ∃ contents, List.Forall₂ Member.Is members contents ∧
      List.Forall₂ (EntryIs Node.Shows) contents entries := by
  induction entries generalizing members with
  | nil =>
    cases h
    exact ⟨[], .nil, .nil⟩
  | cons entry entries ih =>
    obtain - | @⟨member, _, _, _, _, hkey, h, hothers⟩ := h
    obtain ⟨contents, hmembers, hcontents⟩ := ih hothers
    exact ⟨(entry.1, member.value) :: contents,
      .cons ⟨toOption_eq_some_iff.mp hkey, rfl⟩ hmembers, .cons ⟨rfl, h⟩ hcontents⟩

/-- A node lists what shows the entries of its tree. -/
theorem Node.Shows.exists_entries {node : Node} {contents : List (String × Node)}
    (h : node.Shows tree) (hlists : node.Lists names contents) :
    ∃ entries, tree.Lists names entries ∧ List.Forall₂ (EntryIs Node.Shows) contents entries := by
  cases hlists with
  | object hmembers =>
    cases h with
    | object h =>
      obtain ⟨entries, htrees, hentries⟩ := h.exists_entries hmembers
      exact ⟨entries, .object htrees, hentries⟩
  | list hlong =>
    cases h with
    | list h =>
      have hitems := h.forall₂
      rw [← List.length_map Item.value, hitems.length_eq] at hlong
      exact ⟨_, .list hlong, forall₂_zip hitems⟩

/-- The entries of a tree are shown by what a node lists. -/
theorem Node.Shows.exists_contents {node : Node} (h : node.Shows tree)
    (hlists : tree.Lists names entries) :
    ∃ contents, node.Lists names contents ∧
      List.Forall₂ (EntryIs Node.Shows) contents entries := by
  cases hlists with
  | object hmembers =>
    subst hmembers
    cases h with
    | object h =>
      obtain ⟨contents, hmembers, hcontents⟩ := h.exists_contents
      exact ⟨contents, .object hmembers, hcontents⟩
  | list hlong =>
    cases h with
    | list h =>
      have hitems := h.forall₂
      rw [← hitems.length_eq, List.length_map] at hlong
      exact ⟨_, .list hlong, forall₂_zip hitems⟩

end Lists

/-! ## Fields -/

/-- Whether a reader of what stands for a tree agrees with what the tree means. -/
def Agrees {ν α : Type} (R : ν → Tree → Prop) (read : ν → Except Fault α)
    (Means : Tree → α → Prop) : Prop :=
  ∀ content tree, R content tree → ∀ result, read content = .ok result ↔ Means tree result

/-- Whether a field has a value: what is listed for it means this value, or it is left out and this
is its default. -/
def Written {α : Type} (Means : Tree → α → Prop) (default? : Option α) : Option Tree → α → Prop
  | some tree, result => Means tree result
  | none, result => default? = some result

section Fields

variable {ν α : Type} {R : ν → Tree → Prop} {Means : Tree → α → Prop} {field : Field ν α}
  {result : α} {listed : Option Tree} {contents : List (String × ν)}
  {entries : List (String × Tree)} {shape : Shape ν}

/-- A field is read as the value it has. -/
theorem Field.get_eq_ok_iff {found : FoundFields ν} (hagrees : Agrees R field.read Means)
    (hrel : Option.Rel R (found.lookup field.name) listed) :
    field.get found = .ok result ↔ Written Means field.default? listed result := by
  rw [Field.get]
  generalize found.lookup field.name = content? at hrel
  cases hrel with
  | some hcontent => exact hagrees _ _ hcontent result
  | none =>
    cases hdefault : field.default? with
    | none => simp [Written]
    | some value => simp [Written]

/-- Whatever stands for what is listed for a field fits its rule. -/
def Rule.FitsAll (R : ν → Tree → Prop) (rule : Rule ν) (listed : Option Tree) : Prop :=
  ∀ content?, Option.Rel R content? listed → rule.Fits content?

/-- What is listed for a field that has a value fits the field. -/
theorem Written.fitsAll (hagrees : Agrees R field.read Means)
    (h : Written Means field.default? listed result) : field.rule.FitsAll R listed := by
  intro content? hrel
  cases hrel with
  | some hcontent =>
    have hread := (hagrees _ _ hcontent result).mpr h
    simp only [Rule.Fits, Field.rule, hread]
    rfl
  | none =>
    have hdefault : field.default? = some result := h
    simp [Rule.Fits, Field.rule, hdefault]

/-- What is found in a record stands for what its tree lists. -/
theorem rel_lookup_known (h : List.Forall₂ (EntryIs R) contents entries) {name : String}
    (hname : name ∈ shape.names) :
    Option.Rel R ((shape.known contents).lookup name) (entries.lookup name) := by
  rw [Shape.lookup_known hname]
  exact rel_lookup h name

/-- What stands for fitting entries makes a record. -/
theorem Shape.admits_of_forall₂ (h : List.Forall₂ (EntryIs R) contents entries)
    (honce : ∀ name ∈ shape.names, (entries.map Prod.fst).count name ≤ 1)
    (hfits : ∀ rule ∈ shape.rules, rule.FitsAll R (entries.lookup rule.name)) :
    shape.Admits contents where
  once rule hrule := map_fst_eq_of_forall₂ h ▸ honce rule.name (List.mem_map_of_mem hrule)
  fits rule hrule := hfits rule hrule _ (rel_lookup h rule.name)

/-- What makes a record stands for entries none of which is listed twice. -/
theorem Shape.Admits.once_of_forall₂ (h : List.Forall₂ (EntryIs R) contents entries)
    (hadmits : shape.Admits contents) :
    ∀ name ∈ shape.names, (entries.map Prod.fst).count name ≤ 1 := by
  intro name hname
  obtain ⟨rule, hrule, rfl⟩ := List.mem_map.mp hname
  exact map_fst_eq_of_forall₂ h ▸ hadmits.once rule hrule

end Fields

section Node

variable {shape : Shape Node} {node : Node} {tree : Tree} {found : FoundFields Node}
  {entries : List (String × Tree)}

/-- A record that is read up to its fields is one of its tree, and what is found shows what the tree
lists. -/
theorem Shape.exists_isRecord (hnodup : shape.names.Nodup) (hnode : node.Shows tree)
    (h : shape.fields node = .ok found) :
    ∃ entries, tree.IsRecord shape.names entries ∧
      ∀ name ∈ shape.names,
        Option.Rel Node.Shows (found.lookup name) (entries.lookup name) := by
  obtain ⟨contents, hlists, hadmits, rfl⟩ := (fields_eq_ok_iff hnodup hnode).mp h
  obtain ⟨entries, htree, hentries⟩ := hnode.exists_entries hlists
  exact ⟨entries, ⟨htree, hadmits.once_of_forall₂ hentries⟩,
    fun _ hname => rel_lookup_known hentries hname⟩

/-- A record of a tree is read up to its fields if what is listed fits them. -/
theorem Shape.exists_fields (hnodup : shape.names.Nodup) (hnode : node.Shows tree)
    (h : tree.IsRecord shape.names entries)
    (hfits : ∀ rule ∈ shape.rules, rule.FitsAll Node.Shows (entries.lookup rule.name)) :
    ∃ found, shape.fields node = .ok found ∧
      ∀ name ∈ shape.names,
        Option.Rel Node.Shows (found.lookup name) (entries.lookup name) := by
  obtain ⟨contents, hlists, hentries⟩ := hnode.exists_contents h.lists
  have hadmits := admits_of_forall₂ hentries h.once hfits
  exact ⟨_, (fields_eq_ok_iff hnodup hnode).mpr ⟨contents, hlists, hadmits, rfl⟩,
    fun _ hname => rel_lookup_known hentries hname⟩

end Node

/-! ## Values of trees -/

mutual

/-- The value of a tree, if all of its literals have values and it opens no more than the given
number of containers. -/
def Tree.value? (room : Nat) : Tree → Option Value
  | .null => some .null
  | .boolean value => some (.boolean value)
  | .number literal => literal.evaluate.toOption.map Number.toValue
  | .text content => content.map .text
  | .list items =>
    match room with
    | 0 => none
    | room + 1 => (itemValues? room items).map .list
  | .object members =>
    match room with
    | 0 => none
    | room + 1 => (memberValues? room members).map .object

/-- The values of items. -/
def itemValues? (room : Nat) : List Tree → Option (List Value)
  | [] => some []
  | tree :: trees => do
    let value ← tree.value? room
    return value :: (← itemValues? room trees)

/-- The values of members, with their names. -/
def memberValues? (room : Nat) : List (Option String × Tree) → Option (List (String × Value))
  | [] => some []
  | (key, tree) :: members => do
    let name ← key
    let value ← tree.value? room
    return (name, value) :: (← memberValues? room members)

end

/-- Items have values if each of them has one. -/
theorem isSome_itemValues?_iff {room : Nat} {trees : List Tree} :
    (itemValues? room trees).isSome ↔ ∀ tree ∈ trees, (tree.value? room).isSome := by
  induction trees with
  | nil => simp [itemValues?]
  | cons tree trees ih =>
    rw [itemValues?, List.forall_mem_cons, ← ih]
    cases tree.value? room with
    | none => simp
    | some value => cases itemValues? room trees <;> simp

/-- Members have values if each of them has a name and a value. -/
theorem isSome_memberValues?_iff {room : Nat} {members : List (Option String × Tree)} :
    (memberValues? room members).isSome ↔
      ∀ member ∈ members, member.1.isSome ∧ (member.2.value? room).isSome := by
  induction members with
  | nil => simp [memberValues?]
  | cons member members ih =>
    obtain ⟨key, tree⟩ := member
    rw [memberValues?, List.forall_mem_cons, ← ih]
    cases key with
    | none => simp
    | some name =>
      cases tree.value? room with
      | none => simp
      | some value => cases memberValues? room members <;> simp

/-- Whether a value is that of a tree. -/
def IsValueOf (room : Nat) (value : Value) (tree : Tree) : Prop :=
  tree.value? room = some value

mutual

/-- The value that is taken out of a text is that of the tree. -/
theorem Node.Shows.toOption_toValue {node : Node} {tree : Tree} (h : node.Shows tree) (room : Nat) :
    (node.toValue room).toOption = tree.value? room := by
  cases h with
  | null => simp only [Node.toValue, Tree.value?]; rfl
  | boolean => simp only [Node.toValue, Tree.value?]; rfl
  | @number _ _ literal =>
    simp only [Node.toValue, Tree.value?, NumberLiteral.read]
    cases literal.evaluate <;> rfl
  | @text _ literal _ h =>
    simp only [Node.toValue, Tree.value?, ← h]
    cases literal.value <;> rfl
  | @list _ _ items trees h =>
    cases room with
    | zero => simp only [Node.toValue, Tree.value?]; rfl
    | succ room =>
      simp only [Node.toValue, Tree.value?, ← h.toOption_itemValues room]
      cases itemValues room items <;> rfl
  | @object _ _ members trees h =>
    cases room with
    | zero => simp only [Node.toValue, Tree.value?]; rfl
    | succ room =>
      simp only [Node.toValue, Tree.value?, ← h.toOption_memberValues room]
      cases memberValues room members <;> rfl

/-- The values that are taken out of a list are those of the items. -/
theorem ItemsShow.toOption_itemValues {items : List (Item Node)} {trees : List Tree}
    (h : ItemsShow items trees) (room : Nat) :
    (itemValues room items).toOption = itemValues? room trees := by
  cases h with
  | nil => rfl
  | @cons item items _ _ h hitems =>
    simp only [itemValues, itemValues?, ← h.toOption_toValue room,
      ← hitems.toOption_itemValues room]
    cases item.value.toValue room with
    | error => rfl
    | ok value => cases itemValues room items <;> rfl

/-- The values that are taken out of an object are those of the members. -/
theorem MembersShow.toOption_memberValues {members : List (Member Node)}
    {trees : List (Option String × Tree)} (h : MembersShow members trees) (room : Nat) :
    (memberValues room members).toOption = memberValues? room trees := by
  cases h with
  | nil => rfl
  | @cons member members _ _ _ hkey h hmembers =>
    simp only [memberValues, memberValues?, ← hkey, ← h.toOption_toValue room,
      ← hmembers.toOption_memberValues room]
    cases member.key.value with
    | error => rfl
    | ok name =>
      cases member.value.toValue room with
      | error => rfl
      | ok value => cases memberValues room members <;> rfl

end

/-- A value is taken out of a text if it is the value of the tree. -/
theorem Node.Shows.toValue_eq_ok_iff {node : Node} {tree : Tree} {room : Nat} {value : Value}
    (h : node.Shows tree) : node.toValue room = .ok value ↔ IsValueOf room value tree := by
  rw [← toOption_eq_some_iff, h.toOption_toValue, IsValueOf]

end PersistenceLayer.Json
