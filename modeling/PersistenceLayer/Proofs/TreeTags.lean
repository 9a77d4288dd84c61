import PersistenceLayer.Proofs.TreeRecords

/-!
# Tagged trees

A tagged choice is a record one of whose entries, the tag, names the choice. It is
split into the choice and the values of the other entries, wherever the tag stands;
if the content of a choice is tagged again, this is done twice. What a tree selects
is said in one way for both.
-/

namespace PersistenceLayer.Json

/-! ## What is listed besides a name -/

section Filter

variable {β γ : Type} {listed others : List (String × β)} {name other : String} {value : β}

/-- What is listed under a name. -/
def under (name : String) (listed : List (String × β)) : List (String × β) :=
  listed.filter fun entry => entry.1 == name

/-- What is listed under other names. -/
def besides (name : String) (listed : List (String × β)) : List (String × β) :=
  listed.filter fun entry => entry.1 != name

@[simp] theorem under_cons_self : under name ((name, value) :: listed) =
    (name, value) :: under name listed := by
  simp [under]

@[simp] theorem besides_cons_self : besides name ((name, value) :: listed) =
    besides name listed := by
  simp [besides]

theorem under_cons_of_ne (h : other ≠ name) : under name ((other, value) :: listed) =
    under name listed := by
  simp [under, h]

theorem besides_cons_of_ne (h : other ≠ name) : besides name ((other, value) :: listed) =
    (other, value) :: besides name listed := by
  simp [besides, h]

/-- A name is listed once, for a value, if nothing else is listed for it. -/
theorem under_eq_singleton_iff : under name listed = [(name, value)] ↔
    (listed.map Prod.fst).count name ≤ 1 ∧ listed.lookup name = some value := by
  have hcount : (listed.map Prod.fst).count name = (under name listed).length := by
    rw [List.count, List.countP_map, List.countP_eq_length_filter]
    rfl
  have hmem (h : (listed.map Prod.fst).count name ≤ 1) :
      listed.lookup name = some value ↔ (name, value) ∈ under name listed := by
    simp [lookup_eq_some_iff_mem h, under]
  constructor
  · intro h
    have hle : (listed.map Prod.fst).count name ≤ 1 := by simp [hcount, h]
    exact ⟨hle, (hmem hle).mpr (h ▸ List.mem_singleton_self _)⟩
  · rintro ⟨hle, hlookup⟩
    have hin := (hmem hle).mp hlookup
    rw [hcount] at hle
    obtain ⟨first, hfirst⟩ := List.length_eq_one_iff.mp
      (Nat.le_antisymm hle (List.length_pos_of_mem hin))
    rw [hfirst] at hin ⊢
    rw [List.mem_singleton.mp hin]

/-- Besides one name, the others are looked up as before. -/
theorem lookup_besides (h : name ≠ other) : (besides other listed).lookup name =
    listed.lookup name :=
  lookup_filter (fun name => name != other) (bne_iff_ne.mpr h)

/-- Besides one name, the others are listed as often as before. -/
theorem count_besides (h : name ≠ other) :
    ((besides other listed).map Prod.fst).count name = (listed.map Prod.fst).count name := by
  simp only [List.count, besides, List.countP_map, List.countP_filter]
  refine List.countP_congr fun entry _ => ?_
  simp only [Function.comp_apply, Bool.and_eq_true, beq_iff_eq, bne_iff_ne, and_iff_left_iff_imp]
  rintro rfl
  exact h

/-- Related entries stay related besides a name. -/
theorem forall₂_besides {R : β → γ → Prop} {related : List (String × γ)}
    (h : List.Forall₂ (EntryIs R) listed related) (name : String) :
    List.Forall₂ (EntryIs R) (besides name listed) (besides name related) :=
  List.rel_filter (fun _ _ hentry => by simp only [hentry.1]) h

/-- Nothing is listed under another name in the order of some names. -/
theorem under_zip {names : List String} {values : List β} (h : name ∉ names) :
    under name (names.zip values) = [] := by
  refine List.filter_eq_nil_iff.mpr fun entry hentry heq => h ?_
  rw [← eq_of_beq heq]
  exact (map_fst_zip_sublist names values).subset (List.mem_map_of_mem hentry)

/-- Everything is listed besides another name in the order of some names. -/
theorem besides_zip {names : List String} {values : List β} (h : name ∉ names) :
    besides name (names.zip values) = names.zip values := by
  refine List.filter_eq_self.mpr fun entry hentry => bne_iff_ne.mpr ?_
  rintro rfl
  exact h ((map_fst_zip_sublist names values).subset (List.mem_map_of_mem hentry))

end Filter

/-! ## Tags -/

section Tagging

variable {α : Type} {tagging : Tagging α} {choice : α} {names : List String} {room : Nat}

/-- A choice is found by its name. -/
theorem Value.choose_eq_ok_iff {choices : List (String × α)} {name : String} :
    Value.choose choices name = .ok choice ↔ choices.lookup name = some choice := by
  rw [Value.choose]
  cases choices.lookup name <;> simp

/-- The name of a choice is read from a literal that stands for it. -/
theorem readVariantName_eq_ok_iff {choices : List (String × α)} {literal : TextLiteral} :
    Node.readVariantName choices literal = .ok choice ↔
      ∃ name, literal.value.toOption = some name ∧ choices.lookup name = some choice := by
  simp only [Node.readVariantName, bind_eq_ok_iff, settled_eq_ok_iff, Value.choose_eq_ok_iff,
    toOption_eq_some_iff]

/-- Whether a tree is the name of a choice. -/
def Tagging.IsTag (tagging : Tagging α) (tree : Tree) (choice : α) : Prop :=
  ∃ name, tree = .text (some name) ∧ tagging.choices.lookup name = some choice

/-- The name of a choice is read as this choice. -/
theorem Node.Shows.readVariant_eq_ok_iff {node : Node} {tree : Tree} (h : node.Shows tree) :
    node.readVariant tagging.choices = .ok choice ↔ tagging.IsTag tree choice := by
  cases h with
  | @text _ literal _ h =>
    simp only [Node.readVariant, readVariantName_eq_ok_iff, Tagging.IsTag, Tree.text.injEq, h]
  | _ =>
    refine ⟨fun h => ?_, ?_⟩
    · simp only [Node.readVariant] at h
      exact absurd h Node.mismatch_ne_ok
    · rintro ⟨_, ⟨⟩, _⟩

/-- Whether the tag that was found before, the entries under the tag's name, and the tag that is
found in the end fit together: there is no more than one tag. -/
inductive Tagging.Finds (tagging : Tagging α) : Option α → List (String × Tree) → Option α → Prop
  | nothing {found : Option α} : Tagging.Finds tagging found [] found
  | tag {tree : Tree} {choice : α} (h : tagging.IsTag tree choice) :
      Tagging.Finds tagging none [(tagging.tag, tree)] (some choice)

/-- A tag is found behind no other. -/
theorem Tagging.finds_cons_iff {found result : Option α} {tree : Tree}
    {entries : List (String × Tree)} :
    tagging.Finds found ((tagging.tag, tree) :: entries) result ↔
      found = none ∧ ∃ choice, tagging.IsTag tree choice ∧
        tagging.Finds (some choice) entries result := by
  constructor
  · intro h
    cases h with
    | tag h => exact ⟨rfl, _, h, .nothing⟩
  · rintro ⟨rfl, choice, h, hfinds⟩
    cases hfinds
    exact .tag h

section Members

variable {member : Member Node} {members : List (Member Node)} {key : Option String} {tree : Tree}
  {trees : List (Option String × Tree)} {name : String} {found result : Option α}
  {values : List (String × Value)}

/-- A member under the tag's name is the tag, unless there is one already. -/
theorem Tagging.splitMembers_cons_of_tag (hkey : member.key.value = .ok tagging.tag)
    (hnode : member.value.Shows tree) :
    tagging.splitMembers room found (member :: members) = .ok (result, values) ↔
      found = none ∧ ∃ choice, tagging.IsTag tree choice ∧
        tagging.splitMembers room (some choice) members = .ok (result, values) := by
  simp only [splitMembers, bind_eq_ok_iff, hkey, Except.ok.injEq, exists_eq_left', if_true]
  cases found with
  | some choice => simp
  | none => simp [bind_eq_ok_iff, hnode.readVariant_eq_ok_iff]

/-- The value of any other member is put in front of those of the members behind it. -/
theorem Tagging.splitMembers_cons_of_ne (hkey : member.key.value = .ok name)
    (hne : name ≠ tagging.tag) (hnode : member.value.Shows tree) :
    tagging.splitMembers room found (member :: members) = .ok (result, values) ↔
      ∃ value others, IsValueOf room value tree ∧
        tagging.splitMembers room found members = .ok (result, others) ∧
        values = (name, value) :: others := by
  simp only [splitMembers, bind_eq_ok_iff, hkey, Except.ok.injEq, exists_eq_left', if_neg hne,
    Prod.exists, pure_eq_ok_iff, Prod.mk.injEq, hnode.toValue_eq_ok_iff]
  constructor
  · rintro ⟨value, hvalue, _, others, hsplit, rfl, rfl⟩
    exact ⟨value, others, hvalue, hsplit, rfl⟩
  · rintro ⟨value, others, hvalue, hsplit, rfl⟩
    exact ⟨value, hvalue, _, others, hsplit, rfl, rfl⟩

/-- There are entries for a member and those behind it if its key is a text. -/
theorem exists_keyed_cons_iff {holds : List (String × Tree) → Prop} :
    (∃ entries, (key, tree) :: trees = keyed entries ∧ holds entries) ↔
      ∃ name entries, key = some name ∧ trees = keyed entries ∧ holds ((name, tree) :: entries) := by
  constructor
  · rintro ⟨_ | ⟨⟨name, _⟩, entries⟩, hentries, h⟩
    · cases hentries
    · obtain ⟨⟨rfl, rfl⟩, rfl⟩ : (key = some name ∧ tree = _) ∧ trees = keyed entries := by
        simpa using hentries
      exact ⟨name, entries, rfl, rfl, h⟩
  · rintro ⟨name, entries, rfl, rfl, h⟩
    exact ⟨_, rfl, h⟩

/-- The values of entries with one more in front are its value and those of the others. -/
theorem forall₂_cons_entry_iff {entries : List (String × Tree)} :
    List.Forall₂ (EntryIs (IsValueOf room)) values ((name, tree) :: entries) ↔
      ∃ value others, IsValueOf room value tree ∧
        List.Forall₂ (EntryIs (IsValueOf room)) others entries ∧
        values = (name, value) :: others := by
  rw [List.forall₂_cons_right_iff]
  constructor
  · rintro ⟨⟨_, value⟩, others, ⟨rfl, hvalue⟩, hothers, rfl⟩
    exact ⟨value, others, hvalue, hothers, rfl⟩
  · rintro ⟨value, others, hvalue, hothers, rfl⟩
    exact ⟨(name, value), others, ⟨rfl, hvalue⟩, hothers, rfl⟩

/-- The tag is taken out of the members of an object, and so are the values of the others. -/
theorem Tagging.splitMembers_eq_ok_iff (h : MembersShow members trees) :
    tagging.splitMembers room found members = .ok (result, values) ↔
      ∃ entries, trees = keyed entries ∧ tagging.Finds found (under tagging.tag entries) result ∧
        List.Forall₂ (EntryIs (IsValueOf room)) values (besides tagging.tag entries) := by
  induction members generalizing trees found values with
  | nil =>
    cases h
    rw [splitMembers]
    constructor
    · rintro ⟨⟩
      exact ⟨[], rfl, .nothing, .nil⟩
    · rintro ⟨entries, hentries, hfinds, hvalues⟩
      obtain rfl := List.map_eq_nil_iff.mp hentries.symm
      cases hfinds
      cases hvalues
      rfl
  | cons member members ih =>
    obtain - | @⟨_, _, _, tree, trees, rfl, hnode, hmembers⟩ := h
    rw [exists_keyed_cons_iff]
    cases hname : member.key.value with
    | error fault => simp [splitMembers, hname, bind_eq_ok_iff, Except.toOption]
    | ok name =>
      simp only [Except.toOption, Option.some.injEq]
      by_cases htag : name = tagging.tag
      · subst htag
        simp only [splitMembers_cons_of_tag hname hnode, ih hmembers]
        constructor
        · rintro ⟨rfl, choice, hchoice, entries, rfl, hfinds, hvalues⟩
          refine ⟨_, entries, rfl, rfl, ?_, by rwa [besides_cons_self]⟩
          rw [under_cons_self, finds_cons_iff]
          exact ⟨rfl, choice, hchoice, hfinds⟩
        · rintro ⟨_, entries, rfl, rfl, hfinds, hvalues⟩
          rw [under_cons_self, finds_cons_iff] at hfinds
          obtain ⟨rfl, choice, hchoice, hfinds⟩ := hfinds
          exact ⟨rfl, choice, hchoice, entries, rfl, hfinds, by rwa [besides_cons_self] at hvalues⟩
      · simp only [splitMembers_cons_of_ne hname htag hnode, ih hmembers]
        constructor
        · rintro ⟨value, others, hvalue, ⟨entries, rfl, hfinds, hothers⟩, rfl⟩
          refine ⟨name, entries, rfl, rfl, by rwa [under_cons_of_ne htag], ?_⟩
          rw [besides_cons_of_ne htag, forall₂_cons_entry_iff]
          exact ⟨value, others, hvalue, hothers, rfl⟩
        · rintro ⟨_, entries, rfl, rfl, hfinds, hvalues⟩
          rw [under_cons_of_ne htag] at hfinds
          rw [besides_cons_of_ne htag, forall₂_cons_entry_iff] at hvalues
          obtain ⟨value, others, hvalue, hothers, rfl⟩ := hvalues
          exact ⟨value, others, hvalue, ⟨entries, rfl, hfinds, hothers⟩, rfl⟩

end Members

/-- Whether entries list one tag, which names a choice. -/
def Tagging.Names (tagging : Tagging α) (entries : List (String × Tree)) (choice : α) : Prop :=
  ∃ tree, under tagging.tag entries = [(tagging.tag, tree)] ∧ tagging.IsTag tree choice

/-- An object is split if it lists one tag and the values of everything else. -/
theorem Tagging.split_object_eq_ok_iff {start stop : Position} {members : List (Member Node)}
    {trees : List (Option String × Tree)} {content : Content} (h : MembersShow members trees) :
    tagging.split (room + 1) (.object start members (.closed stop)) = .ok (choice, content) ↔
      ∃ entries values, trees = keyed entries ∧ tagging.Names entries choice ∧
        content = .members values ∧
        List.Forall₂ (EntryIs (IsValueOf room)) values (besides tagging.tag entries) := by
  simp only [split, bind_eq_ok_iff, Prod.exists, splitMembers_eq_ok_iff h, pure_eq_ok_iff,
    Prod.mk.injEq]
  constructor
  · rintro ⟨found, values, ⟨entries, rfl, hfinds, hvalues⟩, choice, hending, rfl, rfl⟩
    refine ⟨entries, values, rfl, ?_, rfl, hvalues⟩
    cases hentries : under tagging.tag entries with
    | nil =>
      rw [hentries] at hfinds
      cases hfinds
      cases hending
    | cons =>
      rw [hentries] at hfinds
      cases hfinds with
      | tag h =>
        cases hending
        exact ⟨_, hentries, h⟩
  · rintro ⟨entries, values, rfl, ⟨tree, htree, htag⟩, rfl, hvalues⟩
    exact ⟨some choice, values, ⟨entries, rfl, htree ▸ .tag htag, hvalues⟩, choice, rfl, rfl, rfl⟩

/-- Items are taken out of their text if all of them have values. -/
theorem ItemsShow.itemValues_eq_ok_iff {items : List (Item Node)} {trees : List Tree}
    {values : List Value} (h : ItemsShow items trees) :
    itemValues room items = .ok values ↔ List.Forall₂ (IsValueOf room) values trees := by
  induction items generalizing trees values with
  | nil =>
    cases h
    rw [itemValues, List.forall₂_nil_right_iff, Except.ok.injEq, eq_comm]
  | cons item items ih =>
    obtain ⟨node, resume⟩ := item
    cases h with
    | cons h hitems =>
      simp only [itemValues, bind_eq_ok_iff, pure_eq_ok_iff, ih hitems,
        List.forall₂_cons_right_iff, h.toValue_eq_ok_iff]
      constructor
      · rintro ⟨value, hvalue, others, hothers, rfl⟩
        exact ⟨value, others, hvalue, hothers, rfl⟩
      · rintro ⟨value, others, hvalue, hothers, rfl⟩
        exact ⟨value, hvalue, others, hothers, rfl⟩

/-- A list is split if it starts with a tag and the rest has values. -/
theorem Tagging.split_list_eq_ok_iff {start stop : Position} {items : List (Item Node)}
    {trees : List Tree} {content : Content} (h : ItemsShow items trees) :
    tagging.split (room + 1) (.list start items (.closed stop)) = .ok (choice, content) ↔
      ∃ tree others values, trees = tree :: others ∧ tagging.IsTag tree choice ∧
        content = .items values ∧ List.Forall₂ (IsValueOf room) values others := by
  cases h with
  | nil => simp [split]
  | @cons item items tree others h hitems =>
    simp only [split, bind_eq_ok_iff, pure_eq_ok_iff, h.readVariant_eq_ok_iff,
      hitems.itemValues_eq_ok_iff, Prod.mk.injEq, List.cons.injEq]
    constructor
    · rintro ⟨choice, htag, values, hvalues, ⟨⟩, -, rfl, rfl⟩
      exact ⟨tree, others, values, ⟨rfl, rfl⟩, htag, rfl, hvalues⟩
    · rintro ⟨_, _, values, ⟨rfl, rfl⟩, htag, rfl, hvalues⟩
      exact ⟨choice, htag, values, hvalues, (), rfl, rfl, rfl⟩

/-- Trees with values are related to them. -/
theorem exists_forall₂_isValueOf {trees : List Tree}
    (h : ∀ tree ∈ trees, (tree.value? room).isSome) :
    ∃ values, List.Forall₂ (IsValueOf room) values trees := by
  induction trees with
  | nil => exact ⟨[], .nil⟩
  | cons tree trees ih =>
    obtain ⟨hfirst, hothers⟩ := List.forall_mem_cons.mp h
    obtain ⟨value, hvalue⟩ := Option.isSome_iff_exists.mp hfirst
    obtain ⟨values, hvalues⟩ := ih hothers
    exact ⟨value :: values, .cons hvalue hvalues⟩

/-- Entries with values are related to them under the same names. -/
theorem exists_forall₂_entryIs {entries : List (String × Tree)}
    (h : ∀ entry ∈ entries, (entry.2.value? room).isSome) :
    ∃ values, List.Forall₂ (EntryIs (IsValueOf room)) values entries := by
  induction entries with
  | nil => exact ⟨[], .nil⟩
  | cons entry entries ih =>
    obtain ⟨hfirst, hothers⟩ := List.forall_mem_cons.mp h
    obtain ⟨value, hvalue⟩ := Option.isSome_iff_exists.mp hfirst
    obtain ⟨values, hvalues⟩ := ih hothers
    exact ⟨(entry.1, value) :: values, .cons ⟨rfl, hvalue⟩ hvalues⟩

/-- Entries that are related to values have them. -/
theorem isSome_of_forall₂ {entries : List (String × Tree)} {values : List (String × Value)}
    (h : List.Forall₂ (EntryIs (IsValueOf room)) values entries) :
    ∀ entry ∈ entries, (entry.2.value? room).isSome := by
  induction h with
  | nil => nofun
  | cons hentry _ ih => exact List.forall_mem_cons.mpr ⟨Option.isSome_of_eq_some hentry.2, ih⟩

/-- What a node that is split lists besides its tag are the values of what its tree lists. -/
theorem Tagging.exists_lists_of_split {node : Node} {tree : Tree} {content : Content}
    {values : List (String × Value)} (hnode : node.Shows tree) (htag : tagging.tag ∉ names)
    (h : tagging.split (room + 1) node = .ok (choice, content))
    (hlists : content.Lists names values) :
    ∃ entries, tree.Lists (tagging.tag :: names) entries ∧ tagging.Names entries choice ∧
      List.Forall₂ (EntryIs (IsValueOf room)) values (besides tagging.tag entries) := by
  cases hnode with
  | object hmembers =>
    obtain ⟨entries, values, rfl, hnames, rfl, hvalues⟩ := (split_object_eq_ok_iff hmembers).mp h
    cases hlists
    exact ⟨entries, .object rfl, hnames, hvalues⟩
  | list hitems =>
    obtain ⟨tree, others, values, rfl, hchoice, rfl, hvalues⟩ := (split_list_eq_ok_iff hitems).mp h
    cases hlists with
    | items hlong =>
      refine ⟨_, .list (by simpa [← hvalues.length_eq] using hlong), ⟨tree, ?_, hchoice⟩, ?_⟩
      · rw [List.zip_cons_cons, under_cons_self, under_zip htag]
      · rw [List.zip_cons_cons, besides_cons_self, besides_zip htag]
        exact forall₂_zip hvalues
  | _ =>
    simp only [split] at h
    exact absurd h Node.mismatch_ne_ok

/-- A node is split if its tree lists one tag and everything else has a value. -/
theorem Tagging.exists_split_of_lists {node : Node} {tree : Tree} {entries : List (String × Tree)}
    (hnode : node.Shows tree) (htag : tagging.tag ∉ names)
    (hlists : tree.Lists (tagging.tag :: names) entries) (hnames : tagging.Names entries choice)
    (hvalues : ∀ entry ∈ besides tagging.tag entries, (entry.2.value? room).isSome) :
    ∃ content values, tagging.split (room + 1) node = .ok (choice, content) ∧
      content.Lists names values ∧
      List.Forall₂ (EntryIs (IsValueOf room)) values (besides tagging.tag entries) := by
  cases hlists with
  | object hentries =>
    subst hentries
    obtain - | - | - | - | - | hmembers := hnode
    obtain ⟨values, hrel⟩ := exists_forall₂_entryIs hvalues
    exact ⟨_, values,
      (split_object_eq_ok_iff hmembers).mpr ⟨entries, values, rfl, hnames, rfl, hrel⟩,
      .members, hrel⟩
  | @list items hlong =>
    obtain - | - | - | - | hitems | - := hnode
    obtain ⟨tree, hunder, hchoice⟩ := hnames
    obtain - | ⟨first, others⟩ := items
    · cases hunder
    rw [List.length_cons, List.length_cons, Nat.succ_le_succ_iff] at hlong
    rw [List.zip_cons_cons, under_cons_self, under_zip htag] at hunder
    cases hunder
    rw [List.zip_cons_cons, besides_cons_self, besides_zip htag] at hvalues ⊢
    have hothers : ∀ other ∈ others, (other.value? room).isSome := by
      intro other hother
      rw [← List.map_snd_zip hlong] at hother
      obtain ⟨entry, hentry, rfl⟩ := List.mem_map.mp hother
      exact hvalues entry hentry
    obtain ⟨values, hrel⟩ := exists_forall₂_isValueOf hothers
    exact ⟨_, _, (split_list_eq_ok_iff hitems).mpr ⟨tree, others, values, rfl, hchoice, rfl, hrel⟩,
      .items (hrel.length_eq ▸ hlong), forall₂_zip hrel⟩

/-- What a content that is split lists besides its tag is what the content lists. -/
theorem Tagging.exists_lists_of_splitContent {content rest : Content}
    {others : List (String × Value)} (htag : tagging.tag ∉ names)
    (h : tagging.splitContent content = .ok (choice, rest)) (hlists : rest.Lists names others) :
    ∃ values value, content.Lists (tagging.tag :: names) values ∧
      under tagging.tag values = [(tagging.tag, value)] ∧ tagging.readTag value = .ok choice ∧
      others = besides tagging.tag values := by
  cases content with
  | members members =>
    rw [splitContent] at h
    split at h
    · cases h
    · next name first tags hunder =>
      obtain ⟨choice, hread, h⟩ := bind_eq_ok_iff.mp h
      split at h
      · next hsingle =>
        cases h
        cases hlists
        obtain rfl := List.isEmpty_iff.mp hsingle
        have hname : (name, first) ∈ members.filter fun member => member.1 == tagging.tag := by
          rw [hunder]
          exact List.mem_singleton_self _
        obtain rfl : name = tagging.tag := eq_of_beq (List.mem_filter.mp hname).2
        exact ⟨members, first, .members, hunder, hread, rfl⟩
      · cases h
  | items items =>
    cases items with
    | nil => cases h
    | cons first items =>
      obtain ⟨choice, hread, h⟩ := bind_eq_ok_iff.mp h
      cases h
      cases hlists with
      | items hlong =>
        refine ⟨_, first, .items (Nat.succ_le_succ hlong), ?_, hread, ?_⟩
        · rw [List.zip_cons_cons, under_cons_self, under_zip htag]
        · rw [List.zip_cons_cons, besides_cons_self, besides_zip htag]

/-- A content is split if it lists one tag. -/
theorem Tagging.exists_splitContent_of_lists {content : Content} {values : List (String × Value)}
    {value : Value} (htag : tagging.tag ∉ names)
    (hlists : content.Lists (tagging.tag :: names) values)
    (hunder : under tagging.tag values = [(tagging.tag, value)])
    (hread : tagging.readTag value = .ok choice) :
    ∃ rest, tagging.splitContent content = .ok (choice, rest) ∧
      rest.Lists names (besides tagging.tag values) := by
  cases hlists with
  | members =>
    refine ⟨.members (besides tagging.tag values), ?_, .members⟩
    rw [under] at hunder
    simp only [splitContent, hunder, hread, bind, Except.bind, List.isEmpty_nil, if_true]
    rfl
  | @items items hlong =>
    obtain - | ⟨first, items⟩ := items
    · cases hunder
    rw [List.zip_cons_cons, under_cons_self, under_zip htag] at hunder
    cases hunder
    rw [List.zip_cons_cons, besides_cons_self, besides_zip htag]
    refine ⟨.items items, ?_, .items (Nat.le_of_succ_le_succ hlong)⟩
    simp only [splitContent, hread, bind, Except.bind]
    rfl

/-- What a tree means if its value is read. -/
def MeansBy {β : Type} (room : Nat) (read : Value → Except Fault β) (tree : Tree) (result : β) :
    Prop :=
  ∃ value, IsValueOf room value tree ∧ read value = .ok result

/-- A reader of values agrees with what it makes of the value of a tree. -/
theorem agrees_meansBy {β : Type} (room : Nat) (read : Value → Except Fault β) :
    Agrees (IsValueOf room) read (MeansBy room read) := by
  intro value tree hvalue result
  refine ⟨fun h => ⟨value, hvalue, h⟩, ?_⟩
  rintro ⟨other, hother, h⟩
  obtain rfl := Option.some_inj.mp (hvalue.symm.trans hother)
  exact h

/-- Whether a tree selects a choice: the entries for its fields and its tag are listed once, and
everything besides the tag has a value. -/
structure Tagging.Selects (tagging : Tagging α) (room : Nat) (names : List String) (choice : α)
    (tree : Tree) (entries : List (String × Tree)) : Prop where
  record : tree.IsRecord (tagging.tag :: names) entries
  choice : Written tagging.IsTag none (entries.lookup tagging.tag) choice
  values : ∀ entry ∈ besides tagging.tag entries, (entry.2.value? room).isSome

/-- Entries name a choice if they list the tag once, and it is the name of the choice. -/
theorem Tagging.names_iff {entries : List (String × Tree)} : tagging.Names entries choice ↔
    (entries.map Prod.fst).count tagging.tag ≤ 1 ∧
      Written tagging.IsTag none (entries.lookup tagging.tag) choice := by
  simp only [Names, under_eq_singleton_iff]
  cases entries.lookup tagging.tag <;> simp [Written]

/-- A tree that lists one tag, and the fields of the choice once, selects the choice. -/
theorem Tagging.selects_of_lists {tree : Tree} {entries : List (String × Tree)}
    {values : List (String × Value)} (htag : tagging.tag ∉ names)
    (hlists : tree.Lists (tagging.tag :: names) entries) (hnames : tagging.Names entries choice)
    (hvalues : List.Forall₂ (EntryIs (IsValueOf room)) values (besides tagging.tag entries))
    (honce : ∀ name ∈ names, (values.map Prod.fst).count name ≤ 1) :
    tagging.Selects room names choice tree entries := by
  obtain ⟨hsingle, hchoice⟩ := names_iff.mp hnames
  refine ⟨⟨hlists, List.forall_mem_cons.mpr ⟨hsingle, fun name hname => ?_⟩⟩, hchoice, ?_⟩
  · have hne : name ≠ tagging.tag := fun heq => htag (heq ▸ hname)
    rw [← count_besides hne, ← map_fst_eq_of_forall₂ hvalues]
    exact honce name hname
  · exact isSome_of_forall₂ hvalues

section Content

variable {shape : Shape Value} {node : Node} {tree : Tree} {content : Content}
  {found : FoundFields Value} {entries : List (String × Tree)}

/-- A tagged choice that is read up to its fields is selected by its tree, and what is found are the
values of what the tree lists. -/
theorem Tagging.exists_selects (hnodup : (tagging.tag :: shape.names).Nodup)
    (hnode : node.Shows tree) (hsplit : tagging.split (room + 1) node = .ok (choice, content))
    (hfields : shape.contentFields content = .ok found) :
    ∃ entries, tagging.Selects room shape.names choice tree entries ∧
      ∀ name ∈ shape.names,
        Option.Rel (IsValueOf room) (found.lookup name) (entries.lookup name) := by
  obtain ⟨htag, hnodup⟩ := List.nodup_cons.mp hnodup
  obtain ⟨values, hlists, hadmits, rfl⟩ := (Shape.contentFields_eq_ok_iff hnodup).mp hfields
  obtain ⟨entries, htree, hnames, hvalues⟩ := exists_lists_of_split hnode htag hsplit hlists
  refine ⟨entries, selects_of_lists htag htree hnames hvalues ?_, fun name hname => ?_⟩
  · exact map_fst_eq_of_forall₂ hvalues ▸ hadmits.once_of_forall₂ hvalues
  · have hne : name ≠ tagging.tag := fun heq => htag (heq ▸ hname)
    have hrel := rel_lookup_known hvalues hname
    rwa [lookup_besides hne] at hrel

/-- A tree that selects a choice is read up to the fields of the choice if what is listed fits
them. -/
theorem Tagging.Selects.exists_fields (hnodup : (tagging.tag :: shape.names).Nodup)
    (hnode : node.Shows tree) (h : tagging.Selects room shape.names choice tree entries)
    (hfits : ∀ rule ∈ shape.rules, rule.FitsAll (IsValueOf room) (entries.lookup rule.name)) :
    ∃ content found, tagging.split (room + 1) node = .ok (choice, content) ∧
      shape.contentFields content = .ok found ∧
      ∀ name ∈ shape.names,
        Option.Rel (IsValueOf room) (found.lookup name) (entries.lookup name) := by
  obtain ⟨htag, hnodup⟩ := List.nodup_cons.mp hnodup
  obtain ⟨hsingle, honce⟩ := List.forall_mem_cons.mp h.record.once
  obtain ⟨content, values, hsplit, hlists, hvalues⟩ := exists_split_of_lists hnode htag
    h.record.lists (names_iff.mpr ⟨hsingle, h.choice⟩) h.values
  have hne : ∀ name ∈ shape.names, name ≠ tagging.tag := fun name hname heq => htag (heq ▸ hname)
  have hadmits : shape.Admits values := by
    refine Shape.admits_of_forall₂ hvalues (fun name hname => ?_) fun rule hrule => ?_
    · rw [count_besides (hne name hname)]
      exact honce name hname
    · rw [lookup_besides (hne rule.name (List.mem_map_of_mem hrule))]
      exact hfits rule hrule
  refine ⟨content, _, hsplit,
    (Shape.contentFields_eq_ok_iff hnodup).mpr ⟨values, hlists, hadmits, rfl⟩, fun name hname => ?_⟩
  have hrel := rel_lookup_known hvalues hname
  rwa [lookup_besides (hne name hname)] at hrel

/-- A choice whose content is tagged again is selected by its tree. What is listed for the inner tag
is read as the inner choice, and what is found are the values of what the tree lists. -/
theorem Tagging.exists_selects_nested {β : Type} {inner : Tagging β} {form : β} {rest : Content}
    (hnodup : (tagging.tag :: inner.tag :: shape.names).Nodup) (hnode : node.Shows tree)
    (hsplit : tagging.split (room + 1) node = .ok (choice, content))
    (hinner : inner.splitContent content = .ok (form, rest))
    (hfields : shape.contentFields rest = .ok found) :
    ∃ entries, tagging.Selects room (inner.tag :: shape.names) choice tree entries ∧
      Written (MeansBy room inner.readTag) none (entries.lookup inner.tag) form ∧
      ∀ name ∈ shape.names,
        Option.Rel (IsValueOf room) (found.lookup name) (entries.lookup name) := by
  obtain ⟨htag, hnodup⟩ := List.nodup_cons.mp hnodup
  obtain ⟨hinnerTag, hnodup⟩ := List.nodup_cons.mp hnodup
  obtain ⟨others, hothers, hadmits, rfl⟩ := (Shape.contentFields_eq_ok_iff hnodup).mp hfields
  obtain ⟨values, value, hlists, hunder, hread, rfl⟩ :=
    exists_lists_of_splitContent hinnerTag hinner hothers
  obtain ⟨entries, htree, hnames, hvalues⟩ := exists_lists_of_split hnode htag hsplit hlists
  obtain ⟨hsingle, hvalue⟩ := under_eq_singleton_iff.mp hunder
  have hne : ∀ name ∈ inner.tag :: shape.names, name ≠ tagging.tag :=
    fun name hname heq => htag (heq ▸ hname)
  have hneInner : ∀ name ∈ shape.names, name ≠ inner.tag :=
    fun name hname heq => hinnerTag (heq ▸ hname)
  refine ⟨entries, selects_of_lists htag htree hnames hvalues ?_, ?_, fun name hname => ?_⟩
  · refine List.forall_mem_cons.mpr ⟨hsingle, fun name hname => ?_⟩
    obtain ⟨rule, hrule, rfl⟩ := List.mem_map.mp hname
    rw [← count_besides (hneInner _ hname)]
    exact hadmits.once rule hrule
  · have hrel := rel_lookup hvalues inner.tag
    rw [hvalue, lookup_besides (hne _ List.mem_cons_self)] at hrel
    generalize entries.lookup inner.tag = listed at hrel
    cases hrel with
    | some hrel => exact ⟨value, hrel, hread⟩
  · have hrel := rel_lookup_known (forall₂_besides hvalues inner.tag) hname
    rwa [lookup_besides (hneInner name hname),
      lookup_besides (hne name (List.mem_cons_of_mem _ hname))] at hrel

/-- A tree that selects a choice whose content is tagged again is read up to the fields of the inner
choice if what is listed fits them. -/
theorem Tagging.Selects.exists_fields_nested {β : Type} {inner : Tagging β} {form : β}
    (hnodup : (tagging.tag :: inner.tag :: shape.names).Nodup) (hnode : node.Shows tree)
    (h : tagging.Selects room (inner.tag :: shape.names) choice tree entries)
    (hform : Written (MeansBy room inner.readTag) none (entries.lookup inner.tag) form)
    (hfits : ∀ rule ∈ shape.rules, rule.FitsAll (IsValueOf room) (entries.lookup rule.name)) :
    ∃ content rest found, tagging.split (room + 1) node = .ok (choice, content) ∧
      inner.splitContent content = .ok (form, rest) ∧ shape.contentFields rest = .ok found ∧
      ∀ name ∈ shape.names,
        Option.Rel (IsValueOf room) (found.lookup name) (entries.lookup name) := by
  obtain ⟨htag, hnodup⟩ := List.nodup_cons.mp hnodup
  obtain ⟨hinnerTag, hnodup⟩ := List.nodup_cons.mp hnodup
  obtain ⟨hsingle, honce⟩ := List.forall_mem_cons.mp h.record.once
  obtain ⟨content, values, hsplit, hlists, hvalues⟩ := exists_split_of_lists hnode htag
    h.record.lists (names_iff.mpr ⟨hsingle, h.choice⟩) h.values
  have hne : ∀ name ∈ inner.tag :: shape.names, name ≠ tagging.tag :=
    fun name hname heq => htag (heq ▸ hname)
  have hneInner : ∀ name ∈ shape.names, name ≠ inner.tag :=
    fun name hname heq => hinnerTag (heq ▸ hname)
  have hunder : ∃ value, under inner.tag values = [(inner.tag, value)] ∧
      inner.readTag value = .ok form := by
    have hrel := rel_lookup hvalues inner.tag
    rw [lookup_besides (hne _ List.mem_cons_self)] at hrel
    generalize entries.lookup inner.tag = listed at hform hrel
    generalize hlookup : values.lookup inner.tag = value? at hrel
    cases hrel with
    | none => cases hform
    | @some value _ hvalue =>
      refine ⟨value, under_eq_singleton_iff.mpr ⟨?_, hlookup⟩,
        (agrees_meansBy room inner.readTag _ _ hvalue form).mpr hform⟩
      rw [map_fst_eq_of_forall₂ hvalues, count_besides (hne _ List.mem_cons_self)]
      exact honce _ List.mem_cons_self
  obtain ⟨value, hunder, hread⟩ := hunder
  obtain ⟨rest, hinner, hrest⟩ := exists_splitContent_of_lists hinnerTag hlists hunder hread
  have hothers := forall₂_besides hvalues inner.tag
  have hadmits : shape.Admits (besides inner.tag values) := by
    refine Shape.admits_of_forall₂ hothers (fun name hname => ?_) fun rule hrule => ?_
    · rw [count_besides (hneInner name hname), count_besides (hne name (.tail _ hname))]
      exact honce name (.tail _ hname)
    · have hname : rule.name ∈ shape.names := List.mem_map_of_mem hrule
      rw [lookup_besides (hneInner _ hname), lookup_besides (hne _ (.tail _ hname))]
      exact hfits rule hrule
  refine ⟨content, rest, _, hsplit, hinner,
    (Shape.contentFields_eq_ok_iff hnodup).mpr ⟨_, hrest, hadmits, rfl⟩, fun name hname => ?_⟩
  have hrel := rel_lookup_known hothers hname
  rwa [lookup_besides (hneInner name hname), lookup_besides (hne name (.tail _ hname))] at hrel

end Content

end Tagging

end PersistenceLayer.Json
