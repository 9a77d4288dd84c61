import Mathlib.Data.List.Perm.Basic
import PersistenceLayer.Proofs.Presentation

/-!
# Changes of records

What a record lists for a field survives a change of its presentation, up to a
change inside of it, and up to a default in the place of nothing. A scalar does not
change at all, and neither does a choice that is written as an object.
-/

namespace PersistenceLayer

open Json

/-! ## Records -/

/-- How what is listed for a field may change. -/
inductive FieldChanges (place : Place) (default? : Option Tree) : Option Tree → Option Tree → Prop
  | same {listed : Option Tree} : FieldChanges place default? listed listed
  | change {tree changed : Tree} (h : Changes place tree changed) :
      FieldChanges place default? (some tree) (some changed)
  | default {tree : Tree} (h : default? = some tree) :
      FieldChanges place default? none (some tree)

/-- Where an entry of a changed record comes from. -/
inductive ComesFrom (place : Place) (fields : FieldTable) (entries : List (String × Tree)) :
    String × Tree → Prop
  | same {entry : String × Tree} (h : entry ∈ entries) : ComesFrom place fields entries entry
  | change {name : String} {tree changed : Tree} (h : (name, tree) ∈ entries)
      (hchange : Changes (place.member (some name)) tree changed) :
      ComesFrom place fields entries (name, changed)
  | surplus {name : String} {value : Tree} (h : IsSurplus place value) :
      ComesFrom place fields entries (name, value)
  | default {name : String} {value : Tree} (h : (name, some value) ∈ fields) :
      ComesFrom place fields entries (name, value)

/-- How the entries of a record may change. -/
structure EntriesChange (place : Place) (fields : FieldTable)
    (entries others : List (String × Tree)) : Prop where
  lookups : ∀ field ∈ fields, FieldChanges (place.member (some field.1)) field.2
    (entries.lookup field.1) (others.lookup field.1)
  origin : ∀ entry ∈ others, ComesFrom place fields entries entry

section Record

variable {place : Place} {fields : FieldTable} {tree changed : Tree}
  {entries others : List (String × Tree)}

/-- A field is named at its place. -/
theorem FieldTable.getElem?_names {index : Nat} {field : String × Option Tree}
    (h : fields[index]? = some field) : fields.names[index]? = some field.1 := by
  rw [FieldTable.names, List.getElem?_map, h]
  rfl

/-- What is at a place of a list is related to what is at the same place of a related one. -/
theorem exists_getElem?_of_forall₂ {α β : Type} {R : α → β → Prop} {firsts : List α}
    {seconds : List β} (h : List.Forall₂ R firsts seconds) {index : Nat} {first : α}
    (hfirst : firsts[index]? = some first) : ∃ second, seconds[index]? = some second ∧
      R first second := by
  induction h generalizing index with
  | nil => cases hfirst
  | cons hrel _ ih =>
    cases index with
    | zero =>
      cases hfirst
      exact ⟨_, rfl, hrel⟩
    | succ index => exact ih hfirst

/-- Keyed entries are taken apart where their members are. -/
theorem exists_of_append_eq_keyed {before after : List (Option String × Tree)}
    (h : before ++ after = keyed entries) :
    ∃ first last, entries = first ++ last ∧ before = keyed first ∧ after = keyed last := by
  obtain ⟨first, last, hentries, hbefore, hafter⟩ := List.map_eq_append_iff.mp h.symm
  exact ⟨first, last, hentries, hbefore.symm, hafter.symm⟩

/-- A keyed entry has its key as its name. -/
theorem exists_of_cons_eq_keyed {members : List (Option String × Tree)} {key : Option String}
    {value : Tree} (h : (key, value) :: members = keyed entries) :
    ∃ name last, entries = (name, value) :: last ∧ key = some name ∧ members = keyed last := by
  obtain ⟨entry, last, hentries, hentry, hlast⟩ := List.map_eq_cons_iff.mp h.symm
  obtain ⟨rfl, rfl⟩ := Prod.mk.inj hentry
  exact ⟨entry.1, last, hentries, rfl, hlast.symm⟩

/-- Keyed entries in another order are keyed. -/
theorem exists_of_keyed_perm {members : List (Option String × Tree)}
    (h : (keyed entries).Perm members) :
    ∃ others, members = keyed others ∧ entries.Perm others := by
  have hkeyed : List.Forall₂ (fun member entry => member = (some entry.1, entry.2))
      (keyed entries) entries := List.forall₂_map_left_iff.mpr (List.forall₂_refl _)
  obtain ⟨others, hothers, hperm⟩ := List.perm_comp_forall₂ h.symm hkeyed
  refine ⟨others, ?_, hperm.symm⟩
  rwa [← List.forall₂_map_right_iff, List.forall₂_eq_eq_eq] at hothers

@[simp] theorem keyed_append (first last : List (String × Tree)) :
    keyed (first ++ last) = keyed first ++ keyed last :=
  List.map_append

theorem mem_keyed_iff {name : String} : (some name, tree) ∈ keyed entries ↔
    (name, tree) ∈ entries := by
  simp [keyed]

theorem some_mem_map_fst_keyed_iff {name : String} :
    some name ∈ (keyed entries).map Prod.fst ↔ name ∈ entries.map Prod.fst := by
  simp [keyed]

/-- A field of a record is looked up as what is listed for it. -/
theorem lookup_eq_of_mem (hrecord : tree.IsRecord fields.names entries) {name : String}
    {value : Tree} (hname : name ∈ fields.names) (h : (name, value) ∈ entries) :
    entries.lookup name = some value :=
  (lookup_eq_some_iff_mem (hrecord.once name hname)).mpr h

/-- What is listed for a field after a change comes from what was listed before. -/
theorem FieldChanges.comesFrom {name : String} {default? : Option Tree} {value : Tree}
    (h : FieldChanges (place.member (some name)) default? (entries.lookup name) (some value))
    (hfield : (name, default?) ∈ fields) : ComesFrom place fields entries (name, value) := by
  have hmem {tree : Tree} (hlookup : entries.lookup name = some tree) : (name, tree) ∈ entries := by
    obtain ⟨before, after, rfl, -⟩ := List.lookup_eq_some_iff.mp hlookup
    exact List.mem_append_right _ List.mem_cons_self
  generalize hlisted : entries.lookup name = listed at h
  cases h with
  | same => exact .same (hmem hlisted)
  | change h => exact .change (hmem hlisted) h
  | default h => exact .default (h ▸ hfield)

/-- Items that stand for the fields one by one are a record. -/
theorem exists_entriesChange_of_items {items : List Tree} (hnodup : fields.names.Nodup)
    (hlong : items.length ≤ fields.length)
    (h : ∀ (index : Nat) (field : String × Option Tree), fields[index]? = some field →
      FieldChanges (place.member (some field.1)) field.2 (entries.lookup field.1) items[index]?) :
    ∃ others, (Tree.list items).IsRecord fields.names others ∧
      EntriesChange place fields entries others := by
  refine ⟨fields.names.zip items, ⟨.list (by simpa using hlong), fun name _ => ?_⟩, ?_, ?_⟩
  · exact Nat.le_trans ((map_fst_zip_sublist _ _).count_le _)
      (List.nodup_iff_count_le_one.mp hnodup name)
  · intro field hfield
    obtain ⟨index, hindex⟩ := List.mem_iff_getElem?.mp hfield
    rw [lookup_zip hnodup (FieldTable.getElem?_names hindex)]
    exact h index field hindex
  · rintro ⟨name, value⟩ hentry
    obtain ⟨index, hindex⟩ := List.mem_iff_getElem?.mp hentry
    obtain ⟨hname, hvalue⟩ := List.getElem?_zip_eq_some.mp hindex
    rw [FieldTable.names, List.getElem?_map] at hname
    obtain ⟨field, hfield, rfl⟩ := Option.map_eq_some_iff.mp hname
    have hchange := h index field hfield
    rw [show items[index]? = some value from hvalue] at hchange
    exact hchange.comesFrom (List.mem_of_getElem? hfield)

/-- An entry that is put into a record, under a key that is no field or for a field that is left
out, makes another record. -/
theorem exists_entriesChange_of_insert {before after : List (Option String × Tree)} {key : String}
    {value : Tree} (hrecord : (Tree.object (before ++ after)).IsRecord fields.names entries)
    (hkey : key ∈ fields.names → key ∉ entries.map Prod.fst)
    (hdefault : ∀ field ∈ fields, field.1 = key → field.2 = some value)
    (horigin : ComesFrom place fields entries (key, value)) :
    ∃ others, (Tree.object (before ++ (some key, value) :: after)).IsRecord fields.names others ∧
      EntriesChange place fields entries others := by
  obtain ⟨⟨hmembers⟩, honce⟩ := hrecord
  obtain ⟨first, last, rfl, rfl, rfl⟩ := exists_of_append_eq_keyed hmembers
  refine ⟨first ++ (key, value) :: last, ⟨.object (by simp), fun name hname => ?_⟩, ?_, ?_⟩
  · have hold := honce name hname
    by_cases hne : name = key
    · subst hne
      have hzero := List.count_eq_zero.mpr (hkey hname)
      simp only [List.map_append, List.map_cons, List.count_append, List.count_cons_self] at hzero ⊢
      omega
    · simpa [List.count_cons_of_ne (Ne.symm hne)] using hold
  · intro field hfield
    by_cases hne : field.1 = key
    · subst hne
      have hfree := hkey (List.mem_map_of_mem hfield)
      rw [lookup_eq_none_iff_notMem.mpr hfree]
      have hbefore : first.lookup field.1 = none := by
        refine lookup_eq_none_iff_notMem.mpr fun hmem => hfree ?_
        rw [List.map_append]
        exact List.mem_append_left _ hmem
      rw [List.lookup_append, hbefore, Option.none_or, List.lookup_cons_self]
      exact .default (hdefault field hfield rfl)
    · rw [lookup_append_cons_of_ne hne]
      exact .same
  · intro entry hentry
    rw [List.mem_append, List.mem_cons] at hentry
    obtain hentry | rfl | hentry := hentry
    · exact .same (List.mem_append_left _ hentry)
    · exact horigin
    · exact .same (List.mem_append_right _ hentry)

/-- An entry that is changed makes another record. -/
theorem exists_entriesChange_of_member {before after : List (Option String × Tree)}
    {key : Option String} {value other : Tree}
    (hrecord : (Tree.object (before ++ (key, value) :: after)).IsRecord fields.names entries)
    (h : Changes (place.member key) value other) :
    ∃ others, (Tree.object (before ++ (key, other) :: after)).IsRecord fields.names others ∧
      EntriesChange place fields entries others := by
  obtain ⟨⟨hmembers⟩, honce⟩ := hrecord
  obtain ⟨first, rest, rfl, rfl, hrest⟩ := exists_of_append_eq_keyed hmembers
  obtain ⟨name, last, rfl, rfl, rfl⟩ := exists_of_cons_eq_keyed hrest
  have honceOther : ∀ field ∈ fields.names,
      ((first ++ (name, other) :: last).map Prod.fst).count field ≤ 1 := by
    intro field hfield
    have hold := honce field hfield
    rwa [List.map_append, List.map_cons] at hold ⊢
  refine ⟨first ++ (name, other) :: last, ⟨.object (by simp), honceOther⟩, ?_, ?_⟩
  · intro field hfield
    have hmem : field.1 ∈ fields.names := List.mem_map_of_mem hfield
    by_cases hne : field.1 = name
    · subst hne
      have hold : (first ++ (field.1, value) :: last).lookup field.1 = some value :=
        (lookup_eq_some_iff_mem (honce _ hmem)).mpr (by simp)
      have hnew : (first ++ (field.1, other) :: last).lookup field.1 = some other :=
        (lookup_eq_some_iff_mem (honceOther _ hmem)).mpr (by simp)
      rw [hold, hnew]
      exact .change h
    · rw [lookup_append_cons_of_ne hne, lookup_append_cons_of_ne hne]
      exact .same
  · intro entry hentry
    rw [List.mem_append, List.mem_cons] at hentry
    obtain hentry | rfl | hentry := hentry
    · exact .same (List.mem_append_left _ hentry)
    · exact .change (List.mem_append_right _ List.mem_cons_self) h
    · exact .same (List.mem_append_right _ (List.mem_cons_of_mem _ hentry))

/-- Entries in another order make another record. -/
theorem exists_entriesChange_of_perm {members others : List (Option String × Tree)}
    (hrecord : (Tree.object members).IsRecord fields.names entries) (hperm : members.Perm others) :
    ∃ others', (Tree.object others).IsRecord fields.names others' ∧
      EntriesChange place fields entries others' := by
  obtain ⟨⟨rfl⟩, honce⟩ := hrecord
  obtain ⟨reordered, rfl, hreordered⟩ := exists_of_keyed_perm hperm
  refine ⟨reordered, ⟨.object rfl, fun name hname => ?_⟩, ?_, ?_⟩
  · rw [← (hreordered.map Prod.fst).count_eq]
    exact honce name hname
  · intro field hfield
    rw [← lookup_eq_of_perm hreordered (honce _ (List.mem_map_of_mem hfield))]
    exact .same
  · exact fun entry hentry => .same (hreordered.mem_iff.mpr hentry)

/-- An unused key that is added to a record makes another record. -/
theorem exists_entriesChange_of_surplus {before after : List (Option String × Tree)} {key : String}
    {value : Tree} (hrecord : (Tree.object (before ++ after)).IsRecord fields.names entries)
    (hkey : key ∉ fields.names) (hvalue : IsSurplus place value) :
    ∃ others, (Tree.object (before ++ (some key, value) :: after)).IsRecord fields.names others ∧
      EntriesChange place fields entries others := by
  refine exists_entriesChange_of_insert hrecord (fun hname => absurd hname hkey) ?_
    (.surplus hvalue)
  rintro field hfield rfl
  exact absurd (List.mem_map_of_mem hfield) hkey

/-- A default that is written out makes another record. -/
theorem exists_entriesChange_of_default {before after : List (Option String × Tree)} {name : String}
    {value : Tree} (hnodup : fields.names.Nodup)
    (hrecord : (Tree.object (before ++ after)).IsRecord fields.names entries)
    (hfield : (name, some value) ∈ fields)
    (habsent : some name ∉ (before ++ after).map Prod.fst) :
    ∃ others, (Tree.object (before ++ (some name, value) :: after)).IsRecord fields.names others ∧
      EntriesChange place fields entries others := by
  refine exists_entriesChange_of_insert hrecord (fun _ hname => ?_) ?_ (.default hfield)
  · obtain ⟨⟨hmembers⟩, -⟩ := hrecord
    rw [hmembers, some_mem_map_fst_keyed_iff] at habsent
    exact habsent hname
  · rintro field hfield' rfl
    rw [List.inj_on_of_nodup_map hnodup hfield' hfield rfl]

/-- An item of a list that is changed makes another record. -/
theorem exists_entriesChange_of_item {before after : List Tree} {item other : Tree}
    (hnodup : fields.names.Nodup)
    (hplaces : ∀ index, place.item index = place.member fields.names[index]?)
    (hrecord : (Tree.list (before ++ item :: after)).IsRecord fields.names entries)
    (h : Changes (place.item before.length) item other) :
    ∃ others, (Tree.list (before ++ other :: after)).IsRecord fields.names others ∧
      EntriesChange place fields entries others := by
  cases hrecord.lists with
  | list hlong =>
    refine exists_entriesChange_of_items hnodup (by simpa using hlong)
      fun index field hfield => ?_
    rw [lookup_zip hnodup (FieldTable.getElem?_names hfield)]
    rcases Nat.lt_trichotomy index before.length with hlt | rfl | hgt
    · rw [List.getElem?_append_left hlt, List.getElem?_append_left hlt]
      exact .same
    · rw [hplaces, FieldTable.getElem?_names hfield] at h
      simpa using FieldChanges.change h
    · have hge : before.length ≤ index := Nat.le_of_lt hgt
      rw [List.getElem?_append_right hge, List.getElem?_append_right hge, List.getElem?_cons,
        List.getElem?_cons, if_neg (by omega), if_neg (by omega)]
      exact .same

/-- A default that is written out behind the items of a list makes another record. -/
theorem exists_entriesChange_of_defaultItem {items : List Tree} {name : String} {value : Tree}
    (hnodup : fields.names.Nodup) (hrecord : (Tree.list items).IsRecord fields.names entries)
    (hfield : fields[items.length]? = some (name, some value)) :
    ∃ others, (Tree.list (items ++ [value])).IsRecord fields.names others ∧
      EntriesChange place fields entries others := by
  have hshort : items.length < fields.length := (List.getElem?_eq_some_iff.mp hfield).1
  have hlong : (items ++ [value]).length ≤ fields.length := by
    rw [List.length_append]
    exact hshort
  cases hrecord.lists with
  | list =>
    refine exists_entriesChange_of_items hnodup hlong fun index other hother => ?_
    rw [lookup_zip hnodup (FieldTable.getElem?_names hother)]
    rcases Nat.lt_trichotomy index items.length with hlt | rfl | hgt
    · rw [List.getElem?_append_left hlt]
      exact .same
    · obtain rfl := Option.some_inj.mp (hother.symm.trans hfield)
      simpa using FieldChanges.default rfl
    · have hend : (items ++ [value]).length ≤ index := by
        rw [List.length_append]
        exact hgt
      rw [List.getElem?_eq_none (Nat.le_of_lt hgt), List.getElem?_eq_none hend]
      exact .same

/-- The list of the values of all fields is another record. -/
theorem exists_entriesChange_of_toList {members : List (Option String × Tree)} {items : List Tree}
    (hnodup : fields.names.Nodup) (hrecord : (Tree.object members).IsRecord fields.names entries)
    (hitems : List.Forall₂ (IsFieldValue members) fields items) :
    ∃ others, (Tree.list items).IsRecord fields.names others ∧
      EntriesChange place fields entries others := by
  obtain rfl : members = keyed entries := by
    obtain ⟨⟨hmembers⟩, -⟩ := hrecord
    exact hmembers
  have hlong : items.length ≤ fields.length := Nat.le_of_eq hitems.length_eq.symm
  refine exists_entriesChange_of_items hnodup hlong fun index field hfield => ?_
  obtain ⟨item, hitem, hvalue⟩ := exists_getElem?_of_forall₂ hitems hfield
  have hname : field.1 ∈ fields.names := List.mem_map_of_mem (List.mem_of_getElem? hfield)
  rw [hitem]
  cases hvalue with
  | member h =>
    rw [lookup_eq_of_mem hrecord hname (mem_keyed_iff.mp h)]
    exact .same
  | default h =>
    rw [some_mem_map_fst_keyed_iff] at h
    rw [lookup_eq_none_iff_notMem.mpr h]
    exact .default rfl

/-- A changed record lists the same for its fields, up to a change inside of it and up to
defaults. -/
theorem Changes.exists_entriesChange (h : Changes place tree changed) (hnodup : fields.names.Nodup)
    (huses : ∀ other, Uses place tree other → other = fields)
    (hplaces : ∀ index, place.item index = place.member fields.names[index]?)
    (hrecord : tree.IsRecord fields.names entries) :
    ∃ others, changed.IsRecord fields.names others ∧
      EntriesChange place fields entries others := by
  cases h with
  | item h => exact exists_entriesChange_of_item hnodup hplaces hrecord h
  | member h => exact exists_entriesChange_of_member hrecord h
  | reorder hperm => exact exists_entriesChange_of_perm hrecord hperm
  | surplus hfields hkey hvalue =>
    obtain rfl := huses _ hfields
    exact exists_entriesChange_of_surplus hrecord hkey hvalue
  | default hfields hfield habsent =>
    obtain rfl := huses _ hfields
    exact exists_entriesChange_of_default hnodup hrecord hfield habsent
  | defaultItem hfields hfield =>
    obtain rfl := huses _ hfields
    exact exists_entriesChange_of_defaultItem hnodup hrecord hfield
  | toList _ hfields hitems =>
    obtain rfl := huses _ hfields
    exact exists_entriesChange_of_toList hnodup hrecord hitems

end Record

/-! ## What does not change -/

/-- Trees whose objects have no more than one member: nothing in them can be presented in another
way. -/
inductive Json.Tree.IsRigid : Tree → Prop
  | null : Json.Tree.IsRigid .null
  | boolean {value : Bool} : Json.Tree.IsRigid (.boolean value)
  | number {literal : NumberLiteral} : Json.Tree.IsRigid (.number literal)
  | text {content : Option String} : Json.Tree.IsRigid (.text content)
  | list {items : List Tree} (h : ∀ item ∈ items, Json.Tree.IsRigid item) :
      Json.Tree.IsRigid (.list items)
  | object {members : List (Option String × Tree)} (hshort : members.length ≤ 1)
      (h : ∀ member ∈ members, Json.Tree.IsRigid member.2) : Json.Tree.IsRigid (.object members)

/-- A rigid tree that is no part of a record's structure stays as it is. -/
theorem Changes.eq_of_isRigid {tree changed : Tree} (h : Changes .other tree changed)
    (hrigid : tree.IsRigid) : changed = tree := by
  generalize hplace : Place.other = place at h
  induction h with
  | item h ih =>
    subst hplace
    cases hrigid with
    | list hitems => rw [ih (hitems _ (by simp)) rfl]
  | @member _ _ _ key value _ h ih =>
    subst hplace
    cases hrigid with
    | object hshort hmembers => rw [ih (hmembers (key, value) (by simp)) rfl]
  | @reorder _ members others hperm =>
    cases hrigid with
    | object hshort =>
      match members, hshort with
      | [], _ => rw [hperm.nil_eq]
      | [single], _ => rw [List.singleton_perm.mp hperm]
  | surplus huses | default huses | defaultItem huses | toList _ huses =>
    subst hplace
    cases huses

/-- A tree that is no part of a record's structure keeps having a value. -/
theorem Changes.isSome_value? {tree changed : Tree} (h : Changes .other tree changed) {room : Nat}
    (hvalue : (tree.value? room).isSome) : (changed.value? room).isSome := by
  generalize hplace : Place.other = place at h
  induction h generalizing room with
  | item h ih =>
    subst hplace
    cases room with
    | zero => cases hvalue
    | succ room =>
      rw [Tree.value?, Option.isSome_map, isSome_itemValues?_iff] at hvalue ⊢
      simp only [List.forall_mem_append, List.forall_mem_cons] at hvalue ⊢
      exact ⟨hvalue.1, ih hvalue.2.1 rfl, hvalue.2.2⟩
  | member h ih =>
    subst hplace
    cases room with
    | zero => cases hvalue
    | succ room =>
      rw [Tree.value?, Option.isSome_map, isSome_memberValues?_iff] at hvalue ⊢
      simp only [List.forall_mem_append, List.forall_mem_cons] at hvalue ⊢
      exact ⟨hvalue.1, ⟨hvalue.2.1.1, ih hvalue.2.1.2 rfl⟩, hvalue.2.2⟩
  | reorder hperm =>
    cases room with
    | zero => cases hvalue
    | succ room =>
      rw [Tree.value?, Option.isSome_map, isSome_memberValues?_iff] at hvalue ⊢
      exact fun member hmember => hvalue member (hperm.mem_iff.mpr hmember)
  | surplus huses | default huses | defaultItem huses | toList _ huses =>
    subst hplace
    cases huses

end PersistenceLayer
