import Mathlib.Data.List.Forall2
import Mathlib.Data.List.Nodup
import PersistenceLayer.Json.Tagged
import PersistenceLayer.Proofs.JsonTrees

/-!
# What records list

A record is read from what it lists under the names of its fields, whether it is
written as an object or as a list, and wherever a field stands in it. Reading
succeeds if no field is listed twice, every required one is listed, and what is
listed for a field fits it; everything else that an object lists is passed over.
-/

namespace PersistenceLayer.Json

/-! ## Look-ups -/

section Lookup

variable {β γ : Type} {listed others : List (String × β)} {name : String} {value : β}

/-- A name that is listed at most once is looked up as what is listed for it. -/
theorem lookup_eq_some_iff_mem (h : (listed.map Prod.fst).count name ≤ 1) :
    listed.lookup name = some value ↔ (name, value) ∈ listed := by
  induction listed with
  | nil => simp
  | cons first listed ih =>
    obtain ⟨other, content⟩ := first
    rw [List.map_cons, List.count_cons] at h
    by_cases hname : name = other
    · subst hname
      have hfree : name ∉ listed.map Prod.fst := by
        rw [← List.count_eq_zero]
        simp only [beq_self_eq_true, if_true] at h
        omega
      have hother : (name, value) ∉ listed := fun hmem => hfree (List.mem_map_of_mem hmem)
      simp [hother, eq_comm]
    · rw [List.lookup_cons, beq_eq_false_iff_ne.mpr hname, List.mem_cons, ih (by omega)]
      simp [hname]

/-- A name that is not listed is not found. -/
theorem lookup_eq_none_iff_notMem : listed.lookup name = none ↔ name ∉ listed.map Prod.fst := by
  simp only [List.lookup_eq_none_iff, bne_iff_ne, List.mem_map, not_exists, not_and]
  exact forall₂_congr fun _ _ => ne_comm

/-- A look-up does not depend on the order. -/
theorem lookup_eq_of_perm (hperm : listed.Perm others)
    (h : (listed.map Prod.fst).count name ≤ 1) : listed.lookup name = others.lookup name := by
  refine Option.ext fun value => ?_
  rw [lookup_eq_some_iff_mem h, hperm.mem_iff, lookup_eq_some_iff_mem]
  rwa [← (hperm.map Prod.fst).count_eq]

/-- What is listed elsewhere does not matter for a name. -/
theorem lookup_append_cons_of_ne {before after : List (String × β)} {other : String}
    (h : name ≠ other) :
    (before ++ (other, value) :: after).lookup name = (before ++ after).lookup name := by
  rw [List.lookup_append, List.lookup_append, List.lookup_cons, beq_eq_false_iff_ne.mpr h]

/-- A look-up is kept where only others are left out. -/
theorem lookup_filter (keep : String → Bool) (h : keep name = true) :
    (listed.filter fun entry => keep entry.1).lookup name = listed.lookup name := by
  induction listed with
  | nil => rfl
  | cons first listed ih =>
    obtain ⟨other, content⟩ := first
    by_cases hname : name = other
    · subst hname
      simp [h]
    · rw [List.lookup_cons, beq_eq_false_iff_ne.mpr hname, List.filter_cons]
      split
      · rw [List.lookup_cons, beq_eq_false_iff_ne.mpr hname, ih]
      · exact ih

/-- In a list that is matched with distinct names, a name stands for what is at its place. -/
theorem lookup_zip {names : List String} {values : List β} (hnodup : names.Nodup) {index : Nat}
    (hname : names[index]? = some name) : (names.zip values).lookup name = values[index]? := by
  induction names generalizing values index with
  | nil => cases hname
  | cons other names ih =>
    obtain ⟨hother, hnodup⟩ := List.nodup_cons.mp hnodup
    cases values with
    | nil => rfl
    | cons value values =>
      cases index with
      | zero =>
        cases hname
        simp
      | succ index =>
        have hne : name ≠ other := by
          rintro rfl
          exact hother (List.mem_of_getElem? hname)
        rw [List.zip_cons_cons, List.lookup_cons, beq_eq_false_iff_ne.mpr hne]
        exact ih hnodup hname

/-- No names are listed but those that a list is matched with. -/
theorem map_fst_zip_sublist (names : List String) (values : List β) :
    ((names.zip values).map Prod.fst).Sublist names := by
  induction names generalizing values with
  | nil => exact .slnil
  | cons name names ih =>
    cases values with
    | nil => exact List.nil_sublist _
    | cons value values => exact (ih values).cons_cons name

/-- Whether the same is listed under the same name. -/
def EntryIs (R : β → γ → Prop) (first : String × β) (second : String × γ) : Prop :=
  first.1 = second.1 ∧ R first.2 second.2

/-- Related entries are looked up as related values. -/
theorem rel_lookup {R : β → γ → Prop} {related : List (String × γ)}
    (h : List.Forall₂ (EntryIs R) listed related) (name : String) :
    Option.Rel R (listed.lookup name) (related.lookup name) := by
  induction h with
  | nil => exact .none
  | @cons first second listed related hentry _ ih =>
    obtain ⟨key, value⟩ := first
    obtain ⟨other, twin⟩ := second
    obtain ⟨rfl, hvalue⟩ : key = other ∧ R value twin := hentry
    by_cases hname : name = key
    · subst hname
      rw [List.lookup_cons_self, List.lookup_cons_self]
      exact .some hvalue
    · rw [List.lookup_cons, List.lookup_cons, beq_eq_false_iff_ne.mpr hname]
      exact ih

/-- Related entries have the same names. -/
theorem map_fst_eq_of_forall₂ {R : β → γ → Prop} {related : List (String × γ)}
    (h : List.Forall₂ (EntryIs R) listed related) :
    listed.map Prod.fst = related.map Prod.fst := by
  induction h with
  | nil => rfl
  | cons hentry _ ih => rw [List.map_cons, List.map_cons, hentry.1, ih]

end Lookup

/-! ## What a record needs -/

section Shape

variable {ν : Type} {shape : Shape ν} {rule : Rule ν} {name : String} {content : ν}
  {found contents result : List (String × ν)}

/-- The names of the fields of a record, in the order of declaration. -/
def Shape.names (shape : Shape ν) : List String :=
  shape.rules.map Rule.name

/-- Whether what is listed for a field, if anything is, fits it. -/
def Rule.Fits (rule : Rule ν) : Option ν → Prop
  | some content => rule.check content = .ok ()
  | none => rule.isRequired = false

/-- Whether what is listed makes a record: nothing is listed twice, and all of it fits. -/
structure Shape.Admits (shape : Shape ν) (contents : List (String × ν)) : Prop where
  once : ∀ rule ∈ shape.rules, (contents.map Prod.fst).count rule.name ≤ 1
  fits : ∀ rule ∈ shape.rules, rule.Fits (contents.lookup rule.name)

/-- What is listed under the names of fields. -/
def Shape.known (shape : Shape ν) (contents : List (String × ν)) : FoundFields ν :=
  contents.filter fun entry => (shape.rule? entry.1).isSome

/-- A rule is found by its name alone. -/
theorem Shape.rule?_eq_some_iff (hnodup : shape.names.Nodup) :
    shape.rule? name = some rule ↔ rule ∈ shape.rules ∧ rule.name = name := by
  rw [Shape.rule?]
  rw [Shape.names] at hnodup
  generalize shape.rules = rules at hnodup ⊢
  induction rules with
  | nil => simp
  | cons first rules ih =>
    obtain ⟨hfirst, hnodup⟩ := List.nodup_cons.mp hnodup
    by_cases hname : first.name = name
    · rw [List.find?_cons_of_pos (by simpa using hname), Option.some_inj, List.mem_cons]
      refine ⟨fun heq => ⟨.inl heq.symm, heq ▸ hname⟩, fun ⟨hmem, heq⟩ => ?_⟩
      rcases hmem with rfl | hmem
      · rfl
      · exact absurd (List.mem_map_of_mem hmem) (heq.trans hname.symm ▸ hfirst)
    · rw [List.find?_cons_of_neg (by simpa using hname), ih hnodup, List.mem_cons]
      refine and_congr_left fun heq => ⟨.inr, fun hmem => hmem.resolve_left ?_⟩
      rintro rfl
      exact hname heq

/-- There is a rule for each name of a field. -/
theorem Shape.isSome_rule?_iff : (shape.rule? name).isSome ↔ name ∈ shape.names := by
  simp [Shape.rule?, Shape.names, List.find?_isSome]

/-- What is listed for a field is kept. -/
theorem Shape.lookup_known (hname : name ∈ shape.names) :
    (shape.known contents).lookup name = contents.lookup name :=
  lookup_filter (fun name => (shape.rule? name).isSome) (isSome_rule?_iff.mpr hname)

/-- No required field is missing from what makes a record. -/
theorem Shape.missing?_eq_none_iff : shape.missing? found = none ↔
    ∀ rule ∈ shape.rules, found.lookup rule.name = none → rule.isRequired = false := by
  rw [Shape.missing?, Option.map_eq_none_iff, List.find?_eq_none]
  refine forall₂_congr fun rule _ => ?_
  cases found.lookup rule.name <;> simp

/-- Whether entries are checked, one after the other, and those that are fields are put behind the
ones found before them. -/
def Shape.Collects (shape : Shape ν) (found : FoundFields ν) :
    List (String × ν) → FoundFields ν → Prop
  | [], result => found = result
  | (name, content) :: contents, result =>
    match shape.rule? name with
    | none => shape.Collects found contents result
    | some rule =>
      found.lookup name = none ∧ rule.check content = .ok () ∧
        shape.Collects (found ++ [(name, content)]) contents result

/-- Whether a field comes at most once, and what is listed for it behind the fields found before
fits. -/
def Rule.Suits (rule : Rule ν) (found contents : List (String × ν)) : Prop :=
  (found.map Prod.fst).count rule.name + (contents.map Prod.fst).count rule.name ≤ 1 ∧
    ∀ content, (rule.name, content) ∈ contents → rule.check content = .ok ()

/-- What is listed under another name does not matter for a field. -/
theorem Rule.suits_cons_of_ne (h : rule.name ≠ name) :
    rule.Suits found ((name, content) :: contents) ↔ rule.Suits found contents := by
  simp [Suits, h, h.symm]

/-- What was found under another name does not matter for a field. -/
theorem Rule.suits_append_of_ne (h : rule.name ≠ name) :
    rule.Suits (found ++ [(name, content)]) contents ↔ rule.Suits found contents := by
  simp [Suits, h.symm]

/-- A field that is listed must not have been found before. -/
theorem Rule.suits_cons_self : rule.Suits found ((rule.name, content) :: contents) ↔
    found.lookup rule.name = none ∧ rule.check content = .ok () ∧
      rule.Suits (found ++ [(rule.name, content)]) contents := by
  have hfresh : found.lookup rule.name = none ↔ (found.map Prod.fst).count rule.name = 0 := by
    rw [lookup_eq_none_iff_notMem, List.count_eq_zero]
  simp only [Suits, hfresh, List.map_cons, List.map_append, List.map_nil, List.count_cons_self,
    List.count_append, List.count_nil, List.mem_cons, Prod.mk.injEq, true_and, forall_eq_or_imp]
  constructor
  · rintro ⟨hcount, hcheck, hchecks⟩
    exact ⟨by omega, hcheck, by omega, hchecks⟩
  · rintro ⟨hzero, hcheck, hcount, hchecks⟩
    exact ⟨by omega, hcheck, hchecks⟩

/-- What is listed under a name without a rule is left out. -/
theorem Shape.known_cons_of_none (hname : shape.rule? name = none) :
    shape.known ((name, content) :: contents) = shape.known contents := by
  simp [known, hname]

/-- An entry under the name of a field is kept. -/
theorem Shape.known_cons_of_some (hname : shape.rule? name = some rule) :
    shape.known ((name, content) :: contents) = (name, content) :: shape.known contents := by
  simp [known, hname]

/-- An entry under a name without a rule suits all fields. -/
theorem Shape.forall_suits_cons_of_none (hnodup : shape.names.Nodup)
    (hname : shape.rule? name = none) :
    (∀ rule ∈ shape.rules, rule.Suits found ((name, content) :: contents)) ↔
      ∀ rule ∈ shape.rules, rule.Suits found contents := by
  refine forall₂_congr fun rule hrule => Rule.suits_cons_of_ne ?_
  rintro rfl
  rw [(rule?_eq_some_iff hnodup).mpr ⟨hrule, rfl⟩] at hname
  cases hname

/-- An entry for a field suits all fields if it is new and fits, and those behind it suit them. -/
theorem Shape.forall_suits_cons_of_some (hnodup : shape.names.Nodup)
    (hname : shape.rule? name = some rule) :
    (∀ other ∈ shape.rules, other.Suits found ((name, content) :: contents)) ↔
      found.lookup name = none ∧ rule.check content = .ok () ∧
        ∀ other ∈ shape.rules, other.Suits (found ++ [(name, content)]) contents := by
  obtain ⟨hrule, rfl⟩ := (rule?_eq_some_iff hnodup).mp hname
  have heq : ∀ other ∈ shape.rules, other.name = rule.name → other = rule := by
    intro other hother heq
    have hsome := (rule?_eq_some_iff hnodup).mpr ⟨hother, heq⟩
    exact Option.some_inj.mp (hsome.symm.trans hname)
  have hothers (other : Rule ν) (hne : other.name ≠ rule.name) :
      other.Suits found ((rule.name, content) :: contents) ↔
        other.Suits (found ++ [(rule.name, content)]) contents := by
    rw [Rule.suits_cons_of_ne hne, Rule.suits_append_of_ne hne]
  constructor
  · intro hsuits
    obtain ⟨hlookup, hcheck, hrest⟩ := Rule.suits_cons_self.mp (hsuits rule hrule)
    refine ⟨hlookup, hcheck, fun other hother => ?_⟩
    by_cases hne : other.name = rule.name
    · exact heq other hother hne ▸ hrest
    · exact (hothers other hne).mp (hsuits other hother)
  · rintro ⟨hlookup, hcheck, hsuits⟩ other hother
    by_cases hne : other.name = rule.name
    · obtain rfl := heq other hother hne
      exact Rule.suits_cons_self.mpr ⟨hlookup, hcheck, hsuits _ hother⟩
    · exact (hothers other hne).mpr (hsuits other hother)

/-- No name is listed twice after an entry under a new name. -/
theorem count_append_le_one {other : String} (hnew : found.lookup name = none)
    (hfound : (found.map Prod.fst).count other ≤ 1) :
    ((found ++ [(name, content)]).map Prod.fst).count other ≤ 1 := by
  by_cases hne : name = other
  · have hzero := List.count_eq_zero.mpr (lookup_eq_none_iff_notMem.mp hnew)
    simp [← hne, hzero]
  · simpa [hne] using hfound

/-- Entries are collected if no field comes twice and all of them fit. -/
theorem Shape.collects_iff (hnodup : shape.names.Nodup)
    (hfound : ∀ rule ∈ shape.rules, (found.map Prod.fst).count rule.name ≤ 1) :
    shape.Collects found contents result ↔
      result = found ++ shape.known contents ∧ ∀ rule ∈ shape.rules, rule.Suits found contents := by
  induction contents generalizing found with
  | nil =>
    have hsuits : ∀ rule ∈ shape.rules, rule.Suits found [] :=
      fun rule hrule => ⟨hfound rule hrule, nofun⟩
    rw [Collects, known, List.filter_nil, List.append_nil, eq_comm]
    exact (and_iff_left hsuits).symm
  | cons entry contents ih =>
    obtain ⟨name, content⟩ := entry
    rw [Collects]
    split
    · next hname =>
      rw [known_cons_of_none hname, forall_suits_cons_of_none hnodup hname, ih hfound]
    · next rule hname =>
      rw [known_cons_of_some hname, forall_suits_cons_of_some hnodup hname,
        List.append_cons found _ (shape.known contents)]
      constructor
      · rintro ⟨hnew, hcheck, h⟩
        obtain ⟨hresult, hsuits⟩ :=
          (ih fun other hother => count_append_le_one hnew (hfound other hother)).mp h
        exact ⟨hresult, hnew, hcheck, hsuits⟩
      · rintro ⟨hresult, hnew, hcheck, hsuits⟩
        exact ⟨hnew, hcheck, (ih fun other hother =>
          count_append_le_one hnew (hfound other hother)).mpr ⟨hresult, hsuits⟩⟩

/-- Entries are collected from the start if they make a record, up to required fields. -/
theorem Shape.collects_nil_iff (hnodup : shape.names.Nodup) :
    (shape.Collects [] contents found ∧ shape.missing? found = none) ↔
      found = shape.known contents ∧ shape.Admits contents := by
  have hlookup : ∀ rule ∈ shape.rules,
      (shape.known contents).lookup rule.name = contents.lookup rule.name :=
    fun rule hrule => lookup_known (List.mem_map_of_mem hrule)
  have hnil : ∀ rule ∈ shape.rules,
      (([] : FoundFields ν).map Prod.fst).count rule.name ≤ 1 := fun _ _ => Nat.zero_le 1
  rw [collects_iff hnodup hnil, List.nil_append, and_assoc]
  refine and_congr_right fun hfound => ?_
  rw [hfound, missing?_eq_none_iff]
  constructor
  · rintro ⟨hsuits, hmissing⟩
    refine ⟨fun rule hrule => by simpa using (hsuits rule hrule).1, fun rule hrule => ?_⟩
    have hcount : (contents.map Prod.fst).count rule.name ≤ 1 := by
      simpa using (hsuits rule hrule).1
    cases hcontent : contents.lookup rule.name with
    | none => exact hmissing rule hrule ((hlookup rule hrule).trans hcontent)
    | some content =>
      exact (hsuits rule hrule).2 content ((lookup_eq_some_iff_mem hcount).mp hcontent)
  · rintro ⟨honce, hfits⟩
    refine ⟨fun rule hrule => ⟨by simpa using honce rule hrule, fun content hmem => ?_⟩, ?_⟩
    · have hcontent := (lookup_eq_some_iff_mem (honce rule hrule)).mpr hmem
      have hfit := hfits rule hrule
      rwa [hcontent] at hfit
    · intro rule hrule hnone
      have hfit := hfits rule hrule
      rwa [← hlookup rule hrule, hnone] at hfit

/-- A list is not too short for a record if only fields with defaults are left out. -/
theorem Shape.shortfall?_eq_none_iff {count : Nat} :
    shape.shortfall? count = none ↔ ∀ (index : Nat) (rule : Rule ν),
      shape.rules[index]? = some rule → count ≤ index → rule.isRequired = false := by
  simp only [shortfall?, Option.map_eq_none_iff, List.find?_eq_none, Prod.forall,
    List.mem_zipIdx_iff_getElem?, Bool.and_eq_true, decide_eq_true_eq, not_and, Bool.not_eq_true]
  exact forall_comm

/-- Each item fits the field at its place, and only fields with defaults have none, if the items
pass their checks and are not too few. -/
theorem Shape.forall_fits_iff {items : List ν} :
    (∀ (index : Nat) (rule : Rule ν), shape.rules[index]? = some rule → rule.Fits items[index]?) ↔
      (∀ (index : Nat) (rule : Rule ν) (item : ν), shape.rules[index]? = some rule →
        items[index]? = some item → rule.check item = .ok ()) ∧
      shape.shortfall? items.length = none := by
  rw [shortfall?_eq_none_iff]
  constructor
  · intro h
    refine ⟨fun index rule item hrule hitem => ?_, fun index rule hrule hshort => ?_⟩
    · have hfit := h index rule hrule
      rwa [hitem] at hfit
    · have hfit := h index rule hrule
      rwa [List.getElem?_eq_none hshort] at hfit
  · rintro ⟨hchecks, hshort⟩ index rule hrule
    cases hitem : items[index]? with
    | none => exact hshort index rule hrule (List.getElem?_eq_none_iff.mp hitem)
    | some item => exact hchecks index rule item hrule hitem

/-- Items make a record if they pass the checks of the fields at their places and are not too
few. -/
theorem Shape.admits_zip_iff (hnodup : shape.names.Nodup) {items : List ν} :
    shape.Admits (shape.names.zip items) ↔
      (∀ (index : Nat) (rule : Rule ν) (item : ν), shape.rules[index]? = some rule →
        items[index]? = some item → rule.check item = .ok ()) ∧
      shape.shortfall? items.length = none := by
  have hlookup : ∀ (index : Nat) (rule : Rule ν), shape.rules[index]? = some rule →
      (shape.names.zip items).lookup rule.name = items[index]? := by
    intro index rule hrule
    exact lookup_zip hnodup (by rw [names, List.getElem?_map, hrule]; rfl)
  rw [← forall_fits_iff]
  constructor
  · intro h index rule hrule
    rw [← hlookup index rule hrule]
    exact h.fits rule (List.mem_of_getElem? hrule)
  · intro h
    refine ⟨fun rule _ => ?_, fun rule hrule => ?_⟩
    · exact Nat.le_trans ((map_fst_zip_sublist _ _).count_le _)
        (List.nodup_iff_count_le_one.mp hnodup rule.name)
    · obtain ⟨index, hindex⟩ := List.mem_iff_getElem?.mp hrule
      rw [hlookup index rule hindex]
      exact h index rule hindex

/-- Everything that is listed in the order of the fields is listed under their names. -/
theorem Shape.known_zip {items : List ν} :
    shape.known (shape.names.zip items) = shape.names.zip items := by
  refine List.filter_eq_self.mpr fun entry hentry => isSome_rule?_iff.mpr ?_
  exact (map_fst_zip_sublist _ _).subset (List.mem_map_of_mem hentry)

end Shape

/-! ## Records in a document -/

/-- Whether a member has a name and a value. -/
def Member.Is (member : Member Node) (entry : String × Node) : Prop :=
  member.key.value = .ok entry.1 ∧ member.value = entry.2

/-- What a closed node lists: an object its members, a list its items under the given names. -/
inductive Node.Lists (names : List String) : Node → List (String × Node) → Prop
  | object {start stop : Position} {members : List (Member Node)}
      {contents : List (String × Node)} (h : List.Forall₂ Member.Is members contents) :
      Node.Lists names (.object start members (.closed stop)) contents
  | list {start stop : Position} {items : List (Item Node)} (h : items.length ≤ names.length) :
      Node.Lists names (.list start items (.closed stop)) (names.zip (items.map Item.value))

section Node

variable {shape : Shape Node} {node : Node} {found result : FoundFields Node}

/-- Only a closed list passes the check of its ending. -/
theorem ListEnding.check_eq_ok_iff {ending : ListEnding} :
    ending.check = .ok () ↔ ∃ stop, ending = .closed stop := by
  cases ending <;> simp [ListEnding.check]

/-- Only a closed object passes the check of its ending. -/
theorem ObjectEnding.check_eq_ok_iff {ending : ObjectEnding} :
    ending.check = .ok () ↔ ∃ stop, ending = .closed stop := by
  cases ending with
  | colonless key =>
    simp only [ObjectEnding.check]
    cases key.value <;> simp [bind, Except.bind]
  | _ => simp [ObjectEnding.check]

/-- The members of an object are checked as the entries they are. -/
theorem Shape.checkMembers_eq_ok_iff {members : List (Member Node)}
    (hskip : ∀ member ∈ members, member.value.skip = .ok ()) :
    shape.checkMembers found members = .ok result ↔
      ∃ contents, List.Forall₂ Member.Is members contents ∧
        shape.Collects found contents result := by
  induction members generalizing found with
  | nil => simp [checkMembers, Collects]
  | cons member members ih =>
    obtain ⟨key, keyResume, node, resume⟩ := member
    obtain ⟨hfirst, hskip⟩ := List.forall_mem_cons.mp hskip
    simp only [checkMembers, bind_eq_ok_iff]
    constructor
    · rintro ⟨name, hkey, h⟩
      split at h
      · next hname =>
        rw [hfirst] at h
        obtain ⟨contents, hmembers, hcollects⟩ := (ih hskip).mp h
        refine ⟨(name, node) :: contents, .cons ⟨hkey, rfl⟩ hmembers, ?_⟩
        simpa only [Collects, hname] using hcollects
      · next rule hname =>
        split at h
        · cases h
        · next hfresh =>
          obtain ⟨_, hcheck, h⟩ := bind_eq_ok_iff.mp h
          obtain ⟨contents, hmembers, hcollects⟩ := (ih hskip).mp h
          refine ⟨(name, node) :: contents, .cons ⟨hkey, rfl⟩ hmembers, ?_⟩
          simp only [Collects, hname]
          exact ⟨Option.not_isSome_iff_eq_none.mp hfresh, settled_eq_ok_iff.mp hcheck, hcollects⟩
    · rintro ⟨contents, hmembers, h⟩
      cases hmembers with
      | @cons _ entry _ contents hmember hmembers =>
        obtain ⟨name, content⟩ := entry
        obtain ⟨hkey, rfl⟩ := hmember
        refine ⟨name, hkey, ?_⟩
        rw [Collects] at h
        split at h
        · next hname =>
          rw [hname, hfirst]
          exact (ih hskip).mpr ⟨contents, hmembers, h⟩
        · next rule hname =>
          obtain ⟨hfresh, hcheck, h⟩ := h
          simp only [hname, hfresh, Option.isSome_none, Bool.false_eq_true, if_false]
          exact bind_eq_ok_iff.mpr
            ⟨(), settled_eq_ok_iff.mpr hcheck, (ih hskip).mpr ⟨contents, hmembers, h⟩⟩

/-- Only a closed object without a missing field ends as a record. -/
theorem Shape.checkEnding_eq_ok_iff {ending : ObjectEnding} :
    shape.checkEnding found ending = .ok () ↔
      (∃ stop, ending = .closed stop) ∧ shape.missing? found = none := by
  cases ending with
  | closed stop =>
    rw [checkEnding]
    cases shape.missing? found <;> simp
  | colonless key =>
    simp only [checkEnding, ObjectEnding.check]
    cases key.value with
    | error => simp [bind, Except.bind]
    | ok name =>
      simp only [bind, Except.bind]
      split <;> simp
  | _ => simp [checkEnding, ObjectEnding.check]

/-- The items of a list are checked against the fields at their places. -/
theorem Shape.checkItems_eq_ok_iff {rules : List (Rule Node)} {items : List (Item Node)} :
    checkItems rules items = .ok () ↔ ∀ (index : Nat) (rule : Rule Node) (item : Item Node),
      rules[index]? = some rule → items[index]? = some item → rule.check item.value = .ok () := by
  induction rules generalizing items with
  | nil => simp [checkItems]
  | cons rule rules ih =>
    cases items with
    | nil => simp [checkItems]
    | cons item items =>
      simp only [checkItems, bind_eq_ok_iff, settled_eq_ok_iff, ih]
      constructor
      · rintro ⟨_, hfirst, hothers⟩ (_ | index) other content hrule hitem
        · cases hrule
          cases hitem
          exact hfirst
        · exact hothers index other content hrule hitem
      · intro h
        exact ⟨(), h 0 rule item rfl rfl, fun index => h (index + 1)⟩

/-- Only a closed list that is neither too long nor too short ends as a record. -/
theorem Shape.checkListEnding_eq_ok_iff {items : List (Item Node)} {ending : ListEnding} :
    shape.checkListEnding items ending = .ok () ↔ items.length ≤ shape.rules.length ∧
      (∃ stop, ending = .closed stop) ∧ shape.shortfall? items.length = none := by
  rw [← List.drop_eq_nil_iff]
  unfold checkListEnding
  cases hdrop : items.drop shape.rules.length with
  | cons => simp
  | nil =>
    cases ending with
    | closed stop => cases shape.shortfall? items.length <;> simp
    | misplaced | cutOffAfterComma =>
      dsimp only
      split <;> simp [ListEnding.check]
    | _ => simp [ListEnding.check]

/-- A value of another kind is always refused. -/
theorem Node.mismatch_ne_ok {α : Type} {expected : String} {value : α} :
    node.mismatch expected ≠ .ok value := by
  cases node <;> simp [mismatch, bind_eq_ok_iff]

mutual

/-- What shows a tree can be skipped. -/
theorem Node.Shows.skip {node : Node} {tree : Tree} (h : node.Shows tree) : node.skip = .ok () := by
  cases h with
  | list h => simp only [Node.skip, h.skip, ListEnding.skip, ListEnding.check, bind, Except.bind]
  | object h =>
    simp only [Node.skip, h.skip, ObjectEnding.skip, ObjectEnding.check, bind, Except.bind]
  | _ => simp only [Node.skip]

/-- Items that show trees can be skipped. -/
theorem ItemsShow.skip {items : List (Item Node)} {trees : List Tree} (h : ItemsShow items trees) :
    skipItems items = .ok () := by
  cases h with
  | nil => rw [skipItems]
  | cons h hitems => simp only [skipItems, h.skip, hitems.skip, bind, Except.bind]

/-- Members that show trees can be skipped. -/
theorem MembersShow.skip {members : List (Member Node)} {trees : List (Option String × Tree)}
    (h : MembersShow members trees) : skipMembers members = .ok () := by
  cases h with
  | nil => rw [skipMembers]
  | cons _ h hmembers => simp only [skipMembers, h.skip, hmembers.skip, bind, Except.bind]

end

/-- Each of the members that show trees can be skipped. -/
theorem MembersShow.forall_skip {members : List (Member Node)}
    {trees : List (Option String × Tree)} (h : MembersShow members trees) :
    ∀ member ∈ members, member.value.skip = .ok () := by
  induction members generalizing trees with
  | nil => nofun
  | cons member members ih =>
    cases h with
    | cons _ h hmembers => exact List.forall_mem_cons.mpr ⟨h.skip, ih hmembers⟩

/-- A closed object is read up to its fields if its members are collected and none is missing. -/
theorem Shape.fields_object_eq_ok_iff {start stop : Position} {members : List (Member Node)}
    (hskip : ∀ member ∈ members, member.value.skip = .ok ()) :
    shape.fields (.object start members (.closed stop)) = .ok found ↔
      ∃ contents, List.Forall₂ Member.Is members contents ∧
        shape.Collects [] contents found ∧ shape.missing? found = none := by
  simp only [fields, bind_eq_ok_iff, pure_eq_ok_iff, checkMembers_eq_ok_iff hskip]
  constructor
  · rintro ⟨_, ⟨contents, hmembers, hcollects⟩, ⟨⟩, hending, rfl⟩
    obtain ⟨-, hmissing⟩ := checkEnding_eq_ok_iff.mp hending
    exact ⟨contents, hmembers, hcollects, hmissing⟩
  · rintro ⟨contents, hmembers, hcollects, hmissing⟩
    have hending := checkEnding_eq_ok_iff.mpr ⟨⟨stop, rfl⟩, hmissing⟩
    exact ⟨_, ⟨contents, hmembers, hcollects⟩, (), hending, rfl⟩

/-- A closed list is read up to its fields if its items pass the checks of the fields at their
places and are neither too many nor too few. -/
theorem Shape.fields_list_eq_ok_iff {start stop : Position} {items : List (Item Node)} :
    shape.fields (.list start items (.closed stop)) = .ok found ↔
      checkItems shape.rules items = .ok () ∧ shape.shortfall? items.length = none ∧
        items.length ≤ shape.rules.length ∧ found = shape.names.zip (items.map Item.value) := by
  simp only [fields, bind_eq_ok_iff, pure_eq_ok_iff]
  constructor
  · rintro ⟨⟨⟩, hchecks, ⟨⟩, hending, rfl⟩
    obtain ⟨hlong, -, hshort⟩ := checkListEnding_eq_ok_iff.mp hending
    exact ⟨hchecks, hshort, hlong, rfl⟩
  · rintro ⟨hchecks, hshort, hlong, rfl⟩
    exact ⟨(), hchecks, (), checkListEnding_eq_ok_iff.mpr ⟨hlong, ⟨stop, rfl⟩, hshort⟩, rfl⟩

/-- A record is read up to its fields if what it lists makes one. -/
theorem Shape.fields_eq_ok_iff (hnodup : shape.names.Nodup) {tree : Tree}
    (hnode : node.Shows tree) : shape.fields node = .ok found ↔
      ∃ contents, node.Lists shape.names contents ∧ shape.Admits contents ∧
        found = shape.known contents := by
  cases hnode with
  | @list start stop items _ _ =>
    have hlength : shape.names.length = shape.rules.length := List.length_map _
    rw [fields_list_eq_ok_iff, ← hlength]
    constructor
    · rintro ⟨hchecks, hshort, hlong, rfl⟩
      refine ⟨_, .list hlong, (admits_zip_iff hnodup).mpr ⟨?_, ?_⟩, known_zip.symm⟩
      · intro index rule node hrule hnode
        rw [List.getElem?_map] at hnode
        obtain ⟨item, hitem, rfl⟩ := Option.map_eq_some_iff.mp hnode
        exact checkItems_eq_ok_iff.mp hchecks index rule item hrule hitem
      · rwa [List.length_map]
    · rintro ⟨_, hlists, hadmits, rfl⟩
      cases hlists with
      | list hlong =>
        obtain ⟨hchecks, hshort⟩ := (admits_zip_iff hnodup).mp hadmits
        rw [List.length_map] at hshort
        refine ⟨checkItems_eq_ok_iff.mpr fun index rule item hrule hitem => ?_, hshort, hlong,
          known_zip⟩
        exact hchecks index rule item.value hrule (by rw [List.getElem?_map, hitem]; rfl)
  | object hmembers =>
    rw [fields_object_eq_ok_iff hmembers.forall_skip]
    constructor
    · rintro ⟨contents, hmembers, hcollects, hmissing⟩
      obtain ⟨rfl, hadmits⟩ := (collects_nil_iff hnodup).mp ⟨hcollects, hmissing⟩
      exact ⟨contents, .object hmembers, hadmits, rfl⟩
    · rintro ⟨contents, hlists, hadmits, rfl⟩
      cases hlists with
      | object hmembers =>
        exact ⟨contents, hmembers, (collects_nil_iff hnodup).mpr ⟨rfl, hadmits⟩⟩
  | _ =>
    refine ⟨fun h => ?_, ?_⟩
    · simp only [fields] at h
      exact absurd h Node.mismatch_ne_ok
    · rintro ⟨_, ⟨⟩, _⟩

end Node

/-! ## Records apart from their text -/

/-- What the content of a choice lists: its members, or its items under the given names. -/
inductive Content.Lists (names : List String) : Content → List (String × Value) → Prop
  | members {contents : List (String × Value)} : Content.Lists names (.members contents) contents
  | items {items : List Value} (h : items.length ≤ names.length) :
      Content.Lists names (.items items) (names.zip items)

section Content

variable {shape : Shape Value} {content : Content} {found result : FoundFields Value}

/-- Members are checked as the entries they are. -/
theorem Shape.checkValues_eq_ok_iff {contents : List (String × Value)} :
    shape.checkValues found contents = .ok result ↔ shape.Collects found contents result := by
  induction contents generalizing found with
  | nil => simp [checkValues, Collects]
  | cons entry contents ih =>
    obtain ⟨name, value⟩ := entry
    rw [checkValues, Collects]
    cases shape.rule? name with
    | none => exact ih
    | some rule =>
      dsimp only
      split
      · next hfound => simp [Option.isSome_iff_ne_none.mp hfound]
      · next hfresh =>
        rw [bind_eq_ok_iff, Option.not_isSome_iff_eq_none.mp hfresh]
        constructor
        · rintro ⟨⟨⟩, hcheck, h⟩
          exact ⟨rfl, hcheck, ih.mp h⟩
        · rintro ⟨-, hcheck, h⟩
          exact ⟨(), hcheck, ih.mpr h⟩

/-- Items are checked against the fields at their places. -/
theorem Shape.checkValueItems_eq_ok_iff {rules : List (Rule Value)} {items : List Value} :
    checkValueItems rules items = .ok () ↔ ∀ (index : Nat) (rule : Rule Value) (item : Value),
      rules[index]? = some rule → items[index]? = some item → rule.check item = .ok () := by
  induction rules generalizing items with
  | nil => simp [checkValueItems]
  | cons rule rules ih =>
    cases items with
    | nil => simp [checkValueItems]
    | cons item items =>
      simp only [checkValueItems, bind_eq_ok_iff, ih]
      constructor
      · rintro ⟨_, hfirst, hothers⟩ (_ | index) other content hrule hitem
        · cases hrule
          cases hitem
          exact hfirst
        · exact hothers index other content hrule hitem
      · intro h
        exact ⟨(), h 0 rule item rfl rfl, fun index => h (index + 1)⟩

/-- Members are read up to their fields if they are collected and none is missing. -/
theorem Shape.contentFields_members_eq_ok_iff {contents : List (String × Value)} :
    shape.contentFields (.members contents) = .ok found ↔
      shape.Collects [] contents found ∧ shape.missing? found = none := by
  simp only [contentFields, bind_eq_ok_iff, checkValues_eq_ok_iff]
  constructor
  · rintro ⟨found, hcollects, h⟩
    split at h
    · cases h
    · next hmissing =>
      cases h
      exact ⟨hcollects, hmissing⟩
  · rintro ⟨hcollects, hmissing⟩
    refine ⟨found, hcollects, ?_⟩
    rw [hmissing]
    rfl

/-- Items are read up to their fields if they pass the checks of the fields at their places and
are neither too many nor too few. -/
theorem Shape.contentFields_items_eq_ok_iff {items : List Value} :
    shape.contentFields (.items items) = .ok found ↔
      checkValueItems shape.rules items = .ok () ∧ shape.shortfall? items.length = none ∧
        items.length ≤ shape.rules.length ∧ found = shape.names.zip items := by
  simp only [contentFields, bind_eq_ok_iff]
  constructor
  · rintro ⟨⟨⟩, hchecks, h⟩
    split at h
    · cases h
    · next hshort =>
      split at h
      · next hlong =>
        cases h
        exact ⟨hchecks, hshort, hlong, rfl⟩
      · cases h
  · rintro ⟨hchecks, hshort, hlong, rfl⟩
    refine ⟨(), hchecks, ?_⟩
    rw [hshort, if_pos hlong]
    rfl

/-- The content of a choice is read up to its fields if what it lists makes a record. -/
theorem Shape.contentFields_eq_ok_iff (hnodup : shape.names.Nodup) :
    shape.contentFields content = .ok found ↔
      ∃ contents, content.Lists shape.names contents ∧ shape.Admits contents ∧
        found = shape.known contents := by
  cases content with
  | members contents =>
    rw [contentFields_members_eq_ok_iff, collects_nil_iff hnodup]
    constructor
    · rintro ⟨rfl, hadmits⟩
      exact ⟨contents, .members, hadmits, rfl⟩
    · rintro ⟨_, ⟨⟩, hadmits, rfl⟩
      exact ⟨rfl, hadmits⟩
  | items items =>
    have hlength : shape.names.length = shape.rules.length := List.length_map _
    rw [contentFields_items_eq_ok_iff, checkValueItems_eq_ok_iff, ← hlength]
    constructor
    · rintro ⟨hchecks, hshort, hlong, rfl⟩
      exact ⟨_, .items hlong, (admits_zip_iff hnodup).mpr ⟨hchecks, hshort⟩, known_zip.symm⟩
    · rintro ⟨_, hlists, hadmits, rfl⟩
      cases hlists with
      | items hlong =>
        obtain ⟨hchecks, hshort⟩ := (admits_zip_iff hnodup).mp hadmits
        exact ⟨hchecks, hshort, hlong, known_zip⟩

/-- The content of a choice without fields passes its check if it is no list with items. -/
theorem Content.checkEmpty_eq_ok_iff :
    content.checkEmpty = .ok () ↔ ∃ contents, content.Lists [] contents := by
  cases content with
  | members contents => exact ⟨fun _ => ⟨contents, .members⟩, fun _ => rfl⟩
  | items items =>
    cases items with
    | nil => exact ⟨fun _ => ⟨_, .items (Nat.le_refl 0)⟩, fun _ => rfl⟩
    | cons item items =>
      refine ⟨nofun, ?_⟩
      rintro ⟨_, hlists⟩
      cases hlists with
      | items hlong => exact absurd hlong (Nat.not_succ_le_zero _)

end Content

end PersistenceLayer.Json
