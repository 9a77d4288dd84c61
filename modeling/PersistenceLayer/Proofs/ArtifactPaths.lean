import PersistenceLayer.Proofs.Runs

/-!
# Paths of the artifacts of an entity

The files of an entity lie in the same directory, except that the name of an
entity can lead into directories itself. Even then no file of an entity is a
directory on the way to another one, unless the output directory steps upwards:
on a way down, the place of one would have to lie strictly above the place of
the other, and their paths have no such names.
-/

namespace PersistenceLayer

/-! ## Names of files -/

/-- The components that the segments of a text make. -/
def partsOf (text : String) : List Path.Component :=
  (Text.splitAt '/' text).filterMap Path.component?

/-- The stem of a file is the name of its entity with something after it, and for a contract also
with a letter before it. -/
theorem exists_stem_eq (kind : Kind) (entity : String) :
    ∃ suffix : String, '/' ∉ suffix.toList ∧ kind.stem entity =
      (if kind = .contract then "I" else "") ++ Text.capitalized entity ++ suffix := by
  cases kind with
  | contract => exact ⟨"", by decide, by simp [Kind.stem, Naming.contractType]⟩
  | dataHolder => exact ⟨"Data", by decide, by simp [Kind.stem, Naming.dataType]⟩
  | metamodel =>
    refine ⟨"Entity_", by decide, ?_⟩
    simp [Kind.stem, Naming.metamodelType, Naming.entityType, String.append_assoc]
  | persisted => exact ⟨"Entity", by decide, by simp [Kind.stem, Naming.entityType]⟩
  | vocabulary =>
    exact ⟨"OrdersPredicates", by decide, by simp [Kind.stem, Naming.vocabularyFile]⟩
  | extension => exact ⟨"Extension", by decide, by simp [Kind.stem, Naming.extensionFile]⟩

/-- A file is named as its stem is, with an extension after it. -/
theorem exists_fileName_eq (kind : Kind) (entity : String) :
    ∃ suffix : String, '/' ∉ suffix.toList ∧
      (∃ c ∈ ['t', 'a'], suffix.toList.getLast? = some c) ∧
      kind.fileName entity =
        (if kind = .contract then "I" else "") ++ Text.capitalized entity ++ suffix := by
  obtain ⟨suffix, hfree, hstem⟩ := exists_stem_eq kind entity
  have hextension : '/' ∉ kind.language.extension.toList ∧
      ∃ c ∈ ['t', 'a'], kind.language.extension.toList.getLast? = some c := by
    cases kind <;> exact ⟨by decide, _, by decide, rfl⟩
  obtain ⟨hextensionFree, c, hc, hlast⟩ := hextension
  refine ⟨suffix ++ ("." ++ kind.language.extension), ?_, ⟨c, hc, ?_⟩, ?_⟩
  · simp [hfree, hextensionFree]
  · rw [← String.append_assoc, String.toList_append, List.getLast?_append, hlast]
    rfl
  · simp [Kind.fileName, hstem, String.append_assoc]

/-- With something after it that ends a file name, a text makes the components that its segments but
the last make, and one more. -/
theorem partsOf_append {text suffix last : String} {init : List String} {c : Char}
    (hsplit : Text.splitAt '/' text = init ++ [last]) (hfree : '/' ∉ suffix.toList)
    (hlast : suffix.toList.getLast? = some c) (hc : c ≠ '.') :
    partsOf (text ++ suffix) = init.filterMap Path.component? ++ [.normal (last ++ suffix)] := by
  have hcomponent : Path.component? (last ++ suffix) = some (.normal (last ++ suffix)) := by
    refine Path.component?_of_getLast? (c := c) ?_ hc
    simp [List.getLast?_append, hlast]
  simp [partsOf, Text.splitAt_append hfree hsplit, hcomponent]

/-- Whether components are those of a file in directories that some segments name. -/
def IsFileIn (directories : List String) (last : String) (parts : List Path.Component) : Prop :=
  ∃ suffix : String, (∃ c ∈ ['t', 'a'], suffix.toList.getLast? = some c) ∧
    parts = directories.filterMap Path.component? ++ [.normal (last ++ suffix)]

theorem IsFileIn.length_eq {directories : List String} {last : String}
    {parts : List Path.Component} (h : IsFileIn directories last parts) :
    parts.length = (directories.filterMap Path.component?).length + 1 := by
  obtain ⟨suffix, -, rfl⟩ := h
  simp

/-- The file of a kind lies in the directories that its entity's name leads to, which has a letter
before it for a contract. -/
theorem isFileIn_partsOf {kind : Kind} {entity last : String} (init : List String)
    (hsplit : Text.splitAt '/' ((if kind = .contract then "I" else "") ++ Text.capitalized entity) =
      init ++ [last]) : IsFileIn init last (partsOf (kind.fileName entity)) := by
  obtain ⟨suffix, hfree, ⟨c, hc, hlast⟩, hname⟩ := exists_fileName_eq kind entity
  have hdot : c ≠ '.' := by
    rintro rfl
    exact absurd hc (by decide)
  exact ⟨suffix, ⟨c, hc, hlast⟩, hname ▸ partsOf_append hsplit hfree hlast hdot⟩

/-- What can be moved past a list of equal elements is one of them. -/
theorem eq_of_cons_eq_concat {α : Type} {x y : α} {list : List α} (h : x :: list = list ++ [y]) :
    x = y := by
  induction list generalizing x with
  | nil => simpa using h
  | cons z list ih =>
    obtain ⟨rfl, hrest⟩ := List.cons.inj h
    exact ih hrest

/-- A segment names a directory if it has a letter before it. -/
theorem component?_letter (segment : String) :
    Path.component? ("I" ++ segment) = some (.normal ("I" ++ segment)) := by
  have hne : ∀ other : String, other.toList.head? ≠ some 'I' → "I" ++ segment ≠ other := by
    rintro other hother rfl
    exact hother (by simp)
  unfold Path.component?
  rw [if_neg (not_or.mpr ⟨hne _ (by decide), hne _ (by decide)⟩), if_neg (hne _ (by decide))]

/-- Without the letter of a contract, a segment that names no directory is missing on the way. What
is left is still not the beginning of the way with the letter. -/
theorem not_prefix_of_void {first last name : String} {rest : List String}
    {parts others : List Path.Component} (hvoid : Path.component? first = none)
    (hparts : IsFileIn (first :: rest) last parts)
    (hothers : IsFileIn (("I" ++ first) :: rest) name others) : ¬ parts <+: others := by
  obtain ⟨suffix, ⟨c, hc, hlast⟩, rfl⟩ := hparts
  obtain ⟨suffix', -, rfl⟩ := hothers
  rintro ⟨tail, htail⟩
  have hfirst : first = "" ∨ first = "." := by
    unfold Path.component? at hvoid
    split at hvoid
    · assumption
    · split at hvoid <;> cases hvoid
  simp only [List.filterMap_cons, hvoid, component?_letter] at htail
  have hlength : tail.length = 1 := by
    have := congrArg List.length htail
    simp only [List.length_append, List.length_cons, List.length_nil] at this
    omega
  obtain ⟨hmoved, -⟩ := List.append_inj' htail (by simp [hlength])
  have hname := Path.Component.normal.inj (eq_of_cons_eq_concat hmoved.symm)
  have hend : ("I" ++ first).toList.getLast? = some c := by
    rw [hname, String.toList_append, List.getLast?_append, hlast]
    rfl
  simp only [List.mem_cons, List.not_mem_nil, or_false] at hc
  rcases hfirst with rfl | rfl <;> rcases hc with rfl | rfl <;> exact absurd hend (by decide)

/-- The parts of the files of an entity are not properly below each other. -/
theorem length_partsOf_le {first second : Kind} {entity : String}
    (hstarts : partsOf (first.fileName entity) <+: partsOf (second.fileName entity)) :
    (partsOf (second.fileName entity)).length ≤ (partsOf (first.fileName entity)).length := by
  have hsplit := (List.dropLast_concat_getLast
    (Text.splitAt_ne_nil '/' (Text.capitalized entity))).symm
  generalize List.getLast _ _ = last at hsplit
  cases hinit : (Text.splitAt '/' (Text.capitalized entity)).dropLast with
  | nil =>
    rw [hinit, List.nil_append] at hsplit
    have hfile : ∀ kind : Kind, (partsOf (kind.fileName entity)).length = 1 := fun kind =>
      (isFileIn_partsOf [] (Text.splitAt_prepend _ (by split <;> decide) hsplit)).length_eq
    exact Nat.le_of_eq ((hfile _).trans (hfile _).symm)
  | cons segment rest =>
    rw [hinit] at hsplit
    have hfile : ∀ kind : Kind, IsFileIn
        (((if kind = .contract then "I" else "") ++ segment) :: rest) last
        (partsOf (kind.fileName entity)) := fun kind =>
      isFileIn_partsOf _ (Text.splitAt_prepend _ (by split <;> decide) hsplit)
    have hfirst := hfile first
    have hsecond := hfile second
    by_cases hone : first = .contract
    · rw [if_pos hone] at hfirst
      rw [hfirst.length_eq, hsecond.length_eq, List.filterMap_cons_some (component?_letter _),
        List.filterMap_cons, List.length_cons]
      split <;> simp
    · rw [if_neg hone, String.empty_append] at hfirst
      by_cases htwo : second = .contract
      · rw [if_pos htwo] at hsecond
        cases hvoid : Path.component? segment with
        | none => exact absurd hstarts (not_prefix_of_void hvoid hfirst hsecond)
        | some component =>
          rw [hfirst.length_eq, hsecond.length_eq, List.filterMap_cons_some hvoid,
            List.filterMap_cons_some (component?_letter _)]
          exact Nat.le_refl _
      · rw [if_neg htwo, String.empty_append] at hsecond
        exact Nat.le_of_eq (hsecond.length_eq.trans hfirst.length_eq.symm)

/-- A normal path below a directory has the parts of the directory and its own as components. -/
theorem components_join_of_isNormal {path other : Path}
    (hnormal : (path.join other).isNormal = true) :
    (path.join other).components = partsOf path.text ++ partsOf other.text := by
  obtain ⟨habsolute, hcomponents⟩ := Path.components_of_isNormal hnormal
  by_cases hempty : path.text = ""
  · have hjoin : path.join other = other := by simp [Path.join, hempty]
    rw [hcomponents, hjoin, hempty]
    rfl
  · have hother : other.isAbsolute = false := by
      cases hroot : other.isAbsolute with
      | false => rfl
      | true =>
        rw [Path.join, if_pos (by simp [hroot]), hroot] at habsolute
        cases habsolute
    obtain ⟨first, upper, rest, hsplit, hjoin, hrest⟩ := Path.splitAt_join hother hempty
    rw [hcomponents, hjoin, partsOf, partsOf, hsplit, ← List.cons_append, List.filterMap_append,
      List.filterMap_cons, List.filterMap_cons, hrest]

/-- The paths of the artifacts of an entity are not properly below each other. -/
theorem length_components_le {first second : Kind} {entity packageName : String}
    (hfirst : (first.relativePath entity packageName).isNormal = true)
    (hsecond : (second.relativePath entity packageName).isNormal = true)
    (hstarts : (first.relativePath entity packageName).components <+:
      (second.relativePath entity packageName).components) :
    (second.relativePath entity packageName).components.length ≤
      (first.relativePath entity packageName).components.length := by
  unfold Kind.relativePath at *
  rw [components_join_of_isNormal hfirst, components_join_of_isNormal hsecond] at hstarts ⊢
  rw [List.prefix_append_right_inj] at hstarts
  rw [List.length_append, List.length_append]
  exact Nat.add_le_add_left (length_partsOf_le hstarts) _

/-! ## Ways down -/

namespace Path

/-- Only the first component of a path can be the root. -/
theorem root_notMem_drop (path : Path) {count : Nat} (hcount : count ≠ 0) :
    .root ∉ path.components.drop count := by
  have hanchor : path.split.1.length ≤ count := by
    refine Nat.le_trans (m := 1) ?_ (Nat.pos_of_ne_zero hcount)
    unfold split
    split
    · simp
    · split
      · simp
      · split <;> simp
  rw [components, List.drop_append, List.drop_eq_nil_of_le hanchor, List.nil_append]
  intro hmem
  obtain ⟨segment, -, hsegment⟩ := List.mem_filterMap.mp (List.mem_of_mem_drop hmem)
  unfold component? at hsegment
  split at hsegment
  · cases hsegment
  · split at hsegment <;> cases hsegment

end Path

/-- Without a step upwards a way leads down. -/
theorem names_length_le_follow {location : Location} {components : List Path.Component}
    (hroot : .root ∉ components) (hparent : .parent ∉ components) :
    location.names.length ≤ (location.follow components).names.length := by
  induction components generalizing location with
  | nil => exact Nat.le_refl _
  | cons component components ih =>
    obtain ⟨hroot, hroots⟩ := not_or.mp (mt List.mem_cons.mpr hroot)
    obtain ⟨hparent, hparents⟩ := not_or.mp (mt List.mem_cons.mpr hparent)
    refine Nat.le_trans ?_ (ih hroots hparents)
    cases component with
    | root => exact absurd rfl hroot
    | parent => exact absurd rfl hparent
    | current => exact Nat.le_refl _
    | normal name => simp [Location.advance, Location.child]

/-- A place on the way that a path without a step upwards leads is not below its own place. -/
theorem names_length_le_place {path : Path} (hparent : .parent ∉ path.components) (count : Nat) :
    (Location.home.follow (path.components.take count)).names.length ≤ path.place.names.length := by
  by_cases hcount : count = 0
  · simp [hcount, Location.home]
  · rw [Path.place, ← List.take_append_drop count path.components, Location.follow_append,
      List.take_append_drop]
    exact names_length_le_follow (path.root_notMem_drop hcount)
      fun hmem => hparent (List.mem_of_mem_drop hmem)

/-- Without a step upwards in the output directory, a path made of names leads through the place of
another one only if the other one's components are the beginning of its own. -/
theorem components_prefix_of_leadsThrough {output path other : Path}
    (houtput : .parent ∉ output.components) (hpath : path.isNormal = true)
    (hother : other.isNormal = true) (hne : path.components ≠ [])
    (hthrough : (output.join other).LeadsThrough (output.join path).place) :
    path.components <+: other.components ∧ path.components.length < other.components.length := by
  obtain ⟨names, hnames⟩ := Path.exists_names hpath
  obtain ⟨others, hothers⟩ := Path.exists_names hother
  obtain ⟨count, hcount, hplace⟩ := hthrough
  rw [Path.place_join hpath, hnames, Location.follow_map_normal] at hplace
  rw [Path.components_join hother, List.take_append, Location.follow_append, hothers] at hplace
  rw [Path.components_join hother, List.length_append] at hcount
  by_cases hshort : count ≤ output.components.length
  · have hlength := names_length_le_place houtput count
    rw [Nat.sub_eq_zero_of_le hshort] at hplace
    have hnamesLength := congrArg (fun location => location.names.length) hplace
    simp only [List.take_zero, Location.follow_nil, List.length_append] at hnamesLength
    have hpositive : 0 < names.length := by
      rw [List.length_pos_iff]
      rintro rfl
      exact hne hnames
    omega
  · rw [List.take_of_length_le (by omega), ← List.map_take, Location.follow_map_normal] at hplace
    have hsame : others.take (count - output.components.length) = names :=
      List.append_cancel_left (congrArg Location.names hplace)
    rw [hnames, hothers, ← hsame, List.map_take]
    refine ⟨List.take_prefix _ _, ?_⟩
    rw [hothers, List.length_map] at hcount
    rw [List.length_take, List.length_map]
    omega

/-- Without a step upwards in the output directory, no file of an entity lies on the way to another
one. -/
theorem not_leadsThrough {output : Path} {first second : Kind} {entity packageName : String}
    (houtput : .parent ∉ output.components)
    (hfirst : (first.relativePath entity packageName).isNormal = true)
    (hsecond : (second.relativePath entity packageName).isNormal = true) :
    ¬ (output.join (second.relativePath entity packageName)).LeadsThrough
      (output.join (first.relativePath entity packageName)).place := by
  intro hthrough
  obtain ⟨name, hname⟩ := first.exists_lastName? entity packageName
  have hne : (first.relativePath entity packageName).components ≠ [] := by
    rw [Path.components_of_lastName? hname]
    simp
  obtain ⟨hstarts, hlength⟩ := components_prefix_of_leadsThrough houtput hfirst hsecond hne hthrough
  exact Nat.not_le_of_lt hlength (length_components_le hfirst hsecond hstarts)

end PersistenceLayer
