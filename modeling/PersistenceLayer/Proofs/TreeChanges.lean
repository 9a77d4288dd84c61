import PersistenceLayer.Proofs.Places

/-!
# What operations change in a tree

Each operation of a tree changes what stands at the place it names and nothing
else, except that making directories puts directories where nothing stood. Such
changes add up along a run: `KeepsOutside` says of two trees, however many
operations lie between them, that they agree outside a list of places up to
directories that were made.
-/

namespace PersistenceLayer.FileTree

/-! ## Single places -/

/-- At any place but an anchor stands what was put there. -/
theorem entry?_put_self {tree : FileTree} {location : Location} {entry : TreeEntry}
    (hnames : location.names ≠ []) : entry? (tree.put location entry) location = some entry := by
  have hother : (tree.entries.filter fun other => other.1 != location).lookup location = none := by
    rw [List.lookup_eq_none_iff]
    intro other hmem
    exact bne_iff_ne.mpr (Ne.symm (bne_iff_ne.mp (List.mem_filter.mp hmem).2))
  simp [hnames, entry?, put, List.lookup_append, hother]

/-- Entries of other places are not lost when the entries of one place are. -/
theorem lookup_filter_of_ne {entries : List (Location × TreeEntry)} {location other : Location}
    (hne : other ≠ location) :
    (entries.filter fun entry => entry.1 != location).lookup other = entries.lookup other := by
  induction entries with
  | nil => rfl
  | cons entry entries ih =>
    obtain ⟨place, content⟩ := entry
    by_cases hplace : place = location
    · subst hplace
      have hlookup : (other == place) = false := by simpa using hne
      simp [ih, List.lookup_cons, hlookup]
    · simp [hplace, List.lookup_cons, ih]

/-- Nothing else changes when an entry is put at a place. -/
theorem entry?_put_of_ne {tree : FileTree} {location other : Location} {entry : TreeEntry}
    (hne : other ≠ location) : entry? (tree.put location entry) other = tree.entry? other := by
  have hlookup : (other == location) = false := by simpa using hne
  simp [put, entry?, List.lookup_append, lookup_filter_of_ne hne, List.lookup_cons, hlookup]

/-- At any place but an anchor stands nothing once its entry is erased. -/
theorem entry?_erase_self {tree : FileTree} {location : Location} (hnames : location.names ≠ []) :
    entry? (tree.erase location) location = none := by
  unfold entry?
  rw [if_neg hnames, List.lookup_eq_none_iff]
  intro other hmem
  exact bne_iff_ne.mpr (Ne.symm (bne_iff_ne.mp (List.mem_filter.mp hmem).2))

/-- Nothing else changes when the entry at a place is erased. -/
theorem entry?_erase_of_ne {tree : FileTree} {location other : Location} (hne : other ≠ location) :
    entry? (tree.erase location) other = tree.entry? other := by
  simp [erase, entry?, lookup_filter_of_ne hne]

/-- The tree without the entries at some places. -/
def eraseAll (tree : FileTree) (places : List Location) : FileTree :=
  places.foldl erase tree

theorem eraseAll_append (tree : FileTree) (places others : List Location) :
    tree.eraseAll (places ++ others) = (tree.eraseAll places).eraseAll others :=
  List.foldl_append

/-- Nothing else changes when the entries at some places are erased. -/
theorem entry?_eraseAll_of_notMem {tree : FileTree} {places : List Location} {location : Location}
    (hlocation : location ∉ places) :
    entry? (tree.eraseAll places) location = tree.entry? location := by
  induction places generalizing tree with
  | nil => rfl
  | cons place places ih =>
    obtain ⟨hne, hrest⟩ := not_or.mp (mt List.mem_cons.mpr hlocation)
    exact (ih hrest).trans (entry?_erase_of_ne hne)

/-- At any place but an anchor stands nothing once it is among those that are erased. -/
theorem entry?_eraseAll_of_mem {tree : FileTree} {places : List Location} {location : Location}
    (hnames : location.names ≠ []) (hlocation : location ∈ places) :
    entry? (tree.eraseAll places) location = none := by
  induction places generalizing tree with
  | nil => cases hlocation
  | cons place places ih =>
    by_cases hrest : location ∈ places
    · exact ih hrest
    · obtain rfl := (List.mem_cons.mp hlocation).resolve_right hrest
      exact (entry?_eraseAll_of_notMem hrest).trans (entry?_erase_self hnames)

/-- The contents of a file are what stands at its place. -/
theorem contents?_eq_some_iff {tree : FileTree} {location : Location} {contents : String} :
    tree.contents? location = some contents ↔ tree.entry? location = some (.file contents) := by
  unfold contents?
  split <;> simp_all

/-! ## Changes that keep other places -/

/-- Whether two trees agree outside some places. Where nothing stands in the first one, a directory
may stand in the second one, but only at a place where directories may be made. -/
def KeepsOutside (places : List Location) (isMade : Location → Prop) (before after : FileTree) :
    Prop :=
  ∀ location ∉ places, after.entry? location = before.entry? location ∨
    before.entry? location = none ∧ after.entry? location = some .directory ∧ isMade location

namespace KeepsOutside

variable {places others : List Location} {isMade : Location → Prop} {before middle after : FileTree}

theorem refl (places : List Location) (isMade : Location → Prop) (tree : FileTree) :
    KeepsOutside places isMade tree tree :=
  fun _ _ => .inl rfl

/-- Changes add up. -/
theorem trans (h : KeepsOutside places isMade before middle)
    (h' : KeepsOutside places isMade middle after) : KeepsOutside places isMade before after := by
  intro location hlocation
  rcases h' location hlocation with hsame | ⟨hnone, hmade⟩
  · rcases h location hlocation with hfirst | ⟨hnone, hdirectory, hmade⟩
    · exact .inl (hsame.trans hfirst)
    · exact .inr ⟨hnone, hsame.trans hdirectory, hmade⟩
  · rcases h location hlocation with hfirst | ⟨-, hdirectory, -⟩
    · exact .inr ⟨hfirst ▸ hnone, hmade⟩
    · rw [hnone] at hdirectory
      cases hdirectory

/-- Less is said about fewer places. -/
theorem mono {isMade' : Location → Prop} (h : KeepsOutside places isMade before after)
    (hplaces : places ⊆ others) (hmade : ∀ location, isMade location → isMade' location) :
    KeepsOutside others isMade' before after := by
  intro location hlocation
  rcases h location (fun hmem => hlocation (hplaces hmem)) with hsame | ⟨hnone, hdirectory, hplace⟩
  · exact .inl hsame
  · exact .inr ⟨hnone, hdirectory, hmade location hplace⟩

/-- Places at which the trees agree need not be left out. -/
theorem release (released : List Location)
    (h : KeepsOutside (released ++ places) isMade before after)
    (hreleased : ∀ location ∈ released, after.entry? location = before.entry? location) :
    KeepsOutside places isMade before after := by
  intro location hlocation
  by_cases hmem : location ∈ released
  · exact .inl (hreleased location hmem)
  · exact h location (by simp [hmem, hlocation])

/-- An entry that is put at one of the places leaves the others as they are. -/
theorem put {location : Location} (hmem : location ∈ places) (entry : TreeEntry) :
    KeepsOutside places isMade before (before.put location entry) := by
  intro other hother
  exact .inl (entry?_put_of_ne fun heq => hother (heq ▸ hmem))

/-- An entry that is erased at one of the places leaves the others as they are. -/
theorem erase {location : Location} (hmem : location ∈ places) :
    KeepsOutside places isMade before (before.erase location) := by
  intro other hother
  exact .inl (entry?_erase_of_ne fun heq => hother (heq ▸ hmem))

/-- Entries that are erased at some of the places leave the others as they are. -/
theorem eraseAll {erased : List Location} (hsubset : erased ⊆ places) :
    KeepsOutside places isMade before (before.eraseAll erased) := by
  intro other hother
  exact .inl (entry?_eraseAll_of_notMem fun hmem => hother (hsubset hmem))

/-- A directory may be put where nothing stands and directories may be made. -/
theorem putDirectory {location : Location} (hentry : before.entry? location = none)
    (hmade : isMade location) :
    KeepsOutside places isMade before (before.put location .directory) := by
  intro other _
  by_cases heq : other = location
  · subst heq
    have hnames : other.names ≠ [] := by
      intro hnil
      simp [hnil, entry?] at hentry
    exact .inr ⟨hentry, entry?_put_self hnames, hmade⟩
  · exact .inl (entry?_put_of_ne heq)

/-- Places where nothing stood before need not be left out once they are erased. -/
theorem eraseAll_release {released : List Location}
    (h : KeepsOutside (released ++ places) isMade before after)
    (hfresh : ∀ location ∈ released, location.names ≠ [] ∧ before.entry? location = none) :
    KeepsOutside places isMade before (after.eraseAll released) := by
  refine (h.trans (.eraseAll (List.subset_append_left _ _))).release released ?_
  intro location hmem
  obtain ⟨hnames, hnone⟩ := hfresh location hmem
  rw [entry?_eraseAll_of_mem hnames hmem, hnone]

/-- What stood outside the places still stands there. -/
theorem entry?_eq_some {location : Location} {entry : TreeEntry}
    (h : KeepsOutside places isMade before after) (hlocation : location ∉ places)
    (hentry : before.entry? location = some entry) : after.entry? location = some entry := by
  rcases h location hlocation with hsame | ⟨hnone, -⟩
  · exact hsame.trans hentry
  · rw [hentry] at hnone
    cases hnone

/-- Where nothing stands outside the places, nothing stood before. -/
theorem entry?_eq_none {location : Location} (h : KeepsOutside places isMade before after)
    (hlocation : location ∉ places) (hentry : after.entry? location = none) :
    before.entry? location = none := by
  rcases h location hlocation with hsame | ⟨hnone, -⟩
  · exact hsame.symm.trans hentry
  · exact hnone

end KeepsOutside

/-! ## Operations -/

/-- Making directories puts directories where nothing stood, at places that the components lead
through, and changes nothing else. -/
theorem keepsOutside_makeDirectoriesFrom (tree : FileTree) (directory : Location)
    (components : List Path.Component) :
    KeepsOutside [] (fun location => ∃ count ≤ components.length,
        directory.follow (components.take count) = location)
      tree (tree.makeDirectoriesFrom directory components).1 := by
  fun_induction makeDirectoriesFrom tree directory components with
  | case1 | case5 | case7 => exact .refl _ _ _
  | case2 tree directory components ih | case3 tree directory components ih
  | case4 tree directory components ih =>
    refine ih.mono (List.Subset.refl _) ?_
    rintro location ⟨count, hcount, rfl⟩
    exact ⟨count + 1, Nat.succ_le_succ hcount, rfl⟩
  | case6 tree directory name components location hplace hentry ih =>
    obtain rfl := eq_child_of_placeBelow hplace
    refine ih.mono (List.Subset.refl _) ?_
    rintro _ ⟨count, hcount, rfl⟩
    exact ⟨count + 1, Nat.succ_le_succ hcount, rfl⟩
  | case8 tree directory name components location hplace hentry ih =>
    obtain rfl := eq_child_of_placeBelow hplace
    refine (KeepsOutside.putDirectory hentry ⟨1, by simp, rfl⟩).trans
      (ih.mono (List.Subset.refl _) ?_)
    rintro _ ⟨count, hcount, rfl⟩
    exact ⟨count + 1, Nat.succ_le_succ hcount, rfl⟩

/-- Some of the components of a path lead through no place that all of them do not lead through. -/
theorem keepsOutside_makeDirectoriesFrom_of_prefix {path : Path} {components : List Path.Component}
    (hstarts : components <+: path.components) (tree : FileTree) :
    KeepsOutside [] path.LeadsAlong tree (tree.makeDirectoriesFrom .home components).1 := by
  refine (keepsOutside_makeDirectoriesFrom tree .home components).mono (List.Subset.refl _) ?_
  rintro _ ⟨count, hcount, rfl⟩
  obtain ⟨rest, hrest⟩ := hstarts
  refine ⟨count, ?_, ?_⟩
  · rw [← hrest, List.length_append]
    omega
  · rw [← hrest, List.take_append_of_le_length hcount]

/-- Making the directories of a path puts directories where nothing stood, at places along the path,
and changes nothing else, whether or not it succeeds. -/
theorem keepsOutside_makeDirectories (tree : FileTree) (path : Path) :
    KeepsOutside [] path.LeadsAlong tree (tree.makeDirectories path).1 := by
  unfold makeDirectories
  split
  · exact .refl _ _ _
  · split
    · exact keepsOutside_makeDirectoriesFrom_of_prefix (List.dropLast_prefix _) tree
    · exact keepsOutside_makeDirectoriesFrom_of_prefix (List.prefix_refl _) tree

/-- No entry has a name as long as a fresh one. -/
theorem length_le_longestName {tree : FileTree} {location : Location} {entry : TreeEntry}
    {name : String} (hmem : (location, entry) ∈ tree.entries)
    (hname : location.names.getLast? = some name) : name.length ≤ tree.longestName := by
  unfold longestName
  suffices h : ∀ (entries : List (Location × TreeEntry)) (start : Nat),
      start ≤ entries.foldl
        (fun longest entry => max longest (entry.1.names.getLast?.getD "").length) start ∧
      ((location, entry) ∈ entries → name.length ≤ entries.foldl
        (fun longest entry => max longest (entry.1.names.getLast?.getD "").length) start) from
    (h tree.entries 0).2 hmem
  intro entries
  induction entries with
  | nil => simp
  | cons other entries ih =>
    intro start
    obtain ⟨hstart, hrest⟩ := ih (max start (other.1.names.getLast?.getD "").length)
    refine ⟨Nat.le_trans (Nat.le_max_left _ _) hstart, fun hcons => ?_⟩
    rcases List.mem_cons.mp hcons with rfl | hmem
    · refine Nat.le_trans ?_ hstart
      rw [hname, Option.getD_some]
      exact Nat.le_max_right _ _
    · exact hrest hmem

/-- Nothing stands at a fresh name, in whichever directory. -/
theorem entry?_child_freshName (tree : FileTree) (directory : Location) :
    tree.entry? (directory.child tree.freshName) = none := by
  unfold entry?
  rw [if_neg (by simp [Location.child]), List.lookup_eq_none_iff]
  rintro ⟨location, entry⟩ hmem
  refine bne_iff_ne.mpr ?_
  rintro rfl
  have hlast : (directory.child tree.freshName).names.getLast? = some tree.freshName := by
    simp [Location.child]
  have hlength := length_le_longestName hmem hlast
  simp [freshName] at hlength
  omega

/-- A temporary file is put where nothing stood, under a name that ends in a zero. -/
theorem createTemporary_eq_ok {tree changed : FileTree} {path : Path} {location : Location}
    (h : tree.createTemporary path = .ok (changed, location)) :
    tree.entry? location = none ∧ location.EndsIn '0' ∧
      changed = tree.put location (.file "") := by
  simp only [createTemporary, bind, Except.bind] at h
  split at h
  · cases h
  · next directory _ =>
    cases h
    refine ⟨entry?_child_freshName tree directory, ⟨tree.freshName, ?_, ?_⟩, rfl⟩
    · simp [Location.child]
    · simp [freshName, List.replicate_succ', List.getLast?_cons]

/-- A renamed file stands where the path leads, with the contents that it had, and no longer where
it was. -/
theorem rename_eq_ok {tree changed : FileTree} {source : Location} {path : Path}
    (h : tree.rename source path = .ok changed) :
    ∃ entry, tree.entry? source = some entry ∧
      changed = (tree.erase source).put path.place entry := by
  simp only [rename, bind, Except.bind] at h
  split at h
  · cases h
  · next destination hplace =>
    obtain rfl := eq_place_of_placeAt hplace
    split at h
    · cases h
    · cases h
    · next entry hentry _ => exact ⟨entry, hentry, (Except.ok.inj h).symm⟩

/-- A removed file no longer stands where the path leads. -/
theorem remove_eq_ok {tree changed : FileTree} {path : Path} (h : tree.remove path = .ok changed) :
    changed = tree.erase path.place := by
  simp only [remove, bind, Except.bind] at h
  split at h
  · cases h
  · next location hplace =>
    obtain rfl := eq_place_of_placeAt hplace
    split at h
    · cases h
    · cases h
    · exact (Except.ok.inj h).symm

end PersistenceLayer.FileTree
