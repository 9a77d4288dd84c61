import PersistenceLayer.Proofs.DiskSteps

/-!
# Directories that stay

A step that succeeds takes no directory away: files are put where no directory
stands, and only files are erased. So a path that could once be followed can be
followed from then on, and making its directories again changes nothing.
-/

namespace PersistenceLayer

namespace FileTree

/-- Whether every directory of a tree is one in another tree. -/
def KeepsDirectories (before after : FileTree) : Prop :=
  ∀ location, before.entry? location = some .directory → after.entry? location = some .directory

namespace KeepsDirectories

variable {before middle after : FileTree}

/-- A tree keeps its own directories. -/
theorem refl (tree : FileTree) : KeepsDirectories tree tree :=
  fun _ => id

/-- Directories that are kept twice are kept. -/
theorem trans (h : KeepsDirectories before middle) (h' : KeepsDirectories middle after) :
    KeepsDirectories before after :=
  fun location hentry => h' location (h location hentry)

/-- Directories stay if there is none at the places that change. -/
theorem of_keepsOutside {places : List Location} {isMade : Location → Prop}
    (h : KeepsOutside places isMade before after)
    (hplaces : ∀ location ∈ places, before.entry? location ≠ some .directory) :
    KeepsDirectories before after := by
  intro location hentry
  exact h.entry?_eq_some (fun hmem => hplaces location hmem hentry) hentry

end KeepsDirectories

/-! ## Walks -/

/-- Whether a place and all those above it are directories, from its anchor on. -/
def IsRooted (tree : FileTree) (location : Location) : Prop :=
  ∀ count, tree.entry? ⟨location.anchor, location.names.take count⟩ = some .directory

/-- A place with directories from its anchor on is one itself. -/
theorem IsRooted.entry? {tree : FileTree} {location : Location} (h : tree.IsRooted location) :
    tree.entry? location = some .directory := by
  simpa using h location.names.length

/-- An anchor is a directory. -/
theorem isRooted_anchor (tree : FileTree) (anchor : Anchor) : tree.IsRooted ⟨anchor, []⟩ := by
  intro count
  simp [FileTree.entry?]

variable {tree before after : FileTree} {directory location : Location}

/-- Names are entered where directories are, and the components that lead elsewhere need none. -/
theorem isRooted_of_enter {component : Path.Component}
    (h : tree.enter directory component = .ok location) (hrooted : tree.IsRooted directory) :
    tree.IsRooted location := by
  cases component with
  | root =>
    obtain rfl := Except.ok.inj h
    exact tree.isRooted_anchor _
  | current => exact Except.ok.inj h ▸ hrooted
  | parent =>
    obtain rfl := Except.ok.inj h
    unfold Location.parent
    split
    · exact tree.isRooted_anchor _
    · intro count
      simpa [List.dropLast_eq_take, List.take_take] using hrooted _
  | normal name =>
    simp only [enter, bind, Except.bind] at h
    split at h
    · cases h
    · next hplace =>
      obtain rfl := eq_child_of_placeBelow hplace
      split at h
      · cases h
      · cases h
      · next hentry =>
        obtain rfl := Except.ok.inj h
        intro count
        by_cases hcount : count ≤ directory.names.length
        · simpa [Location.child, List.take_append_of_le_length hcount] using hrooted count
        · rw [List.take_of_length_le (by simp [Location.child]; omega)]
          exact hentry

/-- A walk leads through directories only. -/
theorem entry?_of_walk {components : List Path.Component}
    (h : tree.walk directory components = .ok location) (hrooted : tree.IsRooted directory)
    (count : Nat) : tree.entry? (directory.follow (components.take count)) = some .directory := by
  induction components generalizing directory count with
  | nil => simpa using hrooted.entry?
  | cons component components ih =>
    rw [walk] at h
    cases henter : tree.enter directory component with
    | error obstruction =>
      rw [henter] at h
      cases h
    | ok next =>
      rw [henter] at h
      have hwalk : tree.walk directory [component] = .ok next := by rw [walk, henter]; rfl
      obtain rfl : next = directory.advance component := eq_follow_of_walk hwalk
      cases count with
      | zero => simpa using hrooted.entry?
      | succ count => exact ih h (isRooted_of_enter henter hrooted) count

/-- A walk still leads to the same place where all directories have stayed. -/
theorem walk_of_keepsDirectories {components : List Path.Component}
    (hkeeps : KeepsDirectories before after) (h : before.walk directory components = .ok location) :
    after.walk directory components = .ok location := by
  induction components generalizing directory with
  | nil => exact h
  | cons component components ih =>
    rw [walk] at h ⊢
    cases henter : before.enter directory component with
    | error obstruction =>
      rw [henter] at h
      cases h
    | ok next =>
      rw [henter] at h
      have hafter : after.enter directory component = .ok next := by
        cases component with
        | root | current | parent => exact henter
        | normal name =>
          simp only [enter, bind, Except.bind] at henter ⊢
          split at henter
          · cases henter
          · split at henter
            · cases henter
            · cases henter
            · next hentry =>
              rw [hkeeps _ hentry]
              exact henter
      rw [hafter]
      exact ih h

/-! ## Paths that can be followed -/

variable {path : Path}

/-- A directory that is found is where the path leads. -/
theorem directoryAt_eq_ok (h : tree.directoryAt path = .ok location) :
    checkPath path = .ok () ∧ tree.walk .home path.components = .ok location := by
  simp only [directoryAt, bind, Except.bind] at h
  split at h
  · cases h
  · next hcheck => exact ⟨hcheck, h⟩

/-- A directory that is found is still found after a change that keeps directories. -/
theorem directoryAt_of_keepsDirectories (hkeeps : KeepsDirectories before after)
    (h : before.directoryAt path = .ok location) : after.directoryAt path = .ok location := by
  obtain ⟨hcheck, hwalk⟩ := directoryAt_eq_ok h
  simp only [directoryAt, hcheck, bind, Except.bind]
  exact walk_of_keepsDirectories hkeeps hwalk

/-- A place is found in the directory that the components before the last one lead to. -/
theorem placeAt_eq_ok (h : tree.placeAt path = .ok location) :
    ∃ name directory, path.lastName? = some name ∧ checkPath path = .ok () ∧
      tree.walk .home path.components.dropLast = .ok directory ∧
      placeBelow directory name = .ok location := by
  unfold placeAt at h
  cases hname : path.lastName? with
  | none =>
    simp only [hname, bind, Except.bind] at h
    split at h <;> cases h
  | some name =>
    simp only [hname, bind, Except.bind] at h
    split at h
    · cases h
    · next hcheck =>
      split at h
      · cases h
      · next directory hwalk => exact ⟨name, directory, rfl, hcheck, hwalk, h⟩

/-- A place that is found is still found after a change that keeps directories. -/
theorem placeAt_of_keepsDirectories (hkeeps : KeepsDirectories before after)
    (h : before.placeAt path = .ok location) : after.placeAt path = .ok location := by
  obtain ⟨name, directory, hname, hcheck, hwalk, hplace⟩ := placeAt_eq_ok h
  simp only [placeAt, hname, hcheck, walk_of_keepsDirectories hkeeps hwalk, bind, Except.bind]
  exact hplace

/-- All places on the way to one that is found are directories. -/
theorem entry?_of_leadsThrough (h : tree.placeAt path = .ok location) {other : Location}
    (hthrough : path.LeadsThrough other) : tree.entry? other = some .directory := by
  obtain ⟨name, directory, hname, -, hwalk, -⟩ := placeAt_eq_ok h
  obtain ⟨count, hcount, rfl⟩ := hthrough
  have hway := entry?_of_walk hwalk (tree.isRooted_anchor _) count
  rw [List.dropLast_eq_take, List.take_take, Nat.min_eq_left (by omega)] at hway
  exact hway

/-- Directories that were made are not made again where all directories have stayed. -/
theorem makeDirectoriesFrom_of_keepsDirectories {components : List Path.Component}
    {made : FileTree} (h : before.makeDirectoriesFrom directory components = (made, .ok ()))
    (hkeeps : KeepsDirectories made after) :
    after.makeDirectoriesFrom directory components = (after, .ok ()) := by
  fun_induction makeDirectoriesFrom before directory components with
  | case1 => rfl
  | case2 tree directory components ih | case3 tree directory components ih
  | case4 tree directory components ih => exact ih h
  | case5 | case7 => cases (Prod.mk.inj h).2
  | case6 tree directory name components location hplace hentry ih =>
    have hstays := keepsOutside_makeDirectoriesFrom tree location components
    rw [h] at hstays
    rw [makeDirectoriesFrom, hplace]
    simp only [hkeeps _ (hstays.entry?_eq_some (by simp) hentry)]
    exact ih h
  | case8 tree directory name components location hplace hentry ih =>
    have hstays :=
      keepsOutside_makeDirectoriesFrom (tree.put location .directory) location components
    have hnames : location.names ≠ [] := by
      simp [eq_child_of_placeBelow hplace, Location.child]
    rw [h] at hstays
    rw [makeDirectoriesFrom, hplace]
    simp only [hkeeps _ (hstays.entry?_eq_some (by simp) (entry?_put_self hnames))]
    exact ih h

/-- Directories that have been made do not have to be made again after a change that keeps them. -/
theorem makeDirectories_of_keepsDirectories {made : FileTree}
    (h : before.makeDirectories path = (made, .ok ())) (hkeeps : KeepsDirectories made after) :
    after.makeDirectories path = (after, .ok ()) := by
  unfold makeDirectories at h ⊢
  split at h
  · cases (Prod.mk.inj h).2
  · split at h
    · next hdot =>
      rcases hmake : before.makeDirectoriesFrom .home path.components.dropLast with ⟨upper, result⟩
      simp only [hmake, bind, Except.bind] at h
      cases result with
      | error obstruction => cases (Prod.mk.inj h).2
      | ok value =>
        obtain ⟨rfl, hresult⟩ := Prod.mk.inj h
        simp only at hresult
        split at hresult
        · cases hresult
        · next hdirectory =>
          simp [hdot, makeDirectoriesFrom_of_keepsDirectories hmake hkeeps, bind, Except.bind,
            directoryAt_of_keepsDirectories hkeeps hdirectory]
          rfl
    · next hdot =>
      rw [if_neg hdot]
      exact makeDirectoriesFrom_of_keepsDirectories h hkeeps

/-- Whether a directory is there and can be entered, so that making it changes nothing. -/
structure HasDirectory (tree : FileTree) (path : Path) : Prop where
  made : tree.makeDirectories path = (tree, .ok ())
  entered : ∃ location, tree.directoryAt path = .ok location

/-- A directory stays where it is in a change that keeps directories. -/
theorem HasDirectory.of_keepsDirectories (h : before.HasDirectory path)
    (hkeeps : KeepsDirectories before after) : after.HasDirectory path := by
  obtain ⟨location, hlocation⟩ := h.entered
  exact ⟨makeDirectories_of_keepsDirectories h.made hkeeps, location,
    directoryAt_of_keepsDirectories hkeeps hlocation⟩

/-- Whether a path leads to a place in a directory that is there. -/
structure Accessible (tree : FileTree) (path : Path) : Prop where
  directory : ∀ directory, path.parent? = some directory → tree.HasDirectory directory
  found : tree.placeAt path = .ok path.place

/-- What is accessible stays so where all directories stay. -/
theorem Accessible.of_keepsDirectories (h : before.Accessible path)
    (hkeeps : KeepsDirectories before after) : after.Accessible path where
  directory := fun directory hdirectory =>
    (h.directory directory hdirectory).of_keepsDirectories hkeeps
  found := placeAt_of_keepsDirectories hkeeps h.found

end FileTree

end PersistenceLayer
