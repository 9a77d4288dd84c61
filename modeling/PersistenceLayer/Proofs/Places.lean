import PersistenceLayer.Proofs.PathComponents
import PersistenceLayer.Run.FileTree

/-!
# Where paths lead

A path leads to a place whatever stands on the way: the components are followed
one by one from the home directory. Whenever an operation of a tree finds a
place for a path it is this one, so the places of two paths can be told apart
without looking at any tree. Paths below one directory that are made of names
only lead to the same place exactly if they have the same components.
-/

namespace PersistenceLayer

namespace Location

/-- The place that is one component further on. -/
def advance (location : Location) : Path.Component → Location
  | .root => ⟨.root, []⟩
  | .current => location
  | .parent => location.parent
  | .normal name => location.child name

/-- The place that components lead to. -/
def follow (location : Location) (components : List Path.Component) : Location :=
  components.foldl advance location

@[simp] theorem follow_nil (location : Location) : location.follow [] = location := rfl

@[simp] theorem follow_cons (location : Location) (component : Path.Component)
    (components : List Path.Component) :
    location.follow (component :: components) =
      (location.advance component).follow components := rfl

theorem follow_append (location : Location) (before after : List Path.Component) :
    location.follow (before ++ after) = (location.follow before).follow after :=
  List.foldl_append

/-- Names lead down into the directories of these names. -/
theorem follow_map_normal (location : Location) (names : List String) :
    location.follow (names.map .normal) = { location with names := location.names ++ names } := by
  induction names generalizing location with
  | nil => simp
  | cons name names ih => simp [ih, advance, child]

/-- Whether the last name of a place ends in a character. -/
def EndsIn (location : Location) (c : Char) : Prop :=
  ∃ name, location.names.getLast? = some name ∧ name.toList.getLast? = some c

/-- A place with a last name is not an anchor. -/
theorem EndsIn.names_ne_nil {location : Location} {c : Char} (h : location.EndsIn c) :
    location.names ≠ [] := by
  obtain ⟨name, hname, -⟩ := h
  rintro hnil
  simp [hnil] at hname

/-- Places that end in different characters are different. -/
theorem EndsIn.ne {location other : Location} {c d : Char} (h : location.EndsIn c)
    (hother : other.EndsIn d) (hne : c ≠ d) : location ≠ other := by
  rintro rfl
  obtain ⟨name, hname, hc⟩ := h
  obtain ⟨_, hsame, hd⟩ := hother
  obtain rfl := Option.some.inj (hname.symm.trans hsame)
  exact hne (Option.some.inj (hc.symm.trans hd))

end Location

namespace Path

/-- The place that a path leads to. -/
def place (path : Path) : Location := Location.home.follow path.components

/-- Whether a path leads to a place with some of its components, from the first one on. -/
def LeadsAlong (path : Path) (location : Location) : Prop :=
  ∃ count ≤ path.components.length, Location.home.follow (path.components.take count) = location

/-- Whether a path leads through a place on the way to its own. -/
def LeadsThrough (path : Path) (location : Location) : Prop :=
  ∃ count < path.components.length, Location.home.follow (path.components.take count) = location

/-- What lies along the parent of a path lies on the way to the place of the path. -/
theorem leadsThrough_of_parent? {path : Path} {name : String} (hname : path.lastName? = some name) :
    ∃ directory, path.parent? = some directory ∧
      ∀ location, directory.LeadsAlong location → path.LeadsThrough location := by
  obtain ⟨directory, hparent, hcomponents⟩ := parent?_of_lastName? hname
  refine ⟨directory, hparent, ?_⟩
  rintro location ⟨count, hcount, hlocation⟩
  rw [hcomponents] at hcount hlocation
  refine ⟨count, ?_, ?_⟩
  · rw [components_of_lastName? hname, List.length_append, List.length_singleton]
    omega
  · rw [← hlocation, components_of_lastName? hname,
      List.take_append_of_le_length (by simpa using hcount)]
    simp

/-- A path made of names leads down from the place of the path it is below. -/
theorem place_join {path other : Path} (hnormal : other.isNormal = true) :
    (path.join other).place = path.place.follow other.components := by
  rw [place, components_join hnormal, Location.follow_append, place]

/-- The components of a path made of names are these names. -/
theorem exists_names {path : Path} (hnormal : path.isNormal = true) :
    ∃ names : List String, path.components = names.map .normal := by
  have hcomponents := isNormal_iff.mp hnormal
  generalize path.components = components at hcomponents
  induction components with
  | nil => exact ⟨[], rfl⟩
  | cons component components ih =>
    obtain ⟨name, rfl⟩ := hcomponents component List.mem_cons_self
    obtain ⟨names, rfl⟩ := ih fun other hother => hcomponents other (List.mem_cons_of_mem _ hother)
    exact ⟨name :: names, rfl⟩

/-- Below one directory, paths made of names lead to the same place only if they have the same
components. -/
theorem components_eq_of_place_join_eq {path first second : Path} (hfirst : first.isNormal = true)
    (hsecond : second.isNormal = true)
    (hplace : (path.join first).place = (path.join second).place) :
    first.components = second.components := by
  rw [place_join hfirst, place_join hsecond] at hplace
  obtain ⟨names, hnames⟩ := exists_names hfirst
  obtain ⟨others, hothers⟩ := exists_names hsecond
  rw [hnames, hothers, Location.follow_map_normal, Location.follow_map_normal] at hplace
  rw [hnames, hothers, List.append_cancel_left (congrArg Location.names hplace)]

/-- A path whose last character is neither a slash nor a dot leads to a place that ends in it. -/
theorem place_endsIn {path : Path} {c : Char} (hlast : path.text.toList.getLast? = some c)
    (hslash : c ≠ '/') (hdot : c ≠ '.') : path.place.EndsIn c := by
  obtain ⟨name, hname, hc⟩ := lastName?_of_getLast? hlast hslash hdot
  refine ⟨name, ?_, hc⟩
  rw [place, components_of_lastName? hname, Location.follow_append]
  simp [Location.advance, Location.child]

end Path

namespace FileTree

/-- The place one name below a directory does not depend on what stands there. -/
theorem eq_child_of_placeBelow {directory location : Location} {name : String}
    (h : placeBelow directory name = .ok location) : location = directory.child name := by
  unfold placeBelow at h
  split at h
  · cases h
  · exact (Except.ok.inj h).symm

/-- Components lead a walk through a tree to where they lead. -/
theorem eq_follow_of_walk {tree : FileTree} {directory location : Location}
    {components : List Path.Component} (h : tree.walk directory components = .ok location) :
    location = directory.follow components := by
  induction components generalizing directory with
  | nil => cases h; rfl
  | cons component components ih =>
    rw [walk] at h
    cases henter : tree.enter directory component with
    | error obstruction => rw [henter] at h; cases h
    | ok next =>
      rw [henter] at h
      rw [Location.follow_cons, ih h]
      congr 1
      cases component with
      | root | current | parent => cases henter; rfl
      | normal name =>
        simp only [enter, bind, Except.bind] at henter
        split at henter
        · cases henter
        · next hplace =>
          split at henter <;> cases henter
          exact eq_child_of_placeBelow hplace

/-- The place that a tree finds for a path is where the path leads. -/
theorem eq_place_of_placeAt {tree : FileTree} {path : Path} {location : Location}
    (h : tree.placeAt path = .ok location) : location = path.place := by
  unfold placeAt at h
  cases hname : path.lastName? with
  | none =>
    simp only [hname, bind, Except.bind] at h
    split at h <;> cases h
  | some name =>
    simp only [hname, bind, Except.bind] at h
    split at h
    · cases h
    · split at h
      · cases h
      · next directory hwalk =>
        rw [eq_child_of_placeBelow h, eq_follow_of_walk hwalk, Path.place,
          Path.components_of_lastName? hname, Location.follow_append, List.dropLast_concat]
        rfl

end FileTree

end PersistenceLayer
