import PersistenceLayer.Proofs.ArtifactPaths
import PersistenceLayer.Proofs.IdentifierNames
import PersistenceLayer.Proofs.RollBack

/-!
# Confinement

The path of an artifact is made of names unless a segment of the package starts
with a slash, which takes the path back to the root. As long as no package has
such a segment, a run changes nothing outside the output directory, whatever
steps fail on the way, except that it makes the directories that lead there.
-/

namespace PersistenceLayer

/-! ## Paths of packages -/

/-- The segments of a text are made of its characters. -/
theorem Text.mem_of_mem_segments {separator c : Char} {chars segment : List Char}
    (h : segment ∈ segments separator chars) (hc : c ∈ segment) : c ∈ chars := by
  induction chars generalizing segment with
  | nil =>
    rw [List.mem_singleton.mp h] at hc
    cases hc
  | cons d chars ih =>
    obtain ⟨first, rest, hsegments⟩ :=
      List.exists_cons_of_ne_nil (segments_ne_nil separator chars)
    rw [segments, hsegments] at h
    rw [hsegments] at ih
    split at h
    · rcases List.mem_cons.mp h with rfl | hmem
      · cases hc
      · exact List.mem_cons_of_mem _ (ih hmem hc)
    · rcases List.mem_cons.mp h with rfl | hmem
      · rcases List.mem_cons.mp hc with rfl | hc
        · exact List.mem_cons_self
        · exact List.mem_cons_of_mem _ (ih List.mem_cons_self hc)
      · exact List.mem_cons_of_mem _ (ih (List.mem_cons_of_mem _ hmem) hc)

/-- Whether the directory of a package lies below where it starts: none of its segments starts with
a slash. -/
def LeadsDown (packageName : String) : Prop :=
  ∀ segment ∈ Text.splitAt '.' packageName, segment.toList.head? ≠ some '/'

namespace Path

/-- A path without dots is made of names unless it starts at the root. -/
theorem isNormal_iff_of_notMem {path : Path} (hdot : '.' ∉ path.text.toList) :
    path.isNormal = true ↔ path.isAbsolute = false := by
  refine ⟨fun h => (components_of_isNormal h).1, fun habsolute => ?_⟩
  obtain ⟨first, rest, hsplit⟩ := List.exists_cons_of_ne_nil (Text.splitAt_ne_nil '/' path.text)
  have hfree : ∀ segment ∈ first :: rest, '.' ∉ segment.toList := by
    intro segment hsegment hmem
    rw [← hsplit] at hsegment
    obtain ⟨chars, hchars, rfl⟩ := List.mem_map.mp hsegment
    exact hdot (Text.mem_of_mem_segments hchars (by simpa using hmem))
  have hne : first ≠ "." := by
    rintro rfl
    exact hfree _ List.mem_cons_self (by decide)
  rw [isNormal_iff, components_of_splitAt hsplit, habsolute]
  simp only [Bool.false_eq_true, if_false, if_neg hne, List.mem_filterMap]
  rintro component ⟨segment, hsegment, hcomponent⟩
  unfold component? at hcomponent
  split at hcomponent
  · cases hcomponent
  · split at hcomponent
    · next hparent =>
      rw [hparent] at hsegment
      exact absurd (by decide) (hfree _ hsegment)
    · exact ⟨segment, (Option.some.inj hcomponent).symm⟩

/-- A path that goes on with names is made of names if it was before. -/
theorem isNormal_join_iff {path other : Path} (hother : other.isNormal = true) :
    (path.join other).isNormal = true ↔ path.isNormal = true := by
  rw [isNormal_iff, isNormal_iff, components_join hother, List.forall_mem_append,
    and_iff_left (isNormal_iff.mp hother)]

/-- Segments without dots lead down, one after the other, unless one starts with a slash. -/
theorem isNormal_foldl_join {segments : List String}
    (hdots : ∀ segment ∈ segments, '.' ∉ segment.toList) (path : Path) :
    (segments.foldl (fun path segment => path.join ⟨segment⟩) path).isNormal = true ↔
      path.isNormal = true ∧ ∀ segment ∈ segments, (Path.mk segment).isAbsolute = false := by
  induction segments generalizing path with
  | nil => simp
  | cons segment segments ih =>
    obtain ⟨hdot, hdots⟩ := List.forall_mem_cons.mp hdots
    have hnormal : (Path.mk segment).isNormal = true ↔ (Path.mk segment).isAbsolute = false :=
      isNormal_iff_of_notMem hdot
    rw [List.foldl_cons, ih hdots, List.forall_mem_cons, ← and_assoc]
    refine and_congr_left fun _ => ?_
    cases habsolute : (Path.mk segment).isAbsolute with
    | false => simp [isNormal_join_iff (hnormal.mpr habsolute)]
    | true =>
      -- The segment replaces the path so far, and then neither side holds.
      have hjoin : path.join ⟨segment⟩ = ⟨segment⟩ := by simp [join, habsolute]
      simp [hjoin, Bool.eq_false_iff, hnormal, habsolute]

/-- The directory of a package is reached by names exactly if the package leads down. -/
theorem isNormal_ofPackage_iff {packageName : String} :
    (ofPackage packageName).isNormal = true ↔ LeadsDown packageName := by
  have hdots : ∀ segment ∈ (Text.splitAt '.' packageName).filter (· ≠ ""),
      '.' ∉ segment.toList := by
    intro segment hsegment
    obtain ⟨chars, hchars, rfl⟩ := List.mem_map.mp (List.mem_of_mem_filter hsegment)
    simpa using Text.not_mem_of_mem_segments hchars
  rw [ofPackage, isNormal_foldl_join hdots]
  constructor
  · rintro ⟨-, h⟩ segment hsegment hhead
    have hne : segment ≠ "" := by
      rintro rfl
      cases hhead
    simpa [isAbsolute, hhead] using h segment (List.mem_filter.mpr ⟨hsegment, by simpa using hne⟩)
  · intro h
    refine ⟨by decide, fun segment hsegment => ?_⟩
    simpa [isAbsolute] using h segment (List.mem_of_mem_filter hsegment)

end Path

/-- The file name of an artifact is a single name. -/
theorem Kind.components_fileName (kind : Kind) {entity : String}
    (hentity : Text.isIdentifier entity = true) :
    (Path.mk (kind.fileName entity)).components = [.normal (kind.fileName entity)] := by
  obtain ⟨suffix, hfree, ⟨c, hc, hlast⟩, hname⟩ := exists_fileName_eq kind entity
  have hword : '/' ∉ (Text.capitalized entity).toList := fun hmem =>
    absurd ((Text.isWord_iff.mp (Text.isWord_capitalized hentity)).2 _ hmem) (by decide)
  have hslash : '/' ∉ (kind.fileName entity).toList := by
    rw [hname]
    split <;> simp [hword, hfree]
  have hend : (kind.fileName entity).toList.getLast? = some c := by
    rw [hname, String.toList_append, List.getLast?_append, hlast]
    rfl
  have hdot : c ≠ '.' := by
    rintro rfl
    exact absurd hc (by decide)
  exact Path.components_of_notMem hslash hend hdot

/-- A file is called by a single normal component. -/
theorem Kind.isNormal_fileName (kind : Kind) {entity : String}
    (hentity : Text.isIdentifier entity = true) :
    (Path.mk (kind.fileName entity)).isNormal = true := by
  rw [Path.isNormal_iff, kind.components_fileName hentity]
  simp

/-- The path of an artifact is made of names exactly if the package leads down. -/
theorem Kind.isNormal_relativePath_iff {kind : Kind} {entity packageName : String}
    (hentity : Text.isIdentifier entity = true) :
    (kind.relativePath entity packageName).isNormal = true ↔ LeadsDown packageName := by
  rw [relativePath, Path.isNormal_join_iff (kind.isNormal_fileName hentity),
    Path.isNormal_ofPackage_iff]

/-! ## Places below a directory -/

/-- Whether a place lies below a directory, which does not lie below itself. -/
def Location.IsBelow (location directory : Location) : Prop :=
  ∃ names ≠ [], location = { directory with names := directory.names ++ names }

namespace Path

/-- Whether a path goes on with names from another one, or does not go on. -/
def IsWithin (path output : Path) : Prop :=
  ∃ names : List String, path.components = output.components ++ names.map .normal

variable {path output : Path}

/-- What lies along a path that goes on with names lies below the other path or along it. -/
theorem IsWithin.isBelow_or_leadsAlong (h : path.IsWithin output) {location : Location}
    (halong : path.LeadsAlong location) :
    location.IsBelow output.place ∨ output.LeadsAlong location := by
  obtain ⟨names, hnames⟩ := h
  obtain ⟨count, hcount, rfl⟩ := halong
  rw [hnames, List.length_append, List.length_map] at hcount
  rw [hnames, List.take_append, Location.follow_append, ← List.map_take,
    Location.follow_map_normal]
  -- A place along the path is reached before its names begin, or by some of them.
  by_cases hmore : output.components.length < count
  · left
    rw [List.take_of_length_le hmore.le]
    refine ⟨names.take (count - output.components.length), fun hnil => ?_, rfl⟩
    have hlength := congrArg List.length hnil
    simp only [List.length_take, List.length_nil] at hlength
    omega
  · right
    refine ⟨count, by omega, ?_⟩
    simp [Nat.sub_eq_zero_of_le (Nat.le_of_not_lt hmore)]

/-- What lies in the directory at a path that goes on with names lies below the other path. -/
theorem IsWithin.isBelow_child (h : path.IsWithin output) (name : String) :
    (path.place.child name).IsBelow output.place := by
  obtain ⟨names, hnames⟩ := h
  refine ⟨names ++ [name], by simp, ?_⟩
  rw [place, hnames, Location.follow_append, Location.follow_map_normal]
  simp [Location.child, place]

end Path

/-- An artifact with a path of names is published below the output directory, in a directory that
lies within it. -/
theorem Artifact.isBelow_of_isNormal {artifact : Artifact} (hnormal : artifact.path.isNormal = true)
    (hsource : artifact.NamesSource) (output : Path) :
    (artifact.destination output).place.IsBelow output.place ∧
      ∃ directory, (artifact.destination output).parent? = some directory ∧
        directory.IsWithin output := by
  obtain ⟨name, hown⟩ := hsource.exists_lastName?
  have hname : (artifact.destination output).lastName? = some name :=
    (Path.lastName?_join output artifact.path).trans hown
  obtain ⟨directory, hdirectory, hcomponents⟩ := Path.parent?_of_lastName? hname
  have hdestination := Path.components_of_lastName? hname
  obtain ⟨names, hnames⟩ := Path.exists_names hnormal
  have hjoin : (artifact.destination output).components =
      output.components ++ names.map .normal := by
    rw [← hnames]
    exact Path.components_join hnormal
  have hne : names ≠ [] := by
    rintro rfl
    have hlast := Path.components_of_lastName? hown
    rw [hnames] at hlast
    simp at hlast
  have hwithin : directory.IsWithin output := by
    refine ⟨names.dropLast, ?_⟩
    change directory.components = (artifact.destination output).components.dropLast at hcomponents
    rw [hcomponents, hjoin, List.dropLast_append_of_ne_nil (by simpa using hne), List.map_dropLast]
  refine ⟨⟨names, hne, ?_⟩, directory, hdirectory, hwithin⟩
  rw [Path.place, hjoin, Location.follow_append, Location.follow_map_normal, Path.place]

/-- Whether a staged artifact lies below the output directory, and will when it is published. -/
def Staged.IsBelow (staged : Staged Location) (output : Path) : Prop :=
  staged.temporary.IsBelow output.place ∧ staged.destination.place.IsBelow output.place

/-! ## Changes below a directory -/

namespace FileTree

/-- Whether two trees agree outside a directory, but for directories that are made on the way to
it. -/
def ChangesOnlyBelow (output : Path) (before after : FileTree) : Prop :=
  ∀ location, ¬ location.IsBelow output.place →
    after.entry? location = before.entry? location ∨
      before.entry? location = none ∧ after.entry? location = some .directory ∧
        output.LeadsAlong location

variable {output : Path} {before middle after : FileTree}

/-- Changes at some places below the directory are changes below it. -/
theorem KeepsOutside.changesOnlyBelow {places : List Location} {isMade : Location → Prop}
    (h : KeepsOutside places isMade before after)
    (hplaces : ∀ location ∈ places, location.IsBelow output.place)
    (hmade : ∀ location, isMade location →
      location.IsBelow output.place ∨ output.LeadsAlong location) :
    ChangesOnlyBelow output before after := by
  intro location hlocation
  refine (h location fun hmem => hlocation (hplaces location hmem)).imp_right ?_
  rintro ⟨hnone, hdirectory, hplace⟩
  exact ⟨hnone, hdirectory, (hmade location hplace).resolve_left hlocation⟩

namespace ChangesOnlyBelow

/-- A tree that is left alone changes nowhere. -/
theorem refl (output : Path) (tree : FileTree) : ChangesOnlyBelow output tree tree :=
  fun _ _ => .inl rfl

/-- Changes add up. -/
theorem trans (h : ChangesOnlyBelow output before middle)
    (h' : ChangesOnlyBelow output middle after) : ChangesOnlyBelow output before after := by
  intro location hlocation
  rcases h' location hlocation with hsame | ⟨hnone, hmade⟩
  · rw [hsame]
    exact h location hlocation
  · rcases h location hlocation with hsame | ⟨-, hdirectory, -⟩
    · exact .inr ⟨hsame ▸ hnone, hmade⟩
    · rw [hnone] at hdirectory
      cases hdirectory

variable {location : Location}

/-- The files outside the directory are the same in both trees. -/
theorem contents?_eq (h : ChangesOnlyBelow output before after)
    (hlocation : ¬ location.IsBelow output.place) :
    after.contents? location = before.contents? location := by
  rcases h location hlocation with hsame | ⟨hnone, hdirectory, -⟩
  · simp [contents?, hsame]
  · simp [contents?, hnone, hdirectory]

variable (hlocation : location.IsBelow output.place)

include hlocation

/-- An entry that is put below the output changes nothing elsewhere. -/
theorem put (tree : FileTree) (entry : TreeEntry) :
    ChangesOnlyBelow output tree (tree.put location entry) := by
  have hkeeps : KeepsOutside [location] (fun _ => False) tree (tree.put location entry) :=
    .put (List.mem_singleton_self location) entry
  exact hkeeps.changesOnlyBelow (by simpa using hlocation) fun _ h => h.elim

/-- An entry that is erased below the output changes nothing elsewhere. -/
theorem erase (tree : FileTree) : ChangesOnlyBelow output tree (tree.erase location) := by
  have hkeeps : KeepsOutside [location] (fun _ => False) tree (tree.erase location) :=
    .erase (List.mem_singleton_self location)
  exact hkeeps.changesOnlyBelow (by simpa using hlocation) fun _ h => h.elim

end ChangesOnlyBelow

/-- A temporary file is created in the directory that the path leads to. -/
theorem exists_child_of_createTemporary {tree changed : FileTree} {path : Path}
    {location : Location} (h : tree.createTemporary path = .ok (changed, location)) :
    ∃ name, location = path.place.child name := by
  simp only [createTemporary, directoryAt, bind, Except.bind] at h
  split at h
  · cases h
  · next directory hdirectory =>
    split at hdirectory
    · cases hdirectory
    · cases h
      exact ⟨tree.freshName, by rw [eq_follow_of_walk hdirectory]; rfl⟩

end FileTree

/-! ## Confined actions -/

namespace Disk

open FileTree (ChangesOnlyBelow)

/-- Whether an action changes a disk below the output directory only, at each of its steps, and
returns a value of some kind. -/
def Confined {α : Type} (output : Path) (action : StateM Disk α) (yields : α → Prop) : Prop :=
  ∀ ⦃disk after : Disk⦄ ⦃value : α⦄, action.run disk = (value, after) →
    yields value ∧ ChangesOnlyBelow output disk.tree after.tree ∧
      ∃ events, after.past = events ++ disk.past ∧
        ∀ event ∈ events, ChangesOnlyBelow output disk.tree event.before

variable {α β : Type} {output : Path}

/-- A result that is given without a step is confined. -/
theorem confined_pure {value : α} {yields : α → Prop} (h : yields value) :
    Confined output (pure value) yields := by
  intro disk after _ hrun
  obtain ⟨rfl, rfl⟩ := Prod.mk.inj hrun
  exact ⟨h, .refl _ _, [], rfl, by simp⟩

/-- One confined action after another is confined. -/
theorem Confined.bind {action : StateM Disk α} {next : α → StateM Disk β} {yields : α → Prop}
    {yields' : β → Prop} (h : Confined output action yields)
    (hnext : ∀ value, yields value → Confined output (next value) yields') :
    Confined output (action >>= next) yields' := by
  intro disk after value hrun
  rw [run_bind] at hrun
  rcases hfirst : action.run disk with ⟨first, middle⟩
  rw [hfirst] at hrun
  obtain ⟨hyields, hchanges, events, hpast, hevents⟩ := h hfirst
  obtain ⟨hyields', hchanges', later, hpast', hlater⟩ := hnext first hyields hrun
  -- What the second action finds at its steps differs from the first tree by both changes.
  refine ⟨hyields', hchanges.trans hchanges', later ++ events,
    by rw [hpast', hpast, List.append_assoc], ?_⟩
  rw [List.forall_mem_append]
  exact ⟨fun event hevent => hchanges.trans (hlater event hevent), hevents⟩

/-- A step is confined if its change and every part of it are. -/
theorem confined_take (step : Step) (change : FileTree → FileTree × Except Obstruction α)
    {yields : Except String α → Prop}
    (hpartly : ∀ parts tree, ChangesOnlyBelow output tree (step.partly parts tree))
    (hchange : ∀ tree, ChangesOnlyBelow output tree (change tree).1)
    (hyields : ∀ tree, yields ((change tree).2.mapError Obstruction.message))
    (herror : ∀ reason, yields (.error reason)) : Confined output (take step change) yields := by
  intro disk after result hrun
  obtain ⟨hpast, ⟨parts, reason, rfl, htree⟩ | ⟨outcome, houtcome, rfl⟩⟩ := run_take _ _ hrun
  · exact ⟨herror reason, htree ▸ hpartly parts disk.tree, [_], hpast,
      by simp [ChangesOnlyBelow.refl]⟩
  · have hyields := hyields disk.tree
    have hchange := hchange disk.tree
    rw [houtcome] at hyields hchange
    exact ⟨hyields, hchange, [_], hpast, by simp [ChangesOnlyBelow.refl]⟩

/-- An action whose result is ignored is confined if it is. -/
theorem Confined.ignored {action : StateM Disk α} {yields : α → Prop}
    (h : Confined output action yields) :
    Confined output (do let _ ← action : StateM Disk Unit) fun _ => True :=
  h.bind fun _ _ => confined_pure trivial

/-! ### Steps -/

section Steps

variable {path : Path} {location : Location}

/-- Directories are made below the output only, on the way to a path within it. -/
theorem confined_makeDirectories (hpath : path.IsWithin output) :
    Confined output (storage.makeDirectories path) fun _ => True := by
  have hkeeps {before after : FileTree}
      (h : FileTree.KeepsOutside [] path.LeadsAlong before after) :
      ChangesOnlyBelow output before after :=
    h.changesOnlyBelow (by simp) fun _ => hpath.isBelow_or_leadsAlong
  refine confined_take (.makeDirectories path) (fun tree => tree.makeDirectories path)
    (fun parts tree => hkeeps ?_) (fun tree => hkeeps ?_) (fun _ => trivial) fun _ => trivial
  · exact FileTree.keepsOutside_makeDirectoriesFrom_of_prefix (List.take_prefix _ _) tree
  · exact FileTree.keepsOutside_makeDirectories tree path

/-- A temporary file is created below the output if its directory is a path within it. -/
theorem confined_createTemporary (hpath : path.IsWithin output) :
    Confined output (storage.createTemporary path)
      fun result => ∀ temporary, result = .ok temporary → temporary.IsBelow output.place := by
  have hcreate (tree : FileTree) : ChangesOnlyBelow output tree (newTemporary path tree).1 ∧
      ∀ temporary, (newTemporary path tree).2.mapError Obstruction.message = .ok temporary →
        temporary.IsBelow output.place := by
    unfold newTemporary
    split
    · next changed temporary hcreated =>
      obtain ⟨name, rfl⟩ := FileTree.exists_child_of_createTemporary hcreated
      obtain ⟨-, -, rfl⟩ := FileTree.createTemporary_eq_ok hcreated
      refine ⟨.put (hpath.isBelow_child name) tree _, ?_⟩
      intro temporary htemporary
      obtain rfl := Except.ok.inj htemporary
      exact hpath.isBelow_child name
    · exact ⟨.refl _ _, fun _ h => nomatch h⟩
  exact confined_take (.createTemporary path) (newTemporary path) (fun _ tree => .refl _ tree)
    (fun tree => (hcreate tree).1) (fun tree => (hcreate tree).2) (fun _ _ h => nomatch h)

/-- A temporary file below the output is filled there. -/
theorem confined_fillTemporary (hlocation : location.IsBelow output.place) (contents : String) :
    Confined output (storage.fillTemporary location contents) fun _ => True :=
  confined_take (.fillTemporary location contents)
    (fun tree => (tree.put location (.file contents), .ok ()))
    (fun _ tree => .put hlocation tree _) (fun tree => .put hlocation tree _)
    (fun _ => trivial) fun _ => trivial

/-- A file below the output is moved there to a path below the output. -/
theorem confined_publish (hlocation : location.IsBelow output.place)
    (hpath : path.place.IsBelow output.place) :
    Confined output (storage.publish location path) fun _ => True := by
  refine confined_take (.publish location path) (attempt fun tree => tree.rename location path)
    (fun _ tree => .refl _ tree) (fun tree => ?_) (fun _ => trivial) fun _ => trivial
  unfold attempt
  split
  · next changed hrename =>
    obtain ⟨entry, -, rfl⟩ := FileTree.rename_eq_ok hrename
    exact (ChangesOnlyBelow.erase hlocation tree).trans (.put hpath _ _)
  · exact .refl _ _

/-- A temporary file below the output is discarded there. -/
theorem confined_discard (hlocation : location.IsBelow output.place) :
    Confined output (storage.discard location) fun _ => True := by
  have hstep : Confined output
      (take (.discard location) fun tree => (tree.erase location, .ok ())) fun _ => True :=
    confined_take _ _ (fun _ tree => .refl _ tree) (fun tree => .erase hlocation tree)
      (fun _ => trivial) fun _ => trivial
  exact hstep.ignored

/-- A published file below the output is withdrawn there. -/
theorem confined_withdraw (hpath : path.place.IsBelow output.place) :
    Confined output (storage.withdraw path) fun _ => True := by
  have hremove (tree : FileTree) :
      ChangesOnlyBelow output tree (attempt (fun tree => tree.remove path) tree).1 := by
    unfold attempt
    split
    · next changed hremove =>
      obtain rfl := FileTree.remove_eq_ok hremove
      exact .erase hpath tree
    · exact .refl _ _
  have hstep : Confined output (take (.withdraw path) (attempt fun tree => tree.remove path))
      fun _ => True :=
    confined_take _ _ (fun _ tree => .refl _ tree) hremove (fun _ => trivial) fun _ => trivial
  exact hstep.ignored

end Steps

/-! ### Runs -/

section Runs

variable {artifact : Artifact} {artifacts : List Artifact}

/-- An artifact with a normal path is staged below the output. -/
theorem confined_stage (hnormal : artifact.path.isNormal = true) (hsource : artifact.NamesSource) :
    Confined output (storage.stage output artifact)
      fun result => ∀ staged, result = .ok staged → staged.IsBelow output := by
  obtain ⟨hdestination, directory, hdirectory, hwithin⟩ :=
    artifact.isBelow_of_isNormal hnormal hsource output
  change (output.join artifact.path).parent? = some directory at hdirectory
  unfold Storage.stage
  simp only [hdirectory, Option.getD_some]
  refine (confined_makeDirectories hwithin).bind fun made _ => ?_
  cases made with
  | error reason => exact confined_pure fun _ h => nomatch h
  | ok =>
    refine (confined_createTemporary hwithin).bind fun created hcreated => ?_
    cases created with
    | error reason => exact confined_pure fun _ h => nomatch h
    | ok temporary =>
      have htemporary := hcreated temporary rfl
      refine (confined_fillTemporary htemporary _).bind fun filled _ => ?_
      cases filled with
      | ok => exact confined_pure fun _ h => Except.ok.inj h ▸ ⟨htemporary, hdestination⟩
      | error reason =>
        exact (confined_discard htemporary).bind fun _ _ => confined_pure fun _ h => nomatch h

/-- Staged files below the output are discarded there. -/
theorem confined_discardAll {staged : List (Staged Location)}
    (hstaged : ∀ file ∈ staged, file.IsBelow output) :
    Confined output (storage.discardAll staged) fun _ => True := by
  induction staged with
  | nil => exact confined_pure trivial
  | cons file staged ih =>
    obtain ⟨hfile, hstaged⟩ := List.forall_mem_cons.mp hstaged
    exact (confined_discard hfile.1).bind fun _ _ => ih hstaged

/-- Published files below the output are withdrawn there. -/
theorem confined_withdrawAll {paths : List Path}
    (hpaths : ∀ path ∈ paths, path.place.IsBelow output.place) :
    Confined output (storage.withdrawAll paths) fun _ => True := by
  induction paths with
  | nil => exact confined_pure trivial
  | cons path paths ih =>
    obtain ⟨hpath, hpaths⟩ := List.forall_mem_cons.mp hpaths
    exact (confined_withdraw hpath).bind fun _ _ => ih hpaths

/-- Artifacts with normal paths are staged below the output, one after the other. -/
theorem confined_stageAll {staged : List (Staged Location)}
    (hstaged : ∀ file ∈ staged, file.IsBelow output)
    (hnormal : ∀ artifact ∈ artifacts, artifact.path.isNormal = true)
    (hsource : ∀ artifact ∈ artifacts, artifact.NamesSource) :
    Confined output (storage.stageAll output staged artifacts)
      fun result => ∀ files, result = .ok files → ∀ file ∈ files, file.IsBelow output := by
  induction artifacts generalizing staged with
  | nil => exact confined_pure fun _ h => Except.ok.inj h ▸ hstaged
  | cons artifact artifacts ih =>
    obtain ⟨hfirst, hnormal⟩ := List.forall_mem_cons.mp hnormal
    obtain ⟨hname, hsource⟩ := List.forall_mem_cons.mp hsource
    refine (confined_stage hfirst hname).bind fun result hresult => ?_
    cases result with
    | ok next =>
      refine ih (List.forall_mem_append.mpr ⟨hstaged, ?_⟩) hnormal hsource
      exact List.forall_mem_singleton.mpr (hresult next rfl)
    | error failure =>
      exact (confined_discardAll hstaged).bind fun _ _ => confined_pure fun _ h => nomatch h

/-- Staged files below the output are published there, one after the other. -/
theorem confined_publishAll {published : List Path} {staged : List (Staged Location)}
    (hpublished : ∀ path ∈ published, path.place.IsBelow output.place)
    (hstaged : ∀ file ∈ staged, file.IsBelow output) :
    Confined output (storage.publishAll published staged) fun _ => True := by
  induction staged generalizing published with
  | nil => exact confined_pure trivial
  | cons file staged ih =>
    obtain ⟨hfile, hothers⟩ := List.forall_mem_cons.mp hstaged
    refine (confined_publish hfile.1 hfile.2).bind fun result _ => ?_
    cases result with
    | ok =>
      refine ih (List.forall_mem_append.mpr ⟨hpublished, ?_⟩) hothers
      exact List.forall_mem_singleton.mpr hfile.2
    | error reason =>
      exact (confined_withdrawAll hpublished).bind fun _ _ =>
        (confined_discardAll hstaged).bind fun _ _ => confined_pure trivial

/-- Artifacts with normal paths are written below the output only. -/
theorem confined_writeArtifacts (hnormal : ∀ artifact ∈ artifacts, artifact.path.isNormal = true)
    (hsource : ∀ artifact ∈ artifacts, artifact.NamesSource) :
    Confined output (storage.writeArtifacts output artifacts) fun _ => True := by
  refine (confined_stageAll (by simp) hnormal hsource).bind fun result hresult => ?_
  cases result with
  | error failure => exact confined_pure trivial
  | ok staged => exact confined_publishAll (by simp) (hresult staged rfl)

variable {set : EntitySet} {options : Options} {claimed : ClaimedPaths} {entities : List Entity}

/-- A run stays below the output directory if the paths of its artifacts are made of names. -/
theorem confined_generateFrom (hnormal : NormalPaths options entities) :
    Confined output (storage.generateFrom output set options claimed entities) fun _ => True := by
  induction entities generalizing claimed with
  | nil => exact confined_pure trivial
  | cons entity entities ih =>
    rw [Storage.generateFrom]
    cases hprepare : Storage.prepare set options claimed entity with
    | error failure => exact confined_pure trivial
    | ok prepared =>
      obtain ⟨artifacts, claimed'⟩ := prepared
      have hrender := (EntitySet.prepare_eq_ok hprepare).1
      refine (confined_writeArtifacts (fun artifact => hnormal.isNormal List.mem_cons_self hrender)
        fun artifact => namesSource_of_mem_renderEntity hrender).bind fun result _ => ?_
      cases result with
      | error failure => exact confined_pure trivial
      | ok written =>
        refine (ih fun other hother => hnormal other (List.mem_cons_of_mem _ hother)).bind
          fun result _ => ?_
        cases result <;> exact confined_pure trivial

end Runs

end Disk

/-! ## Valid sets -/

namespace EntitySet

open Disk FileTree

/-- The path of each artifact of a valid set is made of names exactly if the package of its entity
leads down. If all packages do, a run below any output directory changes nothing outside it, at
whatever step it is looked at. -/
theorem artifacts_stay_below {set : EntitySet} (hvalid : set.isValid = true) :
    (∀ entity ∈ set.entities, ∀ kind : Kind,
      (kind.relativePath entity.name entity.packageName).isNormal = true ↔
        LeadsDown entity.packageName) ∧
    ((∀ entity ∈ set.entities, LeadsDown entity.packageName) →
      ∀ (output : Path) (options : Options) (breaksOff : Nat → Step → Option Nat)
        (tree : FileTree) (result : Except Failure (List Path)) (after : Disk),
        (storage.generateAll output set options).run (unreliable breaksOff tree) =
            (result, after) →
          ChangesOnlyBelow output tree after.tree ∧
            ∀ event ∈ after.past, ChangesOnlyBelow output tree event.before) := by
  have hpaths : ∀ entity ∈ set.entities, ∀ kind : Kind,
      (kind.relativePath entity.name entity.packageName).isNormal = true ↔
        LeadsDown entity.packageName := fun entity hentity kind =>
    Kind.isNormal_relativePath_iff (hasIdentifierNames_of_isValid hvalid entity hentity).1
  refine ⟨hpaths, fun hdown output options breaksOff tree result after hrun => ?_⟩
  have hnormal : NormalPaths options set.entities := fun entity hentity kind _ =>
    (hpaths entity hentity kind).mpr (hdown entity hentity)
  obtain ⟨-, hchanges, events, hpast, hevents⟩ := confined_generateFrom hnormal hrun
  refine ⟨hchanges, fun event hevent => hevents event ?_⟩
  rw [hpast] at hevent
  exact (List.mem_append.mp hevent).resolve_right (by simp [unreliable])

/-- The run for which there is a directory in the way changes nothing outside its output directory,
before and after it takes back what it did. -/
theorem artifacts_stay_below_blockedRun :
    userAndGroup.isValid = true ∧
      (∀ entity ∈ userAndGroup.entities, LeadsDown entity.packageName) ∧
      ChangesOnlyBelow ⟨"out"⟩ blockedTree blockedRun.2.tree ∧
      ∀ event ∈ blockedRun.2.past, ChangesOnlyBelow ⟨"out"⟩ blockedTree event.before := by
  have hvalid : userAndGroup.isValid = true := by decide
  have hdown : ∀ entity ∈ userAndGroup.entities, LeadsDown entity.packageName := by
    unfold LeadsDown
    decide
  exact ⟨hvalid, hdown, (artifacts_stay_below hvalid).2 hdown _ _ _ _ _ _
    (Prod.eta blockedRun).symm⟩

/-- A user in a package that starts with a slash. -/
def userAtRoot : EntitySet where
  entities := [{ name := "user", packageName := "/etc" }]
  names_nodup := by decide
  attributes_nodup := by decide

/-- The run that generates its client-facing data where nothing stands. -/
def rootRun : Except Failure (List Path) × Disk :=
  (storage.generateAll ⟨"out"⟩ userAtRoot { onlyData := true }).run (ofTree .empty)

/-- The set is valid, and yet its artifacts are written at the root of the tree and not below the
output directory. -/
theorem artifacts_escape_rootRun :
    userAtRoot.isValid = true ∧ Kind.contract.relativePath "user" "/etc" = ⟨"/etc/IUser.kt"⟩ ∧
      (Path.mk "/etc/IUser.kt").components = [.root, .normal "etc", .normal "IUser.kt"] ∧
      rootRun.1 = .ok [⟨"/etc/IUser.kt"⟩, ⟨"/etc/UserData.kt"⟩] ∧
      ¬ ChangesOnlyBelow ⟨"out"⟩ .empty rootRun.2.tree := by
  have hfile : (rootRun.2.tree.contents? ⟨.root, ["etc", "IUser.kt"]⟩).isSome = true := by
    decide +kernel
  refine ⟨by decide, by decide, by decide, by decide +kernel, fun h => ?_⟩
  have hbelow : ¬ Location.IsBelow ⟨.root, ["etc", "IUser.kt"]⟩ (Path.mk "out").place := by
    rintro ⟨names, -, hlocation⟩
    have hanchor : Anchor.root = (Path.mk "out").place.anchor := congrArg Location.anchor hlocation
    exact absurd hanchor (by decide)
  have hnone : FileTree.empty.contents? ⟨.root, ["etc", "IUser.kt"]⟩ = none := by decide
  rw [h.contents?_eq hbelow, hnone] at hfile
  cases hfile

end EntitySet

end PersistenceLayer
