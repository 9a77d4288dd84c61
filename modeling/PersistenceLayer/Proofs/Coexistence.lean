import PersistenceLayer.Proofs.Confinement
import PersistenceLayer.Proofs.Conflicts

/-!
# Artifacts side by side

The directories of a package have no dot in their names, and every source file
has one. So no file of a valid set is a directory on the way to another one, and
no temporary file is either, unless a package has slashes in it. In an empty
directory nothing else can be in the way, so a run into one succeeds and leaves
its files and the directories on the way to them.
-/

namespace PersistenceLayer

namespace Path

/-- Whether a path is made of names, of which the last one has a dot in it and the others have
none. -/
def IsPlainFile (path : Path) : Prop :=
  ∃ (directories : List String) (name : String),
    path.components = (directories ++ [name]).map .normal ∧
      (∀ directory ∈ directories, '.' ∉ directory.toList) ∧ '.' ∈ name.toList

variable {path other : Path}

theorem IsPlainFile.isNormal (h : path.IsPlainFile) : path.isNormal = true := by
  obtain ⟨directories, name, hcomponents, -⟩ := h
  rw [isNormal_iff, hcomponents]
  intro component hmem
  obtain ⟨part, -, rfl⟩ := List.mem_map.mp hmem
  exact ⟨part, rfl⟩

/-- A plain file is not a directory on the way to another one. -/
theorem IsPlainFile.components_eq (h : path.IsPlainFile) (hother : other.IsPlainFile)
    (hstarts : path.components <+: other.components) : path.components = other.components := by
  obtain ⟨directories, name, hcomponents, -, hname⟩ := h
  obtain ⟨directories', name', hcomponents', hplain, -⟩ := hother
  rw [hcomponents, hcomponents'] at hstarts ⊢
  obtain ⟨rest, hrest⟩ := hstarts
  obtain ⟨front, back, hsplit, hfront, rfl⟩ := List.map_eq_append_iff.mp hrest.symm
  obtain rfl := (List.map_inj_right fun _ _ => Component.normal.inj).mp hfront
  rcases back.eq_nil_or_concat with rfl | ⟨back, last, rfl⟩
  · rw [hsplit, List.append_nil]
  · rw [List.concat_eq_append, ← List.append_assoc] at hsplit
    obtain ⟨rfl, -⟩ := List.append_inj' hsplit rfl
    exact absurd hname (hplain name (by simp))

/-- A plain file is no part of the path to the directory that another one lies in. -/
theorem IsPlainFile.not_prefix_parent {name : String} (h : path.IsPlainFile)
    (hother : other.IsPlainFile) (hname : other.lastName? = some name) :
    ∃ directory, other.parent? = some directory ∧
      ¬ path.components <+: directory.components := by
  obtain ⟨directory, hdirectory, hcomponents⟩ := parent?_of_lastName? hname
  refine ⟨directory, hdirectory, fun hstarts => ?_⟩
  rw [hcomponents] at hstarts
  have hsame := h.components_eq hother (hstarts.trans (List.dropLast_prefix _))
  have hlength := hstarts.length_le
  rw [hsame, components_of_lastName? hname, List.dropLast_concat, List.length_append,
    List.length_singleton] at hlength
  omega

/-- Segments with neither dots nor slashes are the components of the path that they make. -/
theorem components_foldl_join {segments : List String}
    (hsegments : ∀ segment ∈ segments, (Path.mk segment).components = [.normal segment])
    (path : Path) :
    (segments.foldl (fun path segment => path.join ⟨segment⟩) path).components =
      path.components ++ segments.map .normal := by
  induction segments generalizing path with
  | nil => simp
  | cons segment segments ih =>
    obtain ⟨hsegment, hsegments⟩ := List.forall_mem_cons.mp hsegments
    have hnormal : (Path.mk segment).isNormal = true := by
      rw [isNormal_iff, hsegment]
      simp
    rw [List.foldl_cons, ih hsegments, components_join hnormal, hsegment]
    simp

/-- The directory of a package without slashes is reached by names without dots. -/
theorem exists_components_ofPackage {packageName : String} (hslash : '/' ∉ packageName.toList) :
    ∃ directories : List String, (ofPackage packageName).components = directories.map .normal ∧
      ∀ directory ∈ directories, '.' ∉ directory.toList := by
  have hsegments : ∀ segment ∈ (Text.splitAt '.' packageName).filter (· ≠ ""),
      '.' ∉ segment.toList ∧ '/' ∉ segment.toList ∧ segment ≠ "" := by
    intro segment hsegment
    obtain ⟨hmem, hne⟩ := List.mem_filter.mp hsegment
    obtain ⟨chars, hchars, rfl⟩ := List.mem_map.mp hmem
    refine ⟨by simpa using Text.not_mem_of_mem_segments hchars, fun hmem => ?_, by simpa using hne⟩
    exact hslash (Text.mem_of_mem_segments hchars (by simpa using hmem))
  refine ⟨_, components_foldl_join (fun segment hsegment => ?_) ⟨""⟩,
    fun directory hdirectory => (hsegments directory hdirectory).1⟩
  obtain ⟨hdot, hslash, hne⟩ := hsegments segment hsegment
  exact components_of_segment hdot hslash hne

end Path

/-- The files of an entity with an identifier as its name, in a package without slashes, are plain
files. -/
theorem Kind.isPlainFile_relativePath (kind : Kind) {entity packageName : String}
    (hentity : Text.isIdentifier entity = true) (hslash : '/' ∉ packageName.toList) :
    (kind.relativePath entity packageName).IsPlainFile := by
  obtain ⟨directories, hcomponents, hplain⟩ := Path.exists_components_ofPackage hslash
  refine ⟨directories, kind.fileName entity, ?_, hplain, by simp [fileName]⟩
  rw [relativePath, Path.components_join (kind.isNormal_fileName hentity), hcomponents,
    kind.components_fileName hentity]
  simp

/-! ## Places of plain files -/

namespace Artifact

variable {artifact : Artifact}

/-- A plain file is published below the output directory, under a name with a dot. -/
theorem isBelow_of_isPlainFile (h : artifact.path.IsPlainFile) (output : Path) :
    (artifact.placeBelow output).IsBelow output.place ∧ (artifact.placeBelow output).IsDotted := by
  have hplace : (output.join artifact.path).place = output.place.follow artifact.path.components :=
    Path.place_join h.isNormal
  obtain ⟨directories, name, hcomponents, -, hname⟩ := h
  rw [hcomponents, Location.follow_map_normal] at hplace
  refine ⟨⟨directories ++ [name], by simp, hplace⟩, name, ?_, hname⟩
  unfold placeBelow destination
  rw [hplace, ← List.append_assoc, List.getLast?_concat]

/-- On the way to a plain file lie what lies along the output directory, and directories below it
under names without dots. -/
theorem leadsAlong_or_isBelow (h : artifact.path.IsPlainFile) {output : Path} {location : Location}
    (hthrough : (artifact.destination output).LeadsThrough location) :
    output.LeadsAlong location ∨ location.IsBelow output.place ∧ ¬ location.IsDotted := by
  have hjoin : (output.join artifact.path).components =
      output.components ++ artifact.path.components := Path.components_join h.isNormal
  obtain ⟨directories, name, hcomponents, hplain, -⟩ := h
  obtain ⟨count, hcount, rfl⟩ := hthrough
  unfold destination at hcount ⊢
  rw [hjoin, hcomponents, List.length_append, List.length_map, List.length_append,
    List.length_singleton] at hcount
  rw [hjoin, hcomponents, List.take_append, ← List.map_take, Location.follow_append,
    Location.follow_map_normal]
  by_cases hmore : output.components.length < count
  · right
    rw [List.take_of_length_le hmore.le, List.take_append_of_le_length (by omega)]
    have hne : directories.take (count - output.components.length) ≠ [] := by
      intro hnil
      have hlength := congrArg List.length hnil
      simp only [List.length_take, List.length_nil] at hlength
      omega
    refine ⟨⟨_, hne, rfl⟩, ?_⟩
    rintro ⟨last, hlast, hdot⟩
    rw [List.getLast?_append_of_ne_nil _ hne] at hlast
    exact hplain last (List.mem_of_mem_take (List.mem_of_getLast? hlast)) hdot
  · left
    refine ⟨count, Nat.le_of_not_lt hmore, ?_⟩
    simp [Nat.sub_eq_zero_of_le (Nat.le_of_not_lt hmore)]

end Artifact

/-! ## Empty directories -/

variable {output : Path} {tree after : FileTree} {artifacts : List Artifact}

/-- Whether a path leads through directories to one in which nothing stands. -/
structure FileTree.IsEmptyAt (tree : FileTree) (output : Path) : Prop where
  directories : ∀ location, output.LeadsAlong location → tree.entry? location = some .directory
  empty : ∀ location, location.IsBelow output.place → tree.entry? location = none

/-- Nothing is in the way of plain files in an empty directory. -/
theorem FileTree.IsEmptyAt.unobstructed (h : tree.IsEmptyAt output)
    (hplain : ∀ artifact ∈ artifacts, artifact.path.IsPlainFile) :
    Unobstructed output tree artifacts := by
  have hways : ∀ location, OnTheWay output artifacts location →
      tree.entry? location = some .directory ∨
        tree.entry? location = none ∧ ¬ location.IsDotted := by
    rintro location ⟨artifact, hmem, hthrough⟩
    obtain halong | ⟨hbelow, hdotted⟩ :=
      Artifact.leadsAlong_or_isBelow (hplain artifact hmem) hthrough
    · exact .inl (h.directories location halong)
    · exact .inr ⟨h.empty location hbelow, hdotted⟩
  have hplaces : ∀ artifact ∈ artifacts, tree.entry? (artifact.placeBelow output) = none ∧
      (artifact.placeBelow output).IsDotted := by
    intro artifact hmem
    obtain ⟨hbelow, hdotted⟩ := Artifact.isBelow_of_isPlainFile (hplain artifact hmem) output
    exact ⟨h.empty _ hbelow, hdotted⟩
  refine ⟨⟨?_, ?_⟩, ?_, ?_⟩
  · intro location contents hway hfile
    obtain hdirectory | ⟨hnone, -⟩ := hways location hway
    · cases hfile.symm.trans hdirectory
    · cases hfile.symm.trans hnone
  · intro artifact hmem hdirectory
    cases hdirectory.symm.trans (hplaces artifact hmem).1
  · intro artifact hmem hway
    obtain ⟨hnone, hdotted⟩ := hplaces artifact hmem
    obtain hdirectory | ⟨-, hplain⟩ := hways _ hway
    · cases hnone.symm.trans hdirectory
    · exact hplain hdotted
  · intro location htemporary hway
    obtain hdirectory | ⟨-, hplain⟩ := hways location hway
    · cases htemporary.free.symm.trans hdirectory
    · exact hplain htemporary.dotted

/-- What a run into an empty directory leaves: below it exactly the artifacts with their contents
and the directories on the way to them, and elsewhere what was there before. -/
structure HoldsExactly (output : Path) (before after : FileTree) (artifacts : List Artifact) :
    Prop where
  files : ∀ location contents, location.IsBelow output.place →
    (after.entry? location = some (.file contents) ↔
      ∃ artifact ∈ artifacts, artifact.placeBelow output = location ∧
        artifact.contents = contents)
  directories : ∀ location, location.IsBelow output.place →
    (after.entry? location = some .directory ↔ OnTheWay output artifacts location)
  elsewhere : ∀ location, ¬ location.IsBelow output.place →
    after.entry? location = before.entry? location

/-- Plain files that are written to an empty directory are all that it holds. -/
theorem Overwritten.holdsExactly (h : Overwritten output tree after artifacts)
    (hempty : tree.IsEmptyAt output)
    (hplain : ∀ artifact ∈ artifacts, artifact.path.IsPlainFile)
    (hplaces : (artifacts.map (·.placeBelow output)).Nodup) :
    HoldsExactly output tree after artifacts := by
  constructor
  · intro location contents hbelow
    constructor
    · intro hfile
      by_cases hmem : location ∈ artifacts.map (·.placeBelow output)
      · obtain ⟨artifact, hartifact, rfl⟩ := List.mem_map.mp hmem
        obtain ⟨rfl⟩ := (h.entry?_of_mem hplaces hartifact).symm.trans hfile
        exact ⟨artifact, hartifact, rfl, rfl⟩
      · obtain hsame | ⟨-, hdirectory, -⟩ := h.keeps location hmem
        · cases hfile.symm.trans (hsame.trans (hempty.empty location hbelow))
        · cases hfile.symm.trans hdirectory
    · rintro ⟨artifact, hartifact, rfl, rfl⟩
      exact h.entry?_of_mem hplaces hartifact
  · intro location hbelow
    refine ⟨fun hdirectory => ?_, h.entry?_of_onTheWay⟩
    by_cases hmem : location ∈ artifacts.map (·.placeBelow output)
    · obtain ⟨last, -, hfile⟩ := h.exists_file hmem
      cases hdirectory.symm.trans hfile
    · obtain hsame | ⟨-, -, hway⟩ := h.keeps location hmem
      · cases hdirectory.symm.trans (hsame.trans (hempty.empty location hbelow))
      · exact hway
  · intro location hbelow
    have hmem : location ∉ artifacts.map (·.placeBelow output) := by
      intro hmem
      obtain ⟨artifact, hartifact, rfl⟩ := List.mem_map.mp hmem
      exact hbelow (Artifact.isBelow_of_isPlainFile (hplain artifact hartifact) output).1
    refine (h.keeps location hmem).resolve_right ?_
    rintro ⟨hnone, -, artifact, hartifact, hthrough⟩
    obtain halong | ⟨hwithin, -⟩ :=
      Artifact.leadsAlong_or_isBelow (hplain artifact hartifact) hthrough
    · cases hnone.symm.trans (hempty.directories location halong)
    · exact hbelow hwithin

/-! ## Valid sets -/

namespace EntitySet

open Disk

variable {set : EntitySet} {options : Options}

/-- The artifacts of a valid set are plain files if its packages have no slashes. -/
theorem isPlainFile_of_renderAll (hvalid : set.isValid = true)
    (hpackages : ∀ entity ∈ set.entities, '/' ∉ entity.packageName.toList)
    (hrender : set.renderAll options = .ok artifacts) :
    ∀ artifact ∈ artifacts, artifact.path.IsPlainFile := by
  intro artifact hmem
  obtain ⟨entity, hentity, rendered, hrendered, hartifact⟩ :=
    exists_entity_of_mem_renderFrom hrender hmem
  obtain ⟨kind, -, hpath⟩ := exists_kind_of_mem_renderEntity hrendered hartifact
  rw [hpath]
  exact kind.isPlainFile_relativePath (hasIdentifierNames_of_isValid hvalid entity hentity).1
    (hpackages entity hentity)

/-- The artifacts of a valid set whose packages have no slashes are not in the way of each other: no
path is a leading part of another one, nor of a directory that an artifact lies in. On a disk that
refuses nothing but conflicts a run into an empty directory therefore succeeds, and the directory
holds exactly what the run in memory renders. -/
theorem artifacts_coexist (hvalid : set.isValid = true)
    (hpackages : ∀ entity ∈ set.entities, '/' ∉ entity.packageName.toList)
    (hrender : set.renderAll options = .ok artifacts) :
    (artifacts.Pairwise fun first second =>
      ¬ first.path.components <+: second.path.components ∧
        ¬ second.path.components <+: first.path.components) ∧
    (∀ first ∈ artifacts, ∀ second ∈ artifacts, ∃ directory,
      second.path.parent? = some directory ∧
        ¬ first.path.components <+: directory.components) ∧
    ∀ (output : Path) (breaksOff : Nat → Step → Option Nat) (tree : FileTree)
      (result : Except Failure (List Path)) (after : Disk),
      tree.IsEmptyAt output →
      (storage.generateAll output set options).run (unreliable breaksOff tree) = (result, after) →
      (∀ event ∈ after.past, event.succeeded = false → event.step.Conflicts event.before) →
      result = .ok (artifacts.map fun artifact => output.join artifact.path) ∧
        HoldsExactly output tree after.tree artifacts := by
  have hplain := isPlainFile_of_renderAll hvalid hpackages hrender
  have hclaims := nodup_claimsOf_of_renderFrom hrender
  refine ⟨?_, ?_, ?_⟩
  · rw [claimsOf, List.Nodup, List.pairwise_map] at hclaims
    refine hclaims.imp_of_mem fun hfirst hsecond hne => ⟨fun hstarts => ?_, fun hstarts => ?_⟩
    · exact hne ((hplain _ hfirst).components_eq (hplain _ hsecond) hstarts)
    · exact hne ((hplain _ hsecond).components_eq (hplain _ hfirst) hstarts).symm
  · intro first hfirst second hsecond
    obtain ⟨name, hname⟩ := (namesSource_of_renderFrom hrender second hsecond).exists_lastName?
    exact (hplain first hfirst).not_prefix_parent (hplain second hsecond) hname
  · intro output breaksOff tree result after hempty hrun hconflicts
    obtain ⟨hresult, hover⟩ :=
      generateAll_of_unobstructed hrender (hempty.unobstructed hplain) hrun hconflicts
    exact ⟨hresult, hover.holdsExactly hempty hplain
      (nodup_places (fun artifact hmem => (hplain artifact hmem).isNormal) hclaims)⟩

/-- A tree with an empty directory and a file beside it. -/
def emptyOutTree : FileTree :=
  ⟨[(⟨.aboveHome 0, ["out"]⟩, .directory), (⟨.aboveHome 0, ["Notes.kt"]⟩, .file "// keep")]⟩

/-- The run that generates all files of the user and the group in the empty directory. -/
def emptyOutRun : Except Failure (List Path) × Disk :=
  (storage.generateAll ⟨"out"⟩ userAndGroup {}).run (ofTree emptyOutTree)

theorem isEmptyAt_emptyOutTree : emptyOutTree.IsEmptyAt ⟨"out"⟩ := by
  have hcomponents : (Path.mk "out").components = [.normal "out"] := by decide
  constructor
  · rintro location ⟨count, hcount, rfl⟩
    rw [hcomponents] at hcount ⊢
    obtain rfl | rfl : count = 0 ∨ count = 1 := by
      simp only [List.length_singleton] at hcount
      omega
    · rfl
    · decide
  · rintro location ⟨names, hne, rfl⟩
    have hplace : (Path.mk "out").place = ⟨.aboveHome 0, ["out"]⟩ := by decide
    rw [FileTree.entry?, if_neg (by simp [hplace]), List.lookup_eq_none_iff]
    simp [emptyOutTree, hplace, hne]

/-- The run puts twelve files into the directory and leaves the one beside it. -/
theorem artifacts_coexist_emptyOutRun :
    userAndGroup.isValid = true ∧
    (∀ entity ∈ userAndGroup.entities, '/' ∉ entity.packageName.toList) ∧
    ∃ artifacts, userAndGroup.renderAll {} = .ok artifacts ∧ artifacts.length = 12 ∧
      (artifacts.Pairwise fun first second =>
        ¬ first.path.components <+: second.path.components ∧
          ¬ second.path.components <+: first.path.components) ∧
      emptyOutTree.IsEmptyAt ⟨"out"⟩ ∧ AllSucceed emptyOutRun.2.past ∧
      emptyOutRun.1 = .ok (artifacts.map fun artifact => Path.join ⟨"out"⟩ artifact.path) ∧
        HoldsExactly ⟨"out"⟩ emptyOutTree emptyOutRun.2.tree artifacts := by
  have hvalid : userAndGroup.isValid = true := by decide
  have hpackages : ∀ entity ∈ userAndGroup.entities, '/' ∉ entity.packageName.toList := by decide
  have hsucceeded : AllSucceed emptyOutRun.2.past := by
    unfold AllSucceed
    decide +kernel
  have hlength : ((userAndGroup.renderAll {}).map List.length).toOption = some 12 := by
    decide +kernel
  cases hrender : userAndGroup.renderAll {} with
  | error failure =>
    rw [hrender] at hlength
    cases hlength
  | ok artifacts =>
    rw [hrender] at hlength
    obtain ⟨hpairwise, -, hruns⟩ := artifacts_coexist hvalid hpackages hrender
    refine ⟨hvalid, hpackages, artifacts, rfl, Option.some.inj hlength, hpairwise,
      isEmptyAt_emptyOutTree, hsucceeded, ?_⟩
    exact hruns ⟨"out"⟩ _ _ _ _ isEmptyAt_emptyOutTree (Prod.eta emptyOutRun).symm
      fun event hmem hfailed => absurd (hsucceeded event hmem) (by simp [hfailed])

end EntitySet

end PersistenceLayer
