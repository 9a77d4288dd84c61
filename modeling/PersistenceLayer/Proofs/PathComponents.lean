import PersistenceLayer.Path

/-!
# Components of built paths

Paths are built as texts and followed by their components. The components of a
path below another one are those of both in turn, and a path that ends in a name
has a parent with all components but that name. Both hold for every spelling, so
nothing that follows has to look at slashes again.
-/

namespace PersistenceLayer.Path

/-- A path is absolute if nothing stands before its first slash. -/
theorem isAbsolute_iff {path : Path} {first : String} {rest : List String}
    (hsplit : Text.splitAt '/' path.text = first :: rest) :
    path.isAbsolute = true ↔ first = "" ∧ rest ≠ [] := by
  unfold Text.splitAt at hsplit
  unfold isAbsolute
  cases hchars : path.text.toList with
  | nil =>
    rw [hchars] at hsplit
    obtain ⟨-, rfl⟩ := List.cons.inj hsplit
    simp
  | cons c chars =>
    obtain ⟨head, tail, hsegments⟩ :=
      List.exists_cons_of_ne_nil (Text.segments_ne_nil '/' chars)
    rw [hchars, Text.segments, hsegments] at hsplit
    by_cases hc : c = '/'
    · rw [if_pos hc] at hsplit
      obtain ⟨rfl, rfl⟩ := List.cons.inj hsplit
      simp [hc]
    · rw [if_neg hc] at hsplit
      obtain ⟨rfl, -⟩ := List.cons.inj hsplit
      simp [hc]

/-- The components of a path, by its first segment and the others. -/
theorem components_of_splitAt {path : Path} {first : String} {rest : List String}
    (hsplit : Text.splitAt '/' path.text = first :: rest) :
    path.components =
      if path.isAbsolute then .root :: rest.filterMap component?
      else if first = "." then .current :: rest.filterMap component?
      else (first :: rest).filterMap component? := by
  unfold components split
  rw [hsplit]
  dsimp only
  split
  · rfl
  · split <;> rfl

/-- A path stays below where it starts if all its components are names. -/
theorem isNormal_iff {path : Path} :
    path.isNormal = true ↔ ∀ component ∈ path.components, ∃ name, component = .normal name := by
  unfold isNormal
  rw [List.all_eq_true]
  refine forall₂_congr fun component _ => ?_
  cases component <;> simp

/-- Below where it starts, a path has exactly the components of its segments. -/
theorem components_of_isNormal {path : Path} (hnormal : path.isNormal = true) :
    path.isAbsolute = false ∧
      path.components = (Text.splitAt '/' path.text).filterMap component? := by
  obtain ⟨first, rest, hsplit⟩ := List.exists_cons_of_ne_nil (Text.splitAt_ne_nil '/' path.text)
  have hcomponents := components_of_splitAt hsplit
  rw [isNormal_iff] at hnormal
  split at hcomponents
  · obtain ⟨name, hname⟩ := hnormal .root (by simp [hcomponents])
    cases hname
  · next habsolute =>
    split at hcomponents
    · obtain ⟨name, hname⟩ := hnormal .current (by simp [hcomponents])
      cases hname
    · exact ⟨by simpa using habsolute, by rw [hcomponents, hsplit]⟩

/-! ## A path below another one -/

/-- Only the empty path has nothing but an empty segment. -/
theorem splitAt_ne_singleton_empty {path : Path} (hne : path.text ≠ "") :
    Text.splitAt '/' path.text ≠ [""] := by
  intro hsplit
  have hsegments : Text.segments '/' path.text.toList = [[]] := by
    simpa [Text.splitAt] using hsplit
  have hchars := Text.intercalate_segments '/' path.text.toList
  rw [hsegments] at hchars
  exact hne (String.toList_eq_nil_iff.mp hchars.symm)

/-- The segments of a path below another one are those of both; a slash at the end of the upper one
counts for nothing. -/
theorem splitAt_join {path other : Path} (hother : other.isAbsolute = false)
    (hne : path.text ≠ "") :
    ∃ first upper rest, Text.splitAt '/' path.text = first :: upper ∧
      Text.splitAt '/' (path.join other).text = first :: (rest ++ Text.splitAt '/' other.text) ∧
      rest.filterMap component? = upper.filterMap component? := by
  have hnonempty : path.text.isEmpty = false := by simpa using hne
  unfold join
  rw [hother, hnonempty]
  by_cases hslash : path.text.toList.getLast? = some '/'
  · obtain ⟨init, hinit⟩ := List.getLast?_eq_some_iff.mp hslash
    obtain ⟨first, rest, hfirst⟩ := List.exists_cons_of_ne_nil (Text.segments_ne_nil '/' init)
    refine ⟨String.ofList first, rest.map String.ofList ++ [""], rest.map String.ofList, ?_, ?_, ?_⟩
    · simp [Text.splitAt, hinit, Text.segments_append, hfirst, Text.segments]
    · simp [Text.splitAt, hinit, Text.segments_append, hfirst]
    · simp [component?]
  · obtain ⟨first, upper, hsplit⟩ :=
      List.exists_cons_of_ne_nil (Text.splitAt_ne_nil '/' path.text)
    refine ⟨first, upper, upper, hsplit, ?_, rfl⟩
    have hsegments : Text.splitAt '/' (path.text ++ "/" ++ other.text) =
        Text.splitAt '/' path.text ++ Text.splitAt '/' other.text := by
      simp [Text.splitAt, Text.segments_append]
    simpa [hslash, hsplit] using hsegments

/-- A path below another one has the components of both in turn. -/
theorem components_join {path other : Path} (hnormal : other.isNormal = true) :
    (path.join other).components = path.components ++ other.components := by
  obtain ⟨hother, hcomponents⟩ := components_of_isNormal hnormal
  by_cases hempty : path.text = ""
  · have hjoin : path.join other = other := by simp [join, hempty]
    have hnone : path.components = [] := by
      have hsplit : Text.splitAt '/' path.text = [""] := by
        simp [Text.splitAt, hempty, Text.segments]
      rw [components_of_splitAt hsplit]
      simp [isAbsolute, hempty, component?]
    rw [hjoin, hnone, List.nil_append]
  · obtain ⟨first, upper, rest, hsplit, hjoin, hrest⟩ := splitAt_join hother hempty
    have habsolute : (path.join other).isAbsolute = path.isAbsolute := by
      rw [Bool.eq_iff_iff, isAbsolute_iff hsplit, isAbsolute_iff hjoin]
      have hlower := Text.splitAt_ne_nil '/' other.text
      have hupper : first = "" → upper ≠ [] := by
        rintro rfl rfl
        exact splitAt_ne_singleton_empty hempty hsplit
      simp only [ne_eq, List.append_eq_nil_iff, hlower, and_false, not_false_eq_true, and_true]
      exact ⟨fun h => ⟨h, hupper h⟩, And.left⟩
    rw [components_of_splitAt hsplit, components_of_splitAt hjoin, habsolute, hcomponents]
    split
    · simp [hrest]
    · split
      · simp [hrest]
      · simp [List.filterMap_cons, hrest]
        cases component? first <;> simp

/-! ## Names at the end of a path -/

/-- A segment makes no component other than its own name, but for the step upwards. -/
theorem component?_eq_normal {segment name : String}
    (h : component? segment = some (.normal name)) :
    name = segment := by
  unfold component? at h
  split at h
  · cases h
  · split at h
    · cases h
    · cases h; rfl

/-- A segment whose last character is no dot is a name. -/
theorem component?_of_getLast? {segment : String} {c : Char}
    (hlast : segment.toList.getLast? = some c) (hc : c ≠ '.') :
    component? segment = some (.normal segment) := by
  have hempty : segment ≠ "" := by rintro rfl; simp at hlast
  have hdot : segment ≠ "." := by rintro rfl; exact hc (by simpa using hlast.symm)
  have hdots : segment ≠ ".." := by rintro rfl; exact hc (by simpa using hlast.symm)
  simp [component?, hempty, hdot, hdots]

/-- A path ends in a name if its last character is neither a slash nor a dot. -/
theorem lastName?_of_getLast? {path : Path} {c : Char}
    (hlast : path.text.toList.getLast? = some c) (hslash : c ≠ '/') (hdot : c ≠ '.') :
    ∃ name, path.lastName? = some name ∧ name.toList.getLast? = some c := by
  obtain ⟨segment, hsegment, hend⟩ := Text.getLast?_splitAt hlast hslash
  refine ⟨segment, ?_, hend⟩
  simp [lastName?, hsegment, component?_of_getLast? hend hdot]

/-- What a path below another one ends in is decided by the lower one. -/
theorem getLast?_join {path other : Path} {c : Char} (hlast : other.text.toList.getLast? = some c) :
    (path.join other).text.toList.getLast? = some c := by
  unfold join
  split
  · exact hlast
  · split <;> simp [List.getLast?_append, List.getLast?_cons, hlast]

/-- The name that a path below another one ends in is that of the lower one. -/
theorem lastName?_join (path other : Path) : (path.join other).lastName? = other.lastName? := by
  unfold join
  split
  · rfl
  · split
    · next hslash =>
      obtain ⟨init, hinit⟩ := List.getLast?_eq_some_iff.mp (by simpa using hslash)
      simp [lastName?, Text.splitAt, hinit, Text.segments_append, List.getLast?_append,
        List.getLast?_eq_some_getLast (Text.segments_ne_nil '/' other.text.toList)]
    · simp [lastName?, Text.splitAt, Text.segments_append, List.getLast?_append,
        List.getLast?_eq_some_getLast (Text.segments_ne_nil '/' other.text.toList)]

/-- The last segment of a path that ends in a name is this name. -/
theorem splitAt_of_lastName? {path : Path} {name : String} (hname : path.lastName? = some name) :
    ∃ init, Text.splitAt '/' path.text = init ++ [name] ∧
      component? name = some (.normal name) := by
  unfold lastName? at hname
  cases hsegment : (Text.splitAt '/' path.text).getLast? with
  | none => simp [hsegment] at hname
  | some segment =>
    rw [hsegment, Option.bind_some] at hname
    split at hname
    · next found hfound =>
      obtain rfl : found = name := by simpa using hname
      obtain rfl := component?_eq_normal hfound
      exact ⟨_, List.getLast?_eq_some_iff.mp hsegment |>.choose_spec, hfound⟩
    · cases hname

/-- How a path that ends in a name splits: what it starts with, the segments in between and the
name. Unless something is in front of them, the segments begin with one that makes a component. -/
theorem split_of_lastName? {path : Path} {name : String} (hname : path.lastName? = some name) :
    ∃ anchor body, path.split = (anchor, body ++ [name]) ∧
      component? name = some (.normal name) ∧ (∀ segment ∈ body, '/' ∉ segment.toList) ∧
      ((anchor = [] ∧ ∀ segment ∈ body.head?, segment ≠ "" ∧ segment ≠ ".") ∨
        anchor = [.root] ∨ anchor = [.current]) := by
  obtain ⟨init, hsplit, hcomponent⟩ := splitAt_of_lastName? hname
  have hfree : ∀ segment ∈ init, '/' ∉ segment.toList := by
    intro segment hmem
    have hall : segment ∈ Text.splitAt '/' path.text := by simp [hsplit, hmem]
    obtain ⟨chars, hchars, rfl⟩ := List.mem_map.mp hall
    simpa using Text.not_mem_of_mem_segments hchars
  cases init with
  | nil =>
    have habsolute : path.isAbsolute = false := by
      simpa using mt (isAbsolute_iff hsplit).mp (by simp)
    have hdot : name ≠ "." := by rintro rfl; simp [component?] at hcomponent
    refine ⟨[], [], ?_, hcomponent, by simp, .inl ⟨rfl, by simp⟩⟩
    simp [split, hsplit, habsolute, hdot]
  | cons first body =>
    have hbody : ∀ segment ∈ body, '/' ∉ segment.toList := fun segment hmem =>
      hfree segment (List.mem_cons_of_mem _ hmem)
    rw [List.cons_append] at hsplit
    by_cases habsolute : path.isAbsolute = true
    · exact ⟨[.root], body, by simp [split, hsplit, habsolute], hcomponent, hbody, by simp⟩
    · have hne : first ≠ "" := fun heq =>
        habsolute ((isAbsolute_iff hsplit).mpr ⟨heq, by simp⟩)
      by_cases hdot : first = "."
      · exact ⟨[.current], body, by simp [split, hsplit, habsolute, hdot], hcomponent, hbody,
          by simp⟩
      · exact ⟨[], first :: body, by simp [split, hsplit, habsolute, hdot], hcomponent, hfree,
          .inl ⟨rfl, by simp [hne, hdot]⟩⟩

/-- A path that ends in a name has that name as its last component. -/
theorem components_of_lastName? {path : Path} {name : String} (hname : path.lastName? = some name) :
    path.components = path.components.dropLast ++ [.normal name] := by
  obtain ⟨anchor, body, hsplit, hcomponent, -⟩ := split_of_lastName? hname
  simp [components, hsplit, hcomponent]

/-! ## Parents -/

/-- Dropping void segments takes away segments that make no component. -/
theorem dropVoid_append (segments : List String) :
    ∃ void, segments = dropVoid segments ++ void ∧ void.filterMap component? = [] := by
  refine ⟨(segments.reverse.takeWhile fun segment => (component? segment).isNone).reverse, ?_, ?_⟩
  · rw [dropVoid, ← List.reverse_append, List.takeWhile_append_dropWhile, List.reverse_reverse]
  · rw [List.filterMap_eq_nil_iff]
    intro segment hmem
    simpa using List.all_eq_true.mp List.all_takeWhile segment (List.mem_reverse.mp hmem)

/-- Segments without the void ones at their end make the same components. -/
theorem filterMap_dropVoid (segments : List String) :
    (dropVoid segments).filterMap component? = segments.filterMap component? := by
  obtain ⟨void, hsegments, hvoid⟩ := dropVoid_append segments
  calc (dropVoid segments).filterMap component?
      = (dropVoid segments ++ void).filterMap component? := by simp [hvoid]
    _ = segments.filterMap component? := by rw [← hsegments]

/-- A last segment that makes a component is not dropped. -/
theorem dropVoid_append_singleton {body : List String} {name : String}
    (hname : component? name = some (.normal name)) :
    dropVoid (body ++ [name]) = body ++ [name] := by
  simp [dropVoid, hname]

/-- The components of a path that starts with a segment that makes one. -/
theorem components_of_plain {path : Path} {first : String} {rest : List String}
    (hsplit : Text.splitAt '/' path.text = first :: rest) (hempty : first ≠ "")
    (hdot : first ≠ ".") : path.components = (first :: rest).filterMap component? := by
  have habsolute : path.isAbsolute = false := by
    simpa using mt (isAbsolute_iff hsplit).mp (by simp [hempty])
  rw [components_of_splitAt hsplit, habsolute]
  simp [hdot]

/-- A text without slashes that does not end in a dot is one name. -/
theorem components_of_notMem {name : String} {c : Char} (hslash : '/' ∉ name.toList)
    (hlast : name.toList.getLast? = some c) (hc : c ≠ '.') :
    (Path.mk name).components = [.normal name] := by
  have hsplit : Text.splitAt '/' name = [name] := by
    rw [Text.splitAt, Text.segments_of_not_mem hslash]
    simp
  have hcomponent := component?_of_getLast? hlast hc
  have hne : name ≠ "" ∧ name ≠ "." := by
    constructor <;> intro h <;> rw [h] at hcomponent <;> cases hcomponent
  rw [components_of_plain hsplit hne.1 hne.2, List.filterMap_cons_some hcomponent,
    List.filterMap_nil]

/-- A segment with neither dot nor slash is the only component of its path. -/
theorem components_of_segment {segment : String} (hdot : '.' ∉ segment.toList)
    (hslash : '/' ∉ segment.toList) (hne : segment ≠ "") :
    (Path.mk segment).components = [.normal segment] := by
  have hchars : segment.toList ≠ [] := by simpa using hne
  refine components_of_notMem hslash (List.getLast?_eq_some_getLast hchars) fun hlast => ?_
  exact hdot (hlast ▸ List.getLast_mem hchars)

/-- The segments of a text in front of joined segments. -/
theorem splitAt_slash_intercalate (front : String) {parts : List String}
    (hfront : '/' ∉ front.toList) (hne : parts ≠ [])
    (hfree : ∀ part ∈ parts, '/' ∉ part.toList) :
    Text.splitAt '/' (front ++ "/" ++ "/".intercalate parts) = front :: parts := by
  have hparts : Text.splitAt '/' ("/".intercalate parts) = parts :=
    Text.splitAt_intercalate hne hfree
  unfold Text.splitAt at hparts ⊢
  simp only [String.toList_append]
  rw [show "/".toList = ['/'] from rfl, List.append_assoc, List.singleton_append,
    Text.segments_append, Text.segments_of_not_mem hfront, List.map_append, hparts]
  simp

/-- The components of segments that are joined behind the root. -/
theorem components_root_intercalate {parts : List String}
    (hfree : ∀ part ∈ parts, '/' ∉ part.toList) :
    (Path.mk ("/" ++ "/".intercalate parts)).components =
      .root :: parts.filterMap component? := by
  cases parts with
  | nil => rfl
  | cons first rest =>
    have hjoined := splitAt_slash_intercalate "" (by simp) (List.cons_ne_nil first rest) hfree
    rw [String.empty_append] at hjoined
    rw [components_of_splitAt hjoined, (isAbsolute_iff hjoined).mpr ⟨rfl, by simp⟩]
    rfl

/-- The components of segments that are joined behind a single dot. -/
theorem components_current_intercalate {parts : List String}
    (hfree : ∀ part ∈ parts, '/' ∉ part.toList) :
    (Path.mk (if "/".intercalate parts = "" then "." else "." ++ "/" ++ "/".intercalate parts)
      ).components = .current :: parts.filterMap component? := by
  cases parts with
  | nil => rfl
  | cons first rest =>
    have hne := List.cons_ne_nil first rest
    split
    · next hrest =>
      have hvoid : first :: rest = [""] := by
        rw [← Text.splitAt_intercalate hne hfree]
        exact congrArg (Text.splitAt '/') hrest
      rw [hvoid]
      rfl
    · have hjoined := splitAt_slash_intercalate "." (by decide) hne hfree
      have habsolute := mt (isAbsolute_iff hjoined).mp (by simp)
      rw [components_of_splitAt hjoined, if_neg habsolute]
      rfl

/-- A path that ends in a name has a parent, with all its components but that name. -/
theorem parent?_of_lastName? {path : Path} {name : String} (hname : path.lastName? = some name) :
    ∃ directory, path.parent? = some directory ∧
      directory.components = path.components.dropLast := by
  obtain ⟨anchor, body, hsplit, hcomponent, hfree, hanchor⟩ := split_of_lastName? hname
  obtain ⟨void, hbody, hvoid⟩ := dropVoid_append body
  have hcomponents : path.components.dropLast = anchor ++ (dropVoid body).filterMap component? := by
    simp [components, hsplit, hcomponent, filterMap_dropVoid]
  have hparts : ∀ part ∈ dropVoid body, '/' ∉ part.toList := fun part hmem =>
    hfree part (by rw [hbody]; exact List.mem_append_left _ hmem)
  have hbefore : dropVoid (body ++ [name]) = body ++ [name] := dropVoid_append_singleton hcomponent
  rw [hcomponents]
  rcases hanchor with ⟨rfl, hhead⟩ | rfl | rfl
  · refine ⟨⟨"/".intercalate (dropVoid body)⟩, by simp [parent?, hsplit, hbefore], ?_⟩
    cases hdrop : dropVoid body with
    | nil => rfl
    | cons first rest =>
      rw [hdrop, List.cons_append] at hbody
      obtain ⟨hempty, hdot⟩ := hhead first (by simp [hbody])
      exact components_of_plain
        (Text.splitAt_intercalate (List.cons_ne_nil _ _) (hdrop ▸ hparts)) hempty hdot
  · exact ⟨_, by simp [parent?, hsplit, hbefore], components_root_intercalate hparts⟩
  · exact ⟨_, by simp [parent?, hsplit, hbefore, anchorText],
      components_current_intercalate hparts⟩

end PersistenceLayer.Path
