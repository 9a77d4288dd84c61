/-!
# Splitting at a separator

Package names and paths are segments with a separator character between them.
Splitting undoes the joining of segments that are free of the separator, and a
separator in the middle of a text splits it into two texts that can be split on
their own.
-/

namespace PersistenceLayer.Text

/-- The segments between the separators, empty ones included: there is one more of them than there
are separators. -/
def segments (separator : Char) : List Char → List (List Char)
  | [] => [[]]
  | c :: chars =>
    if c = separator then [] :: segments separator chars
    else
      match segments separator chars with
      | [] => [[c]]
      | first :: rest => (c :: first) :: rest

/-- The segments of a text. -/
def splitAt (separator : Char) (text : String) : List String :=
  (segments separator text.toList).map String.ofList

/-- There is always a segment. -/
theorem segments_ne_nil (separator : Char) (chars : List Char) :
    segments separator chars ≠ [] := by
  fun_cases segments separator chars <;> simp

/-- A separator splits a text into two parts with segments of their own. -/
theorem segments_append (separator : Char) (before after : List Char) :
    segments separator (before ++ separator :: after) =
      segments separator before ++ segments separator after := by
  induction before with
  | nil => simp [segments]
  | cons c before ih =>
    rw [List.cons_append, segments, segments, ih]
    by_cases hc : c = separator
    · simp [hc]
    · obtain ⟨first, rest, hsegments⟩ :=
        List.exists_cons_of_ne_nil (segments_ne_nil separator before)
      simp [hc, hsegments]

/-- A text without separators is its only segment. -/
theorem segments_of_not_mem {separator : Char} {chars : List Char} (h : separator ∉ chars) :
    segments separator chars = [chars] := by
  induction chars with
  | nil => rfl
  | cons c chars ih =>
    obtain ⟨hc, hchars⟩ := not_or.mp (mt List.mem_cons.mpr h)
    rw [segments, if_neg (Ne.symm hc), ih hchars]

/-- No segment holds a separator. -/
theorem not_mem_of_mem_segments {separator : Char} {chars segment : List Char}
    (h : segment ∈ segments separator chars) : separator ∉ segment := by
  induction chars generalizing segment with
  | nil => simp [List.mem_singleton.mp h]
  | cons c chars ih =>
    rw [segments] at h
    split at h
    · rcases List.mem_cons.mp h with rfl | hmem
      · simp
      · exact ih hmem
    · next hc =>
      obtain ⟨first, rest, hsegments⟩ :=
        List.exists_cons_of_ne_nil (segments_ne_nil separator chars)
      rw [hsegments] at h ih
      rcases List.mem_cons.mp h with rfl | hmem
      · simpa [Ne.symm hc] using ih List.mem_cons_self
      · exact ih (List.mem_cons_of_mem _ hmem)

/-- Splitting gives back segments that were joined. -/
theorem segments_intercalate {separator : Char} {parts : List (List Char)} (hne : parts ≠ [])
    (hparts : ∀ part ∈ parts, separator ∉ part) :
    segments separator ([separator].intercalate parts) = parts := by
  induction parts with
  | nil => exact absurd rfl hne
  | cons part parts ih =>
    have hpart := segments_of_not_mem (hparts part List.mem_cons_self)
    cases parts with
    | nil => simpa using hpart
    | cons next parts =>
      have hrest := ih (List.cons_ne_nil _ _) fun other hother =>
        hparts other (List.mem_cons_of_mem _ hother)
      rw [List.intercalate_cons_cons, List.append_assoc, List.singleton_append, segments_append,
        hpart, hrest, List.singleton_append]

/-- Joining gives back a text that was split. -/
theorem intercalate_segments (separator : Char) (chars : List Char) :
    [separator].intercalate (segments separator chars) = chars := by
  induction chars with
  | nil => rfl
  | cons c chars ih =>
    obtain ⟨first, rest, hsegments⟩ :=
      List.exists_cons_of_ne_nil (segments_ne_nil separator chars)
    rw [segments, hsegments]
    rw [hsegments] at ih
    by_cases hc : c = separator
    · rw [if_pos hc, List.intercalate_cons_of_ne_nil (List.cons_ne_nil _ _), ih, hc]
      rfl
    · rw [if_neg hc]
      cases rest with
      | nil => simpa using ih
      | cons next rest =>
        rw [List.intercalate_cons_cons] at ih ⊢
        rw [← ih]
        simp

/-- Splitting gives back texts that were joined by the separator. -/
theorem splitAt_intercalate {separator : Char} {parts : List String} (hne : parts ≠ [])
    (hparts : ∀ part ∈ parts, separator ∉ part.toList) :
    splitAt separator ((String.singleton separator).intercalate parts) = parts := by
  have hsegments : segments separator ([separator].intercalate (parts.map String.toList)) =
      parts.map String.toList :=
    segments_intercalate (by simpa using hne) (by simpa using hparts)
  simp [splitAt, String.toList_intercalate, hsegments]

/-- There is always a segment of a text. -/
theorem splitAt_ne_nil (separator : Char) (text : String) : splitAt separator text ≠ [] := by
  simp [splitAt, segments_ne_nil]

/-- The last character of a text ends its last segment, unless it is a separator. -/
theorem getLast?_splitAt {separator c : Char} {text : String}
    (hlast : text.toList.getLast? = some c) (hc : c ≠ separator) :
    ∃ segment, (splitAt separator text).getLast? = some segment ∧
      segment.toList.getLast? = some c := by
  suffices h : ∀ chars : List Char, chars.getLast? = some c →
      ∃ segment, (segments separator chars).getLast? = some segment ∧
        segment.getLast? = some c by
    obtain ⟨segment, hsegment, hend⟩ := h text.toList hlast
    exact ⟨String.ofList segment, by simp [splitAt, hsegment], by simpa using hend⟩
  intro chars
  induction chars with
  | nil => simp
  | cons d chars ih =>
    intro hlast
    rcases List.eq_nil_or_concat chars with rfl | ⟨init, final, rfl⟩
    · obtain rfl : d = c := by simpa using hlast
      exact ⟨[d], by simp [segments, hc], rfl⟩
    · obtain ⟨segment, hsegment, hend⟩ := ih (by simpa [List.getLast?_cons] using hlast)
      obtain ⟨first, rest, hsegments⟩ :=
        List.exists_cons_of_ne_nil (segments_ne_nil separator (init ++ [final]))
      rw [List.concat_eq_append] at hsegment ⊢
      rw [hsegments] at hsegment
      rw [segments, hsegments]
      by_cases hd : d = separator
      · exact ⟨segment, by simpa [hd] using hsegment, hend⟩
      · cases rest with
        | nil =>
          obtain rfl : first = segment := by simpa using hsegment
          refine ⟨d :: first, by simp [hd], ?_⟩
          rw [List.getLast?_cons, hend, Option.getD_some]
        | cons next rest => exact ⟨segment, by simpa [hd] using hsegment, hend⟩

/-- A text that holds no separator adds to the last segment of the text before it. -/
theorem splitAt_append {separator : Char} {text suffix last : String} {init : List String}
    (hfree : separator ∉ suffix.toList) (hsplit : splitAt separator text = init ++ [last]) :
    splitAt separator (text ++ suffix) = init ++ [last ++ suffix] := by
  suffices h : ∀ chars : List Char, ∃ init last, segments separator chars = init ++ [last] ∧
      segments separator (chars ++ suffix.toList) = init ++ [last ++ suffix.toList] by
    obtain ⟨before, final, hsegments, happend⟩ := h text.toList
    rw [splitAt, hsegments, List.map_append] at hsplit
    obtain ⟨rfl, hlast⟩ := List.append_inj' hsplit rfl
    obtain rfl : String.ofList final = last := by simpa using hlast
    simp [splitAt, happend, String.ofList_append]
  intro chars
  induction chars with
  | nil => exact ⟨[], [], rfl, segments_of_not_mem hfree⟩
  | cons c chars ih =>
    obtain ⟨init, last, hsegments, happend⟩ := ih
    rw [List.cons_append, segments, segments, hsegments, happend]
    by_cases hc : c = separator
    · exact ⟨[] :: init, last, by simp [hc], by simp [hc]⟩
    · cases init with
      | nil => exact ⟨[], c :: last, by simp [hc], by simp [hc]⟩
      | cons first init => exact ⟨(c :: first) :: init, last, by simp [hc], by simp [hc]⟩

/-- A text that holds no separator adds to the first segment of the text after it. -/
theorem splitAt_prepend {separator : Char} (front : String) {text first : String}
    {rest : List String} (hfree : separator ∉ front.toList)
    (hsplit : splitAt separator text = first :: rest) :
    splitAt separator (front ++ text) = (front ++ first) :: rest := by
  obtain ⟨head, tail, hsegments⟩ :=
    List.exists_cons_of_ne_nil (segments_ne_nil separator text.toList)
  obtain ⟨rfl, rfl⟩ : String.ofList head = first ∧ tail.map String.ofList = rest := by
    simpa [splitAt, hsegments] using hsplit
  suffices h : ∀ chars : List Char, separator ∉ chars →
      segments separator (chars ++ text.toList) = (chars ++ head) :: tail by
    simp [splitAt, h front.toList hfree, String.ofList_append]
  intro chars hchars
  induction chars with
  | nil => exact hsegments
  | cons c chars ih =>
    obtain ⟨hc, hchars⟩ := not_or.mp (mt List.mem_cons.mpr hchars)
    rw [List.cons_append, segments, if_neg (Ne.symm hc), ih hchars]
    rfl

end PersistenceLayer.Text
