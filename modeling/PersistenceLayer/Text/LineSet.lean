/-!
# Sets of lines

The import block of a generated file is a set of lines: no line twice, in
increasing order. Texts are ordered by their characters' code points, which is
also the order of their UTF-8 bytes.
-/

namespace PersistenceLayer.Text

/-- A list of lines with one more line put where it belongs, unless it is there already. -/
def insertLine (line : String) : List String → List String
  | [] => [line]
  | first :: rest =>
    if line < first then line :: first :: rest
    else if line = first then first :: rest
    else first :: insertLine line rest

/-- Inserting a line adds that line and loses none. -/
theorem mem_insertLine {line other : String} {lines : List String} :
    other ∈ insertLine line lines ↔ other = line ∨ other ∈ lines := by
  induction lines with
  | nil => simp [insertLine]
  | cons first rest ih =>
    rw [insertLine]
    split
    · simp
    · split
      · next heq => simp [heq]
      · simp only [List.mem_cons, ih]
        constructor
        · rintro (h | h | h) <;> simp [h]
        · rintro (h | h | h) <;> simp [h]

/-- Inserting a line keeps an increasing list increasing. -/
theorem pairwise_insertLine {line : String} {lines : List String}
    (increasing : lines.Pairwise (· < ·)) : (insertLine line lines).Pairwise (· < ·) := by
  induction lines with
  | nil => simp [insertLine]
  | cons first rest ih =>
    obtain ⟨hfirst, hrest⟩ := List.pairwise_cons.mp increasing
    rw [insertLine]
    split
    · next hlt =>
      refine List.pairwise_cons.mpr ⟨fun other hother => ?_, increasing⟩
      rcases List.mem_cons.mp hother with rfl | hmem
      · exact hlt
      · exact String.lt_trans hlt (hfirst other hmem)
    · split
      · exact increasing
      · next hnlt hne =>
        refine List.pairwise_cons.mpr ⟨fun other hother => ?_, ih hrest⟩
        rcases mem_insertLine.mp hother with rfl | hmem
        · rcases String.le_total first other with hle | hle
          · exact Decidable.byContradiction fun hge =>
              hne (String.le_antisymm (String.not_lt.mp hge) hle)
          · exact absurd (String.le_antisymm hle (String.not_lt.mp hnlt)) hne
        · exact hfirst other hmem

/-- Lines in strictly increasing order. -/
structure LineSet where
  lines : List String
  increasing : lines.Pairwise (· < ·)

namespace LineSet

/-- The set without lines. -/
def empty : LineSet := ⟨[], List.Pairwise.nil⟩

/-- The set with one more line. -/
def insert (set : LineSet) (line : String) : LineSet :=
  ⟨insertLine line set.lines, pairwise_insertLine set.increasing⟩

/-- The set with every line of a list. -/
def insertAll (set : LineSet) (lines : List String) : LineSet :=
  lines.foldl insert set

/-- The set of the lines of a list. -/
def ofList (lines : List String) : LineSet :=
  empty.insertAll lines

/-- Membership in a set after one insertion. -/
theorem mem_insert {set : LineSet} {line other : String} :
    other ∈ (set.insert line).lines ↔ other = line ∨ other ∈ set.lines :=
  mem_insertLine

/-- Membership in a set after a list of insertions. -/
theorem mem_insertAll {set : LineSet} {lines : List String} {other : String} :
    other ∈ (set.insertAll lines).lines ↔ other ∈ lines ∨ other ∈ set.lines := by
  induction lines generalizing set with
  | nil => simp [insertAll]
  | cons line rest ih =>
    have hstep : set.insertAll (line :: rest) = (set.insert line).insertAll rest := rfl
    rw [hstep, ih, mem_insert, List.mem_cons]
    constructor
    · rintro (h | h | h) <;> simp [h]
    · rintro ((h | h) | h) <;> simp [h]

/-- The set of a list holds exactly the lines of the list. -/
theorem mem_ofList {lines : List String} {other : String} :
    other ∈ (ofList lines).lines ↔ other ∈ lines := by
  simp [ofList, mem_insertAll, empty]

end LineSet

end PersistenceLayer.Text
