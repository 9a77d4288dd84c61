import PersistenceLayer.Text.Identifier
import Mathlib.Data.List.Basic

/-!
# Reading generated sources

Generated sources are read back line by line. A line is taken apart into words
and signs the way the compilers of both languages do it, and lines are gathered
to blocks by their indentation. What a line is made from can be read off it as
long as words are put between signs.
-/

namespace PersistenceLayer.Text

/-! ## Words and signs -/

/-- The word that is complete once a sign or the end of the line follows, if there is one. -/
def completeWord (word : List Char) : List String :=
  if word.isEmpty then [] else [String.ofList word]

/-- The tokens from somewhere in a line on, given the part of a word before it. -/
def tokensFrom (word : List Char) : List Char → List String
  | [] => completeWord word
  | c :: rest =>
    if isIdentifierPart c then tokensFrom (word ++ [c]) rest
    else completeWord word ++ (if c = ' ' then [] else [String.singleton c]) ++ tokensFrom [] rest

/-- The tokens of a line. The characters that may follow in an identifier make up words; every
other one is a sign by itself, but for blanks, which only set tokens apart. -/
def tokens (line : String) : List String :=
  tokensFrom [] line.toList

/-- Whether a text is one word. -/
def isWord (text : String) : Bool :=
  !text.toList.isEmpty && text.toList.all isIdentifierPart

/-- Whether a text does not go on with a word that ends in front of it. -/
def opensWithSign (text : String) : Bool :=
  text.toList.head?.all fun c => !isIdentifierPart c

/-- Whether a word behind a text does not go on with the text's last word. -/
def endsWithSign (text : String) : Bool :=
  text.toList.getLast?.all fun c => !isIdentifierPart c

theorem isWord_iff {text : String} :
    isWord text = true ↔ text.toList ≠ [] ∧ ∀ c ∈ text.toList, isIdentifierPart c = true := by
  simp [isWord]

/-- A word is not a sign. -/
theorem ne_of_isWord {word sign : String} (hword : isWord word = true)
    (hsign : isWord sign = false) : sign ≠ word := by
  rintro rfl
  rw [hword] at hsign
  cases hsign

/-- A word holds no sign. -/
theorem notMem_toList_of_isWord {word : String} {c : Char} (h : isWord word = true)
    (hc : isIdentifierPart c = false) : c ∉ word.toList := by
  intro hmem
  have hpart := (isWord_iff.mp h).2 c hmem
  rw [hc] at hpart
  cases hpart

/-- A word stands on one line. -/
theorem lineBreak_notMem_of_isWord {word : String} (h : isWord word = true) :
    '\n' ∉ word.toList :=
  notMem_toList_of_isWord h (by decide)

/-- The characters of a literal are looked through without going back to its encoding. -/
theorem notMem_toList_ofList {chars : List Char} {c : Char} (h : c ∉ chars) :
    c ∉ (String.ofList chars).toList := by
  rwa [String.toList_ofList]

/-- Two words without anything between them are one. -/
theorem isWord_append {first second : String} (hfirst : isWord first = true)
    (hsecond : isWord second = true) : isWord (first ++ second) = true := by
  obtain ⟨hne, hchars⟩ := isWord_iff.mp hfirst
  obtain ⟨-, hothers⟩ := isWord_iff.mp hsecond
  rw [isWord_iff, String.toList_append]
  refine ⟨List.append_ne_nil_of_left_ne_nil hne _, fun c hc => ?_⟩
  exact (List.mem_append.mp hc).elim (hchars c) (hothers c)

/-- A word has one token. -/
theorem tokens_of_isWord {text : String} (h : isWord text = true) : tokens text = [text] := by
  have htokens : ∀ word chars : List Char, (∀ c ∈ chars, isIdentifierPart c = true) →
      tokensFrom word chars = completeWord (word ++ chars) := by
    intro word chars hchars
    induction chars generalizing word with
    | nil => rw [tokensFrom, List.append_nil]
    | cons c chars ih =>
      obtain ⟨hc, hchars⟩ := List.forall_mem_cons.mp hchars
      rw [tokensFrom, if_pos hc, ih _ hchars, List.append_assoc, List.singleton_append]
  obtain ⟨hne, hchars⟩ := isWord_iff.mp h
  rw [tokens, htokens _ _ hchars, List.nil_append, completeWord,
    if_neg (by simpa using hne), String.ofList_toList]

/-- Tokens are made of the characters of the line. -/
theorem mem_toList_of_mem_tokens {line token : String} (htoken : token ∈ tokens line) {c : Char}
    (hc : c ∈ token.toList) : c ∈ line.toList := by
  have hword : ∀ word : List Char, token ∈ completeWord word → c ∈ word := by
    intro word hmem
    rw [completeWord] at hmem
    split at hmem
    · cases hmem
    · obtain rfl := List.mem_singleton.mp hmem
      simpa using hc
  have htokens : ∀ word chars : List Char, token ∈ tokensFrom word chars → c ∈ word ++ chars := by
    intro word chars hmem
    induction chars generalizing word with
    | nil => simpa using hword word hmem
    | cons next chars ih =>
      rw [tokensFrom] at hmem
      split at hmem
      · simpa using ih _ hmem
      · rw [List.mem_append, List.mem_append] at hmem
        rw [List.mem_append, List.mem_cons]
        rcases hmem with (hmem | hmem) | hmem
        · exact .inl (hword word hmem)
        · split at hmem
          · cases hmem
          · obtain rfl := List.mem_singleton.mp hmem
            exact .inr (.inl (by simpa using hc))
        · exact .inr (.inr (ih [] hmem))
  exact htokens [] line.toList htoken

/-- Where a sign follows, reading starts anew. -/
theorem tokensFrom_append {word front back : List Char}
    (h : back.head?.all fun c => !isIdentifierPart c) :
    tokensFrom word (front ++ back) = tokensFrom word front ++ tokensFrom [] back := by
  -- The word in front of the characters grows with each of them.
  induction front generalizing word with
  | nil =>
    cases back with
    | nil => simp [tokensFrom, completeWord]
    | cons c back =>
      have hc : isIdentifierPart c = false := by simpa using h
      simp [tokensFrom, hc, completeWord]
  | cons c front ih =>
    rw [List.cons_append, tokensFrom, tokensFrom, ih, ih]
    split <;> simp

/-- The tokens of two texts, of which the second one opens with a sign. -/
theorem tokens_append_of_opens {front back : String} (h : opensWithSign back = true) :
    tokens (front ++ back) = tokens front ++ tokens back := by
  rw [tokens, String.toList_append]
  exact tokensFrom_append h

/-- The tokens of two texts, of which the first one ends with a sign. -/
theorem tokens_append_of_ends {front back : String} (h : endsWithSign front = true) :
    tokens (front ++ back) = tokens front ++ tokens back := by
  rw [tokens, String.toList_append, tokens]
  obtain hnil | ⟨chars, c, hfront⟩ := List.eq_nil_or_concat front.toList
  · rw [hnil]
    rfl
  · have hc : isIdentifierPart c = false := by simpa [endsWithSign, hfront] using h
    have hopens : ∀ rest : List Char, (c :: rest).head?.all fun c => !isIdentifierPart c := by
      simp [hc]
    rw [hfront, List.concat_eq_append, List.append_assoc, List.singleton_append,
      tokensFrom_append (hopens _), tokensFrom_append (hopens []), List.append_assoc]
    simp [tokensFrom, hc, completeWord, tokens]

@[simp] theorem opensWithSign_append {front back : String} (h : front ≠ "") :
    opensWithSign (front ++ back) = opensWithSign front := by
  have hne : front.toList ≠ [] := fun hnil => h (String.toList_eq_nil_iff.mp hnil)
  rw [opensWithSign, String.toList_append, List.head?_append_of_ne_nil _ hne, opensWithSign]

@[simp] theorem endsWithSign_append {front back : String} (h : back ≠ "") :
    endsWithSign (front ++ back) = endsWithSign back := by
  have hne : back.toList ≠ [] := fun hnil => h (String.toList_eq_nil_iff.mp hnil)
  rw [endsWithSign, String.toList_append, List.getLast?_append_of_ne_nil _ hne, endsWithSign]

/-- Blanks in front of a line do not change its tokens. -/
theorem tokens_indented (line : String) : tokens ("    " ++ line) = tokens line :=
  tokens_append_of_ends (by decide)

/-! ## Blocks -/

/-- Whether a line is indented further than by the given number of blanks. -/
def isDeeper (indentation : Nat) (line : String) : Bool :=
  (List.replicate (indentation + 1) ' ').isPrefixOf line.toList

/-- How far a literal is indented is found without going back to its encoding. -/
theorem isDeeper_ofList {indentation : Nat} {chars : List Char}
    (h : (List.replicate (indentation + 1) ' ').isPrefixOf chars = true) :
    isDeeper indentation (String.ofList chars) = true := by
  rwa [isDeeper, String.toList_ofList]

/-- A line is indented as far as the text that it begins with. -/
theorem isDeeper_append {indentation : Nat} {front : String} (back : String)
    (h : isDeeper indentation front = true) : isDeeper indentation (front ++ back) = true := by
  rw [isDeeper, List.isPrefixOf_iff_prefix] at *
  rw [String.toList_append]
  exact h.trans (List.prefix_append _ _)

/-- A line is indented further than by any smaller number of blanks. -/
theorem isDeeper_mono {indentation less : Nat} {line : String} (hless : less ≤ indentation)
    (h : isDeeper indentation line = true) : isDeeper less line = true := by
  rw [isDeeper, List.isPrefixOf_iff_prefix] at *
  refine List.IsPrefix.trans ?_ h
  exact ⟨List.replicate (indentation - less) ' ', by
    rw [← List.replicate_add]; congr 1; omega⟩

/-- A line is not indented if its first characters say so. -/
theorem isDeeper_append_eq_false {indentation : Nat} {front : String} (back : String)
    (hlength : indentation < front.toList.length) (h : isDeeper indentation front = false) :
    isDeeper indentation (front ++ back) = false := by
  rw [← Bool.not_eq_true, isDeeper, List.isPrefixOf_iff_prefix] at *
  rw [String.toList_append]
  exact fun hprefix => h (List.prefix_of_prefix_length_le hprefix (List.prefix_append _ _)
    (by simpa [Nat.succ_le_iff] using hlength))

/-- The blocks of some lines. A block is opened by a line that is not indented any further than the
block itself; what this line says is read from its tokens. The deeper lines behind it are inside. -/
def blocks {α : Type} (opens? : List String → Option α) (indentation : Nat) :
    List String → List (α × List String)
  | [] => []
  | line :: lines =>
    let others := blocks opens? indentation lines
    if isDeeper indentation line then others
    else
      match opens? (tokens line) with
      | some head => (head, lines.takeWhile (isDeeper indentation)) :: others
      | none => others

section Blocks

variable {α β : Type} {opens? : List String → Option α} {indentation : Nat}

/-- A line that opens nothing belongs to no block that comes after it. -/
theorem blocks_cons_of_none {line : String} {lines : List String}
    (h : isDeeper indentation line = true ∨ opens? (tokens line) = none) :
    blocks opens? indentation (line :: lines) = blocks opens? indentation lines := by
  rw [blocks]
  rcases h with h | h
  · rw [if_pos h]
  · split
    · rfl
    · rw [h]

/-- Lines that open nothing belong to no block that comes after them. -/
theorem blocks_append_of_none {skipped lines : List String}
    (h : ∀ line ∈ skipped, isDeeper indentation line = true ∨ opens? (tokens line) = none) :
    blocks opens? indentation (skipped ++ lines) = blocks opens? indentation lines := by
  induction skipped with
  | nil => rfl
  | cons line skipped ih =>
    obtain ⟨hline, hskipped⟩ := List.forall_mem_cons.mp h
    rw [List.cons_append, blocks_cons_of_none hline, ih hskipped]

/-- A line with deeper lines and a closing line behind it is a block, if it opens any. -/
theorem blocks_cons_append {line closing : String} {inner lines : List String}
    (hline : isDeeper indentation line = false)
    (hinner : ∀ other ∈ inner, isDeeper indentation other = true)
    (hclosing : isDeeper indentation closing = false) (hnone : opens? (tokens closing) = none) :
    blocks opens? indentation (line :: inner ++ closing :: lines) =
      ((opens? (tokens line)).map fun head => (head, inner)).toList ++
        blocks opens? indentation lines := by
  have hskip : blocks opens? indentation (inner ++ closing :: lines) =
      blocks opens? indentation lines := by
    rw [blocks_append_of_none fun other hother => .inl (hinner other hother),
      blocks_cons_of_none (.inr hnone)]
  have htake : (inner ++ closing :: lines).takeWhile (isDeeper indentation) = inner := by
    rw [List.takeWhile_append_of_pos hinner, List.takeWhile_cons_of_neg (by simp [hclosing]),
      List.append_nil]
  rw [List.cons_append, blocks, hline, hskip, htake]
  cases opens? (tokens line) <;> rfl

/-- Blocks one after the other. -/
theorem blocks_flatMap {items : List β} {line : β → String} {head : β → α}
    {inner : β → List String} {closing : String}
    (hline : ∀ item ∈ items, isDeeper indentation (line item) = false ∧
      opens? (tokens (line item)) = some (head item))
    (hinner : ∀ item ∈ items, ∀ other ∈ inner item, isDeeper indentation other = true)
    (hclosing : isDeeper indentation closing = false) (hnone : opens? (tokens closing) = none) :
    blocks opens? indentation
        (items.flatMap fun item => line item :: inner item ++ [closing]) =
      items.map fun item => (head item, inner item) := by
  induction items with
  | nil => rfl
  | cons item items ih =>
    obtain ⟨hitem, hline⟩ := List.forall_mem_cons.mp hline
    obtain ⟨hfirst, hinner⟩ := List.forall_mem_cons.mp hinner
    rw [List.flatMap_cons, List.append_assoc, List.singleton_append,
      blocks_cons_append hitem.1 hfirst hclosing hnone, ih hline hinner, hitem.2]
    rfl

end Blocks

end PersistenceLayer.Text
