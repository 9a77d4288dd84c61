import PersistenceLayer.Proofs.JsonTrees

/-!
# What scanned tokens spell

A part of a token is scanned only where it is spelled, so the characters before
what is left of a text are known from the token that was scanned. The end of the
text is found only behind white space.
-/

namespace PersistenceLayer.Json

/-! ## Words and numbers -/

section

variable {position : Position} {chars : List Char} {rest : Remainder}

/-- A word that is scanned stands at the head. -/
theorem eq_append_of_lexWord {word : List Char} (h : lexWord position word chars = .ok rest) :
    chars = word ++ rest.chars := by
  induction word generalizing position chars with
  | nil =>
    cases h
    rfl
  | cons expected word ih =>
    cases chars with
    | nil => cases h
    | cons c chars =>
      rw [lexWord] at h
      split at h
      · next hc => rw [hc, ih h, List.cons_append]
      · cases h

/-- Where there is no digit, nothing is taken. -/
theorem eq_of_takeDigits_nil {behind : List Char} (h : takeDigits chars = ([], behind)) :
    behind = chars := by
  cases chars with
  | nil =>
    cases h
    rfl
  | cons c chars =>
    rw [takeDigits] at h
    split at h
    · cases h
    · cases h
      rfl

/-- Digits are taken where they are spelled. -/
theorem spells_of_takeDigits {digit : Nat} {digits : List Nat} {behind : List Char}
    (h : takeDigits chars = (digit :: digits, behind)) :
    SpellsDigits (digit :: digits) chars behind := by
  induction chars generalizing digit digits with
  | nil => cases h
  | cons c chars ih =>
    rw [takeDigits] at h
    split at h
    · next hc =>
      cases hothers : takeDigits chars with
      | mk others left =>
        rw [hothers] at h
        cases h
        cases digits with
        | nil =>
          rw [eq_of_takeDigits_nil hothers]
          exact .last hc
        | cons => exact .cons hc (ih hothers)
    · cases h

/-- The digits that are scanned as the whole part of a number are spelled there. -/
theorem spells_of_lexWhole {digits : List Nat} (h : lexWhole position chars = .ok (digits, rest)) :
    SpellsDigits digits chars rest.chars ∧ (digits.head? = some 0 → digits = [0]) := by
  rw [lexWhole.eq_def] at h
  split at h
  · cases h
  · cases h
  · cases h
  · next digit others behind hzero htake =>
    cases h
    refine ⟨spells_of_takeDigits htake, ?_⟩
    rintro ⟨⟩
    cases others with
    | nil => rfl
    | cons => exact (hzero _ _ rfl rfl).elim

/-- What is scanned as the fraction of a number is spelled there. -/
theorem spells_of_lexFraction {fraction : Option (List Nat)}
    (h : lexFraction position chars = .ok (fraction, rest)) :
    SpellsFraction fraction chars rest.chars := by
  rw [lexFraction.eq_def] at h
  split at h
  · split at h
    · cases h
    · cases h
    · next htake =>
      cases h
      exact .some (spells_of_takeDigits htake)
  · cases h
    exact .none

/-- What is scanned as the sign of an exponent is spelled there. -/
theorem spells_lexExponentSign (position : Position) (chars : List Char) :
    SpellsSign (lexExponentSign position chars).1 chars
      (lexExponentSign position chars).2.chars := by
  rw [lexExponentSign.eq_def]
  split
  · exact .plus
  · exact .minus
  · exact .none

/-- What is scanned as the exponent of a number is spelled there. -/
theorem spells_of_lexExponent {exponent : Option (Bool × List Nat)}
    (h : lexExponent position chars = .ok (exponent, rest)) :
    SpellsExponent exponent chars rest.chars := by
  cases chars with
  | nil =>
    cases h
    exact .none
  | cons c chars =>
    rw [lexExponent] at h
    split at h
    · next hmark =>
      have hsign := spells_lexExponentSign (position.plus 1) chars
      simp only at h
      split at h
      · cases h
      · cases h
      · next htake =>
        cases h
        exact .some hmark hsign (spells_of_takeDigits htake)
    · cases h
      exact .none

/-- A number is scanned where it is spelled, behind its sign. -/
theorem spells_of_lexMagnitude {negative : Bool} {literal : NumberLiteral}
    (h : lexMagnitude negative position chars = .ok (literal, rest)) :
    literal.negative = negative ∧ SpellsMagnitude literal chars rest.chars := by
  obtain ⟨⟨whole, afterWhole⟩, hwhole, h⟩ := bind_eq_ok_iff.mp h
  obtain ⟨⟨fraction, afterFraction⟩, hfraction, h⟩ := bind_eq_ok_iff.mp h
  obtain ⟨⟨exponent, afterExponent⟩, hexponent, h⟩ := bind_eq_ok_iff.mp h
  cases h
  obtain ⟨hdigits, hzero⟩ := spells_of_lexWhole hwhole
  exact ⟨rfl, .mk hdigits hzero (spells_of_lexFraction hfraction)
    (spells_of_lexExponent hexponent)⟩

/-! ## Texts -/

/-- A letter that is read as a character escapes it. -/
theorem mem_escapeLetters {letter c : Char} (h : letterEscape? letter = some c) :
    (letter, c) ∈ escapeLetters := by
  unfold letterEscape? at h
  split at h <;> cases h <;> decide

/-- A text is scanned where elements are spelled. -/
theorem exists_spells_of_lexText {progress : Progress} {value : Except Fault String}
    (h : lexText position progress chars = .ok (value, rest)) :
    ∃ elements, SpellsElements elements chars rest.chars := by
  fun_induction lexText position progress chars with
  | case1 | case3 | case5 | case6 | case8 | case9 => cases h
  | case2 =>
    cases h
    exact ⟨[], .close⟩
  | case4 _ _ _ _ _ _ _ _ hunit _ ih =>
    obtain ⟨elements, hspells⟩ := ih h
    exact ⟨_, .unit hunit hspells⟩
  | case7 _ _ _ _ _ _ hletter _ ih =>
    obtain ⟨elements, hspells⟩ := ih h
    exact ⟨_, .letter (mem_escapeLetters hletter) hspells⟩
  | case10 _ _ _ _ hquote hbackslash hcontrol ih =>
    obtain ⟨elements, hspells⟩ := ih h
    exact ⟨_, .plain hquote hbackslash (Nat.not_lt.mp hcontrol) hspells⟩

/-- The content of a text is scanned where it is spelled. -/
theorem spellsText_of_lexText {value : Except Fault String}
    (h : lexText position (.decoded []) chars = .ok (value, rest)) :
    SpellsText value.toOption chars rest.chars := by
  obtain ⟨elements, hspells⟩ := exists_spells_of_lexText h
  have hcontent : ∃ content, SpellsText content chars rest.chars := by
    by_cases hstands : ∃ text, StandFor elements text
    · obtain ⟨text, htext⟩ := hstands
      rw [← String.toList_ofList (l := text)] at htext
      exact ⟨_, .paired hspells htext⟩
    · exact ⟨none, .unpaired hspells (not_exists.mp hstands)⟩
  obtain ⟨content, hcontent⟩ := hcontent
  obtain ⟨other, stop, hscan, rfl⟩ := lexText_of_spellsText hcontent position
  obtain ⟨rfl, -⟩ := Prod.mk.inj (Except.ok.inj (h.symm.trans hscan))
  exact hcontent

end

/-! ## Tokens -/

/-- How a token is spelled. -/
inductive SpellsLexeme : Lexeme → List Char → List Char → Prop
  | openBracket {rest : List Char} : SpellsLexeme .openBracket ('[' :: rest) rest
  | closeBracket {rest : List Char} : SpellsLexeme .closeBracket (']' :: rest) rest
  | openBrace {rest : List Char} : SpellsLexeme .openBrace ('\x7b' :: rest) rest
  | closeBrace {rest : List Char} : SpellsLexeme .closeBrace ('\x7d' :: rest) rest
  | comma {rest : List Char} : SpellsLexeme .comma (',' :: rest) rest
  | colon {rest : List Char} : SpellsLexeme .colon (':' :: rest) rest
  | null {rest : List Char} : SpellsLexeme .null ('n' :: 'u' :: 'l' :: 'l' :: rest) rest
  | true {rest : List Char} : SpellsLexeme (.boolean true) ('t' :: 'r' :: 'u' :: 'e' :: rest) rest
  | false {rest : List Char} :
      SpellsLexeme (.boolean false) ('f' :: 'a' :: 'l' :: 's' :: 'e' :: rest) rest
  | number {literal : NumberLiteral} {chars rest : List Char}
      (h : SpellsNumber literal chars rest) : SpellsLexeme (.number literal) chars rest
  | text {value : Except Fault String} {chars rest : List Char}
      (h : SpellsText value.toOption chars rest) : SpellsLexeme (.text value) ('"' :: chars) rest

/-- A broken token is the last one, and not the end of the text. -/
theorem brokenToken_isLast (isText : Bool) (start : Position) (faults : Fault × Fault) :
    (brokenToken isText start faults).1.isLast = true ∧
      (brokenToken isText start faults).1.lexeme ≠ .endOfText :=
  ⟨rfl, by simp [brokenToken]⟩

/-- A token that is not the last one is scanned where it is spelled, and the end of the text is not
found where there is a character. -/
theorem lexToken_cases (start : Position) (c : Char) (chars : List Char) :
    (lexToken start c chars).1.isLast = true ∧ (lexToken start c chars).1.lexeme ≠ .endOfText ∨
      SpellsLexeme (lexToken start c chars).1.lexeme (c :: chars) (lexToken start c chars).2 := by
  fun_cases lexToken start c chars with
  | case1 => exact .inr .openBracket
  | case2 => exact .inr .closeBracket
  | case3 => exact .inr .openBrace
  | case4 => exact .inr .closeBrace
  | case5 => exact .inr .comma
  | case6 => exact .inr .colon
  | case7 =>
    rw [textToken.eq_def]
    split
    · next h => exact .inr (.text (spellsText_of_lexText h))
    · exact .inl (brokenToken_isLast _ _ _)
  | case8 | case9 | case10 =>
    rw [wordToken]
    split
    · next h =>
      rw [eq_append_of_lexWord h]
      exact .inr (by constructor)
    · exact .inl (brokenToken_isLast _ _ _)
  | case11 =>
    rw [numberToken.eq_def]
    split
    · next h =>
      obtain ⟨hsign, hspells⟩ := spells_of_lexMagnitude h
      exact .inr (.number (.negative hsign hspells))
    · exact .inl (brokenToken_isLast _ _ _)
  | case12 =>
    rw [numberToken.eq_def]
    split
    · next h =>
      obtain ⟨hsign, hspells⟩ := spells_of_lexMagnitude h
      exact .inr (.number (.positive hsign hspells))
    · exact .inl (brokenToken_isLast _ _ _)
  | case13 => exact .inl ⟨rfl, by simp⟩

/-- How some characters are scanned: as a token that is spelled behind white space and what is
scanned after it, or as the last token, which is the end of the text only where nothing is left. -/
inductive Scans (chars : List Char) : List Token → Prop
  | last {token : Token} (hlast : token.isLast = true)
      (hend : token.lexeme = .endOfText → Blanks chars []) : Scans chars [token]
  | cons {token : Token} {start rest : List Char} (hblanks : Blanks chars start)
      (h : SpellsLexeme token.lexeme start rest) (hlength : rest.length < chars.length) :
      Scans chars (token :: scanFrom token.stop rest)

/-- White space has the characters that are passed over. -/
theorem mem_blanks_of_isSpace {c : Char} (h : isSpace c = true) : c ∈ [' ', '\t', '\n', '\r'] := by
  simpa [isSpace, or_assoc] using h

/-- White space in front of tokens is passed over. -/
theorem Scans.blank {c : Char} {chars : List Char} {tokens : List Token} (h : Scans chars tokens)
    (hc : c ∈ [' ', '\t', '\n', '\r']) : Scans (c :: chars) tokens := by
  cases h with
  | last hlast hend => exact .last hlast fun heq => .cons hc (hend heq)
  | cons hblanks h hlength => exact .cons (.cons hc hblanks) h (Nat.lt_succ_of_lt hlength)

/-- The tokens that are scanned are those that are spelled. -/
theorem scans_scanFrom (position : Position) (chars : List Char) :
    Scans chars (scanFrom position chars) := by
  fun_induction scanFrom position chars with
  | case1 => exact .last rfl fun _ => .nil
  | case2 position c chars hspace ih => exact ih.blank (mem_blanks_of_isSpace hspace)
  | case3 position c chars hspace next _ hlast =>
    refine .last hlast fun heq => ?_
    obtain ⟨-, hne⟩ | hspells := lexToken_cases position c chars
    · exact absurd heq hne
    · rw [heq] at hspells
      cases hspells
  | case4 position c chars hspace next hlength hlast ih =>
    obtain ⟨hother, -⟩ | hspells := lexToken_cases position c chars
    · exact absurd hother hlast
    · exact .cons .nil hspells (Nat.lt_succ_of_le hlength)

end PersistenceLayer.Json
