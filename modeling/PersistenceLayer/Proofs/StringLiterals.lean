import PersistenceLayer.Text.Hex
import Mathlib.Data.List.Basic

/-!
# String literals of Kotlin sources

A text between double quotes is read the way the compiler of Kotlin sources reads
it: a backslash opens an escape, a dollar sign may open a template, and the line
must not end in front of the second quote. So a name that is put between quotes
as it is stands for itself exactly if there is nothing of the kind in it.
-/

namespace PersistenceLayer.StringLiteral

open Text (fourHexValue?)

/-- The UTF-16 units of a character, of which the values of literals are made. -/
def units (c : Char) : List Nat :=
  if c.toNat < 0x10000 then [c.toNat]
  else [0xD800 + (c.toNat - 0x10000) / 0x400, 0xDC00 + (c.toNat - 0x10000) % 0x400]

/-- Whether a character ends a line. -/
def isLineBreak (c : Char) : Bool :=
  c == '\n' || c == '\r'

/-- Whether a character stands for itself wherever it is in a literal: it does not end the literal
or the line, and opens neither an escape nor a template. -/
def isOrdinary (c : Char) : Bool :=
  c != '"' && c != '\\' && c != '$' && !isLineBreak c

/-- The unit that a character stands for behind a backslash. -/
def escapedUnit? (c : Char) : Option Nat :=
  if c = 't' then some 0x09
  else if c = 'b' then some 0x08
  else if c = 'n' then some 0x0A
  else if c = 'r' then some 0x0D
  else if c = '\'' ∨ c = '"' ∨ c = '\\' ∨ c = '$' then some c.toNat
  else none

/-- A value that goes on behind some units, with what follows the literal. -/
def prepend (front : List Nat) (found : Option (List Nat × List Char)) :
    Option (List Nat × List Char) :=
  found.map fun (value, after) => (front ++ value, after)

section

variable (isLetter : Char → Bool)

/-- Whether a dollar sign in front of some characters opens a template: an expression in braces, a
name, or a name between grave accents. -/
def opensTemplate : List Char → Bool
  | '\x7b' :: _ => true
  | '\x60' :: rest =>
    let name := rest.takeWhile fun c => c != '\x60' && !isLineBreak c
    !name.isEmpty && rest[name.length]? == some '\x60'
  | c :: _ => isLetter c || c == '_'
  | [] => false

/-- The value of a literal from somewhere behind its first quote on, with what follows the second
one. There is none if the literal is not complete, or not constant. -/
def readBody? : List Char → Option (List Nat × List Char)
  | '"' :: rest => some ([], rest)
  | '\\' :: 'u' :: a :: b :: c :: d :: rest => do
    let unit ← fourHexValue? a b c d
    prepend [unit] (readBody? rest)
  | '\\' :: c :: rest => do
    let unit ← escapedUnit? c
    prepend [unit] (readBody? rest)
  | c :: rest =>
    if c = '\\' ∨ isLineBreak c = true ∨ c = '$' ∧ opensTemplate isLetter rest = true then none
    else prepend (units c) (readBody? rest)
  | [] => none

/-- The value of the literal that a text begins with, with what follows it. Three quotes open a
literal of another kind. -/
def read? : List Char → Option (List Nat × List Char)
  | '"' :: '"' :: '"' :: _ => none
  | '"' :: rest => readBody? isLetter rest
  | _ => none

/-- Whether a name between quotes is free of everything that does not stand for itself there. -/
def IsPlain (name after : List Char) : Prop :=
  ∀ c rest, c :: rest <:+ name →
    c ∉ ['"', '\\', '\n', '\r'] ∧
      (c = '$' → opensTemplate isLetter (rest ++ '"' :: after) = false)

end

variable {isLetter : Char → Bool} {text name after : List Char} {value : List Nat}

theorem length_units_pos (c : Char) : 0 < (units c).length := by
  rw [units]
  split <;> simp

theorem prepend_eq_some_iff {front : List Nat} {found : Option (List Nat × List Char)} :
    prepend front found = some (value, after) ↔
      ∃ rest, found = some (rest, after) ∧ front ++ rest = value := by
  simp [prepend]

theorem isPlain_nil : IsPlain isLetter [] after :=
  fun c rest hsuffix => by simp at hsuffix

/-- A plain name is a plain character with a plain name behind it. -/
theorem isPlain_cons {c : Char} :
    IsPlain isLetter (c :: name) after ↔
      (c ∉ ['"', '\\', '\n', '\r'] ∧
        (c = '$' → opensTemplate isLetter (name ++ '"' :: after) = false)) ∧
      IsPlain isLetter name after := by
  constructor
  · exact fun h => ⟨h c name List.suffix_rfl, fun next rest hsuffix =>
      h next rest (hsuffix.trans (List.suffix_cons c name))⟩
  · rintro ⟨hc, hname⟩ next rest hsuffix
    rcases List.suffix_cons_iff.mp hsuffix with heq | hsuffix
    · obtain ⟨rfl, rfl⟩ := List.cons.inj heq
      exact hc
    · exact hname next rest hsuffix

/-- An ordinary character is none of the others. -/
theorem isOrdinary_iff {c : Char} :
    isOrdinary c = true ↔ c ≠ '"' ∧ c ≠ '\\' ∧ c ≠ '$' ∧ isLineBreak c = false := by
  simp [isOrdinary, and_assoc]

/-- A name of ordinary characters is plain, whatever follows it. -/
theorem isPlain_of_isOrdinary (h : ∀ c ∈ name, isOrdinary c = true) :
    IsPlain isLetter name after := by
  intro c rest hsuffix
  obtain ⟨hquote, hbackslash, hdollar, hbreak⟩ :=
    isOrdinary_iff.mp (h c (hsuffix.mem List.mem_cons_self))
  have hlines : c ≠ '\n' ∧ c ≠ '\r' := by simpa [isLineBreak] using hbreak
  exact ⟨by simp [hquote, hbackslash, hlines], fun heq => absurd heq hdollar⟩

/-- An ordinary character is a part of the value. -/
theorem readBody?_cons_of_isOrdinary {c : Char} (h : isOrdinary c = true) (rest : List Char) :
    readBody? isLetter (c :: rest) = prepend (units c) (readBody? isLetter rest) := by
  obtain ⟨hquote, hbackslash, hdollar, hbreak⟩ := isOrdinary_iff.mp h
  rw [readBody?.eq_4]
  · rw [if_neg]
    simp [hbackslash, hbreak, hdollar]
  · exact hquote
  · exact fun _ _ _ _ _ heq => absurd heq hbackslash
  · exact fun _ _ heq => absurd heq hbackslash

/-- A plain name is read as what it is. -/
theorem readBody?_of_isPlain (h : IsPlain isLetter name after) :
    readBody? isLetter (name ++ '"' :: after) = some (name.flatMap units, after) := by
  induction name with
  | nil => simp [readBody?]
  | cons c name ih =>
    obtain ⟨⟨hc, htemplate⟩, hname⟩ := isPlain_cons.mp h
    simp only [List.mem_cons, List.not_mem_nil, or_false, not_or] at hc
    obtain ⟨hquote, hbackslash, hlineFeed, hreturn⟩ := hc
    rw [List.cons_append, readBody?.eq_4]
    · rw [if_neg, ih hname]
      · rfl
      · simpa [isLineBreak, hbackslash, hlineFeed, hreturn] using htemplate
    · exact hquote
    · exact fun _ _ _ _ _ h => absurd h hbackslash
    · exact fun _ _ h => absurd h hbackslash

/-- Whether characters are a plain name with the given value, or take more units than the value. -/
def IsPlainOrLonger (isLetter : Char → Bool) (name after : List Char) (value : List Nat) : Prop :=
  value = name.flatMap units ∧ IsPlain isLetter name after ∨
    value.length < (name.flatMap units).length

/-- An escape takes more units than it stands for. -/
theorem IsPlainOrLonger.escape {first second : Char} {front : List Char} {unit : Nat}
    (h : IsPlainOrLonger isLetter name after value) :
    IsPlainOrLonger isLetter (first :: second :: (front ++ name)) after (unit :: value) := by
  have hlength : value.length ≤ (name.flatMap units).length := by
    rcases h with ⟨rfl, -⟩ | h
    · exact Nat.le_refl _
    · exact Nat.le_of_lt h
  have hfirst := length_units_pos first
  have hsecond := length_units_pos second
  refine .inr ?_
  simp only [List.flatMap_cons, List.flatMap_append, List.length_append, List.length_cons]
  omega

/-- What is read up to the second quote is a plain name, or takes more units than its value. -/
theorem exists_of_readBody? (h : readBody? isLetter text = some (value, after)) :
    ∃ name, text = name ++ '"' :: after ∧ IsPlainOrLonger isLetter name after value := by
  fun_induction readBody? isLetter text generalizing value with
  | case1 rest =>
    obtain ⟨rfl, rfl⟩ := Prod.mk.inj (Option.some.inj h)
    exact ⟨[], rfl, .inl ⟨rfl, isPlain_nil⟩⟩
  | case2 a b c d rest ih =>
    obtain ⟨unit, -, h⟩ := Option.bind_eq_some_iff.mp h
    obtain ⟨found, hfound, rfl⟩ := prepend_eq_some_iff.mp h
    obtain ⟨name, rfl, hname⟩ := ih hfound
    exact ⟨'\\' :: 'u' :: ([a, b, c, d] ++ name), rfl, hname.escape⟩
  | case3 c rest _ ih =>
    obtain ⟨unit, -, h⟩ := Option.bind_eq_some_iff.mp h
    obtain ⟨found, hfound, rfl⟩ := prepend_eq_some_iff.mp h
    obtain ⟨name, rfl, hname⟩ := ih hfound
    exact ⟨'\\' :: c :: ([] ++ name), rfl, hname.escape⟩
  | case4 => cases h
  | case5 c rest hquote _ _ hordinary ih =>
    obtain ⟨found, hfound, rfl⟩ := prepend_eq_some_iff.mp h
    obtain ⟨name, rfl, hname⟩ := ih hfound
    refine ⟨c :: name, rfl, ?_⟩
    rcases hname with ⟨rfl, hname⟩ | hname
    · have hrest : c ≠ '\\' ∧ c ≠ '\n' ∧ c ≠ '\r' ∧
          (c = '$' → opensTemplate isLetter (name ++ '"' :: after) = false) := by
        simpa [isLineBreak, and_assoc] using hordinary
      obtain ⟨hbackslash, hlineFeed, hreturn, htemplate⟩ := hrest
      refine .inl ⟨rfl, isPlain_cons.mpr ⟨⟨?_, htemplate⟩, hname⟩⟩
      simp only [List.mem_cons, List.not_mem_nil, or_false, not_or]
      exact ⟨hquote, hbackslash, hlineFeed, hreturn⟩
    · exact .inr (by simpa using hname)
  | case6 => cases h

/-- A name between quotes is read as what it is exactly if it is plain. -/
theorem read?_eq_some_iff (hne : name ≠ []) :
    read? isLetter ('"' :: (name ++ '"' :: after)) = some (name.flatMap units, after) ↔
      IsPlain isLetter name after := by
  constructor
  · intro h
    have hbody : readBody? isLetter (name ++ '"' :: after) = some (name.flatMap units, after) := by
      unfold read? at h
      split at h
      · cases h
      · next heq => rwa [(List.cons.inj heq).2]
      · cases h
    obtain ⟨other, heq, ⟨-, hplain⟩ | hlonger⟩ := exists_of_readBody? hbody
    · rwa [List.append_cancel_right heq]
    · rw [List.append_cancel_right heq] at hlonger
      exact absurd hlonger (Nat.lt_irrefl _)
  · intro h
    obtain ⟨c, rest, rfl⟩ := List.exists_cons_of_ne_nil hne
    have hquote : c ≠ '"' := fun heq => (isPlain_cons.mp h).1.1 (heq ▸ List.mem_cons_self)
    rw [read?.eq_2]
    · exact readBody?_of_isPlain h
    · intro _ heq
      exact hquote (List.cons.inj heq).1

end PersistenceLayer.StringLiteral
