import Mathlib.Logic.Basic
import Mathlib.Tactic.SplitIfs
import PersistenceLayer.Json.Printer
import PersistenceLayer.Json.Token
import PersistenceLayer.Proofs.JsonGrammar

/-!
# Scanning literals

A text is scanned as the characters that its elements stand for, or as a fault if
a surrogate has no partner. A number is scanned as its literal if it is followed
by no character it can go on with.
-/

namespace PersistenceLayer.Json

/-! ## Code units -/

/-- A hexadecimal digit has a value below sixteen. -/
theorem hexValue?_lt {c : Char} {value : Nat} (h : Text.hexValue? c = some value) : value < 16 := by
  have hle : ∀ {a b : Char}, a ≤ b → a.toNat ≤ b.toNat := fun h => h
  unfold Text.hexValue? at h
  split_ifs at h with hdigit hlower hupper
  · have hlast := hle hdigit.2
    have hten : '9'.toNat = '0'.toNat + 9 := rfl
    cases h
    omega
  · have hlast := hle hlower.2
    have hsix : 'f'.toNat = 'a'.toNat + 5 := rfl
    cases h
    omega
  · have hlast := hle hupper.2
    have hsix : 'F'.toNat = 'A'.toNat + 5 := rfl
    cases h
    omega

/-- Four hexadecimal digits write a code unit of 16 bits. -/
theorem fourHexValue?_lt {first second third fourth : Char} {value : Nat}
    (h : Text.fourHexValue? first second third fourth = some value) : value < 0x10000 := by
  simp only [Text.fourHexValue?, Option.pure_def, Option.bind_eq_bind, Option.bind_eq_some_iff,
    Option.some.injEq] at h
  obtain ⟨a, ha, b, hb, c, hc, d, hd, rfl⟩ := h
  have := hexValue?_lt ha
  have := hexValue?_lt hb
  have := hexValue?_lt hc
  have := hexValue?_lt hd
  omega

/-- No character is numbered like a surrogate. -/
theorem toNat_isScalar (c : Char) : c.toNat < 0xD800 ∨ 0xDFFF < c.toNat ∧ c.toNat < 0x110000 :=
  c.valid

/-- Whether a code unit is the first half of a pair. -/
def IsLeading (unit : Nat) : Prop := 0xD800 ≤ unit ∧ unit ≤ 0xDBFF

/-- Whether a code unit is the second half of a pair. -/
def IsTrailing (unit : Nat) : Prop := 0xDC00 ≤ unit ∧ unit ≤ 0xDFFF

section

variable {elements : List TextElement} {text : List Char} {unit first second : Nat}

/-- A character stands for itself. -/
theorem standFor_char_iff {c : Char} :
    StandFor (.char c :: elements) text ↔
      ∃ others, StandFor elements others ∧ c :: others = text := by
  constructor
  · rintro (_ | ⟨h⟩)
    exact ⟨_, h, rfl⟩
  · rintro ⟨others, h, rfl⟩
    exact .char h

/-- A code unit that is no surrogate stands for the character of its number. -/
theorem standFor_unit_iff (hunit : unit < 0x10000) (hleading : ¬ IsLeading unit)
    (htrailing : ¬ IsTrailing unit) :
    StandFor (.unit unit :: elements) text ↔
      ∃ others, StandFor elements others ∧ Char.ofNat unit :: others = text := by
  unfold IsLeading at hleading
  unfold IsTrailing at htrailing
  constructor
  · intro h
    cases h with
    | unit _ h => exact ⟨_, h, by rw [Char.ofNat_toNat]⟩
    | @pair c _ _ hc _ =>
      have hscalar := toNat_isScalar c
      omega
  · rintro ⟨others, h, rfl⟩
    have hvalid : unit.isValidChar := by
      unfold Nat.isValidChar
      omega
    obtain ⟨c, rfl⟩ : ∃ c : Char, c.toNat = unit := ⟨.ofNatAux unit hvalid, rfl⟩
    rw [Char.ofNat_toNat]
    exact .unit hunit h

/-- A pair of code units stands for the character beyond the basic plane that they number. -/
theorem standFor_pair_iff (hfirst : IsLeading first) (hsecond : IsTrailing second) :
    StandFor (.unit first :: .unit second :: elements) text ↔
      ∃ others, StandFor elements others ∧
        Char.ofNat ((first - 0xD800) * 0x400 + (second - 0xDC00) + 0x10000) :: others = text := by
  unfold IsLeading at hfirst
  unfold IsTrailing at hsecond
  constructor
  · intro h
    generalize hunits : TextElement.unit first :: .unit second :: elements = units at h
    cases h with
    | nil | char => cases hunits
    | @unit c _ _ _ h =>
      obtain ⟨hc, rfl⟩ := List.cons.inj hunits
      have hnumber : first = c.toNat := TextElement.unit.inj hc
      have hscalar := toNat_isScalar c
      omega
    | @pair c _ _ hc h =>
      obtain ⟨hhigh, hrest⟩ := List.cons.inj hunits
      obtain ⟨hlow, rfl⟩ := List.cons.inj hrest
      have hfirst : first = _ := TextElement.unit.inj hhigh
      have hsecond : second = _ := TextElement.unit.inj hlow
      refine ⟨_, h, ?_⟩
      have hnumber : (first - 0xD800) * 0x400 + (second - 0xDC00) + 0x10000 = c.toNat := by omega
      rw [hnumber, Char.ofNat_toNat]
  · rintro ⟨others, h, rfl⟩
    have hvalid : ((first - 0xD800) * 0x400 + (second - 0xDC00) + 0x10000).isValidChar := by
      unfold Nat.isValidChar
      omega
    obtain ⟨c, hnumber⟩ : ∃ c : Char,
        c.toNat = (first - 0xD800) * 0x400 + (second - 0xDC00) + 0x10000 :=
      ⟨.ofNatAux _ hvalid, rfl⟩
    rw [← hnumber, Char.ofNat_toNat]
    have hhigh : first = 0xD800 + (c.toNat - 0x10000) / 0x400 := by omega
    have hlow : second = 0xDC00 + (c.toNat - 0x10000) % 0x400 := by omega
    rw [hhigh, hlow]
    exact .pair (by omega) h

/-- A second half without a first one stands for no character. -/
theorem not_standFor_trailing (hunit : IsTrailing unit) :
    ¬ StandFor (.unit unit :: elements) text := by
  unfold IsTrailing at hunit
  intro h
  cases h with
  | @unit c =>
    have hscalar := toNat_isScalar c
    omega
  | @pair c =>
    have hscalar := toNat_isScalar c
    omega

/-- A first half without a second one stands for no character. -/
theorem not_standFor_leading (hfirst : IsLeading first)
    (hnext : ∀ second others, elements = .unit second :: others → ¬ IsTrailing second) :
    ¬ StandFor (.unit first :: elements) text := by
  unfold IsLeading at hfirst
  intro h
  cases h with
  | @unit c =>
    have hscalar := toNat_isScalar c
    omega
  | pair => exact hnext _ _ rfl ⟨by omega, by omega⟩

end

/-! ## Texts -/

namespace Progress

/-- Whether some more elements complete a text. -/
def Yields (progress : Progress) (elements : List TextElement) (text : String) : Prop :=
  match progress with
  | decoded chars =>
    ∃ others, StandFor elements others ∧ chars.reverse ++ others = text.toList
  | leading chars unit =>
    ∃ others, StandFor (.unit unit :: elements) others ∧ chars.reverse ++ others = text.toList
  | failed _ => False

/-- Whether the code unit that waits for its partner is a first half. -/
def IsSound : Progress → Prop
  | leading _ unit => IsLeading unit
  | _ => True

variable {progress : Progress} {elements : List TextElement} {text : String}

/-- What has been scanned stays sound with a character more. -/
theorem IsSound.push (h : progress.IsSound) (c : Char) (position : Position) :
    (progress.push c position).IsSound := by
  cases progress <;> trivial

/-- What has been scanned stays sound with a code unit more. -/
theorem IsSound.pushUnit (h : progress.IsSound) (unit : Nat) (position : Position) :
    (progress.pushUnit unit position).IsSound := by
  cases progress with
  | decoded chars =>
    simp only [Progress.pushUnit]
    split_ifs with htrailing hleading
    · trivial
    · exact hleading
    · trivial
  | leading chars first =>
    simp only [Progress.pushUnit]
    split_ifs <;> trivial
  | failed fault => trivial

/-- A character completes what it is an element of. -/
theorem yields_push (hsound : progress.IsSound) (c : Char) (position : Position) :
    (progress.push c position).Yields elements text ↔
      progress.Yields (.char c :: elements) text := by
  cases progress with
  | decoded chars => simp [push, Yields, standFor_char_iff]
  | leading chars unit =>
    have hlone : ∀ others, ¬ StandFor (.unit unit :: .char c :: elements) others :=
      fun others => not_standFor_leading hsound (by simp)
    simp [push, Yields, hlone]
  | failed fault => simp [push, Yields]

/-- A code unit completes what it is an element of. -/
theorem yields_pushUnit (hsound : progress.IsSound) {unit : Nat} (hunit : unit < 0x10000)
    (position : Position) :
    (progress.pushUnit unit position).Yields elements text ↔
      progress.Yields (.unit unit :: elements) text := by
  cases progress with
  | decoded chars =>
    simp only [pushUnit]
    split_ifs with htrailing hleading
    · simp [Yields, not_standFor_trailing htrailing]
    · exact Iff.rfl
    · simp [Yields, standFor_unit_iff hunit hleading htrailing]
  | leading chars first =>
    simp only [pushUnit]
    split_ifs with htrailing
    · simp [Yields, standFor_pair_iff hsound htrailing]
    · have hlone : ∀ others, ¬ StandFor (.unit first :: .unit unit :: elements) others :=
        fun others => not_standFor_leading hsound fun second _ heq => by
          cases heq
          exact htrailing
      simp [Yields, hlone]
  | failed fault => simp [pushUnit, Yields]

/-- The text is complete at its closing quote. -/
theorem finish_eq_ok_iff (hsound : progress.IsSound) (position : Position) :
    progress.finish position = .ok text ↔ progress.Yields [] text := by
  cases progress with
  | decoded chars =>
    have hnil : ∀ others, StandFor [] others ↔ others = [] :=
      fun others => ⟨fun h => by cases h; rfl, fun h => h ▸ .nil⟩
    simp only [finish, Except.ok.injEq, Yields, hnil, exists_eq_left, List.append_nil,
      ← String.toList_inj, String.toList_ofList]
  | leading chars unit =>
    have hlone : ∀ others, ¬ StandFor [.unit unit] others :=
      fun others => not_standFor_leading hsound (by simp)
    simp [finish, Yields, hlone]
  | failed fault => simp [finish, Yields]

end Progress

/-- A letter that escapes a character is read as that character, and does not announce a number. -/
theorem letterEscape?_of_mem {letter c : Char} (h : (letter, c) ∈ escapeLetters) :
    letterEscape? letter = some c ∧ letter ≠ 'u' := by
  simp only [escapeLetters, List.mem_cons, Prod.mk.injEq, List.not_mem_nil, or_false] at h
  rcases h with ⟨rfl, rfl⟩ | ⟨rfl, rfl⟩ | ⟨rfl, rfl⟩ | ⟨rfl, rfl⟩ | ⟨rfl, rfl⟩ | ⟨rfl, rfl⟩ |
    ⟨rfl, rfl⟩ | ⟨rfl, rfl⟩ <;> exact ⟨rfl, by decide⟩

/-- Elements are scanned up to their closing quote. They yield a text if they complete one. -/
theorem lexText_of_spells {elements : List TextElement} {chars rest : List Char}
    (h : SpellsElements elements chars rest) {progress : Progress} (hsound : progress.IsSound)
    (position : Position) :
    ∃ value stop, lexText position progress chars = .ok (value, ⟨stop, rest⟩) ∧
      ∀ text, value = .ok text ↔ progress.Yields elements text := by
  induction h generalizing progress position with
  | close =>
    refine ⟨progress.finish (position.plus 1), position.plus 1, ?_,
      fun text => Progress.finish_eq_ok_iff hsound _⟩
    rw [lexText.eq_def]
    rfl
  | @plain c elements chars rest hquote hbackslash hcontrol _ ih =>
    obtain ⟨value, stop, hscan, hvalue⟩ :=
      ih (hsound.push c (position.plus 1)) (position.after c)
    refine ⟨value, stop, ?_, fun text => (hvalue text).trans (Progress.yields_push hsound _ _)⟩
    rw [lexText.eq_def]
    simp only [if_neg hquote, if_neg hbackslash, if_neg (Nat.not_lt.mpr hcontrol), hscan]
  | @letter letter c elements chars rest hletter _ ih =>
    obtain ⟨hescape, hu⟩ := letterEscape?_of_mem hletter
    obtain ⟨value, stop, hscan, hvalue⟩ := ih (hsound.push c (position.plus 2)) (position.plus 2)
    refine ⟨value, stop, ?_, fun text => (hvalue text).trans (Progress.yields_push hsound _ _)⟩
    rw [lexText.eq_def]
    simp only [if_neg (show '\\' ≠ '"' by decide), if_true, if_neg hu, hescape, hscan]
  | @unit first second third fourth unit elements chars rest hunit _ ih =>
    obtain ⟨value, stop, hscan, hvalue⟩ :=
      ih (hsound.pushUnit unit (position.plus 6)) (position.plus 6)
    refine ⟨value, stop, ?_, fun text => (hvalue text).trans
      (Progress.yields_pushUnit hsound (fourHexValue?_lt hunit) _)⟩
    rw [lexText.eq_def]
    simp only [if_neg (show '\\' ≠ '"' by decide), if_true, hunit, hscan]

/-- The content of a text is scanned up to its closing quote. -/
theorem lexText_of_spellsText {content : Option String} {chars rest : List Char}
    (h : SpellsText content chars rest) (position : Position) :
    ∃ value stop, lexText position (.decoded []) chars = .ok (value, ⟨stop, rest⟩) ∧
      value.toOption = content := by
  have hsound : (Progress.decoded []).IsSound := trivial
  cases h with
  | @paired elements text _ _ h htext =>
    obtain ⟨value, stop, hscan, hvalue⟩ := lexText_of_spells h hsound position
    rw [(hvalue text).mpr ⟨_, htext, rfl⟩] at hscan
    exact ⟨_, stop, hscan, rfl⟩
  | unpaired h hnone =>
    obtain ⟨value, stop, hscan, hvalue⟩ := lexText_of_spells h hsound position
    refine ⟨value, stop, hscan, ?_⟩
    cases value with
    | error fault => rfl
    | ok text =>
      obtain ⟨others, hothers, -⟩ := (hvalue text).mp rfl
      exact absurd hothers (hnone others)

/-! ## Numbers -/

/-- Whether some characters do not go on with a number: they are none, or they start with what
follows a value. -/
def EndsValue (chars : List Char) : Prop :=
  ∀ c ∈ chars.head?, c ∈ [',', ']', '\x7d', ' ', '\t', '\n', '\r']

/-- What follows a value is no part of a number. -/
theorem EndsValue.head?_ne {chars : List Char} (h : EndsValue chars) {c : Char}
    (hc : c ∈ chars.head?) : c.isDigit = false ∧ c ≠ '.' ∧ ¬ (c = 'e' ∨ c = 'E') := by
  have hends : ∀ c ∈ [',', ']', '\x7d', ' ', '\t', '\n', '\r'],
      c.isDigit = false ∧ c ≠ '.' ∧ ¬ (c = 'e' ∨ c = 'E') := by simp
  exact hends c (h c hc)

/-- Digits are taken up to what is no digit. -/
theorem takeDigits_of_spells {digits : List Nat} {chars rest : List Char}
    (h : SpellsDigits digits chars rest) (hrest : ∀ c ∈ rest.head?, c.isDigit = false) :
    takeDigits chars = (digits, rest) := by
  induction h with
  | @last c rest hc =>
    cases rest with
    | nil => simp [takeDigits, hc]
    | cons d rest => simp [takeDigits, hc, hrest d rfl]
  | cons hc _ ih => simp only [takeDigits, if_pos hc, ih hrest]

/-- There is at least one digit where digits are spelled. -/
theorem SpellsDigits.ne_nil {digits : List Nat} {chars rest : List Char}
    (h : SpellsDigits digits chars rest) : digits ≠ [] := by
  cases h <;> exact List.cons_ne_nil _ _

/-- The whole part of a number is scanned as the digits that spell it. -/
theorem lexWhole_of_spells {digits : List Nat} {chars rest : List Char}
    (h : SpellsDigits digits chars rest) (hzero : digits.head? = some 0 → digits = [0])
    (hrest : ∀ c ∈ rest.head?, c.isDigit = false) (position : Position) :
    ∃ stop, lexWhole position chars = .ok (digits, ⟨stop, rest⟩) := by
  rw [lexWhole.eq_def, takeDigits_of_spells h hrest]
  split
  · next heq => exact absurd (Prod.mk.inj heq).1 h.ne_nil
  · next heq => exact absurd (Prod.mk.inj heq).1 h.ne_nil
  · next heq =>
    obtain ⟨rfl, -⟩ := Prod.mk.inj heq
    cases hzero rfl
  · next heq =>
    obtain ⟨rfl, rfl⟩ := Prod.mk.inj heq
    exact ⟨_, rfl⟩

/-- The fraction of a number is scanned as what spells it. -/
theorem lexFraction_of_spells {fraction : Option (List Nat)} {chars rest : List Char}
    (h : SpellsFraction fraction chars rest)
    (hrest : ∀ c ∈ rest.head?, c.isDigit = false ∧ c ≠ '.') (position : Position) :
    ∃ stop, lexFraction position chars = .ok (fraction, ⟨stop, rest⟩) := by
  cases h with
  | none =>
    rw [lexFraction.eq_def]
    split
    · exact absurd rfl (hrest '.' rfl).2
    · exact ⟨_, rfl⟩
  | some h =>
    rw [lexFraction.eq_def]
    simp only [takeDigits_of_spells h fun c hc => (hrest c hc).1]
    split
    · next heq => exact absurd (Prod.mk.inj heq).1 h.ne_nil
    · next heq => exact absurd (Prod.mk.inj heq).1 h.ne_nil
    · next heq =>
      obtain ⟨rfl, rfl⟩ := Prod.mk.inj heq
      exact ⟨_, rfl⟩

/-- A sign is scanned where digits follow it. -/
theorem lexExponentSign_of_spells {negative : Bool} {digits : List Nat}
    {chars behind rest : List Char} (hsign : SpellsSign negative chars behind)
    (h : SpellsDigits digits behind rest) (position : Position) :
    ∃ stop, lexExponentSign position chars = (negative, ⟨stop, behind⟩) := by
  cases hsign with
  | none =>
    have hsigns : ∀ c ∈ chars.head?, c ≠ '+' ∧ c ≠ '-' := by
      cases h with
      | last hc | cons hc =>
        rintro _ ⟨⟩
        constructor <;> rintro rfl <;> exact absurd hc (by decide)
    rw [lexExponentSign.eq_def]
    split
    · exact absurd rfl (hsigns _ rfl).1
    · exact absurd rfl (hsigns _ rfl).2
    · exact ⟨_, rfl⟩
  | plus => exact ⟨_, rfl⟩
  | minus => exact ⟨_, rfl⟩

/-- The exponent of a number is scanned as what spells it. -/
theorem lexExponent_of_spells {exponent : Option (Bool × List Nat)} {chars rest : List Char}
    (h : SpellsExponent exponent chars rest)
    (hrest : ∀ c ∈ rest.head?, c.isDigit = false ∧ ¬ (c = 'e' ∨ c = 'E')) (position : Position) :
    ∃ stop, lexExponent position chars = .ok (exponent, ⟨stop, rest⟩) := by
  cases h with
  | none =>
    cases chars with
    | nil => exact ⟨_, rfl⟩
    | cons c chars =>
      rw [lexExponent, if_neg (hrest c rfl).2]
      exact ⟨_, rfl⟩
  | some hmark hsign h =>
    obtain ⟨stop, hstop⟩ := lexExponentSign_of_spells hsign h (position.plus 1)
    rw [lexExponent, if_pos hmark, hstop]
    simp only
    rw [takeDigits_of_spells h fun c hc => (hrest c hc).1]
    split
    · next heq => exact absurd (Prod.mk.inj heq).1 h.ne_nil
    · next heq => exact absurd (Prod.mk.inj heq).1 h.ne_nil
    · next heq =>
      obtain ⟨rfl, rfl⟩ := Prod.mk.inj heq
      exact ⟨_, rfl⟩

/-- What is left before an exponent is neither a digit nor a point. -/
theorem SpellsExponent.head?_ne {exponent : Option (Bool × List Nat)} {chars rest : List Char}
    (h : SpellsExponent exponent chars rest) (hrest : EndsValue rest) :
    ∀ c ∈ chars.head?, c.isDigit = false ∧ c ≠ '.' := by
  intro c hc
  cases h with
  | none => exact ⟨(hrest.head?_ne hc).1, (hrest.head?_ne hc).2.1⟩
  | some hmark =>
    cases hc
    rcases hmark with rfl | rfl <;> decide

/-- What is left before a fraction is no digit. -/
theorem SpellsFraction.head?_ne {fraction : Option (List Nat)} {chars rest : List Char}
    (h : SpellsFraction fraction chars rest)
    (hrest : ∀ c ∈ rest.head?, c.isDigit = false) : ∀ c ∈ chars.head?, c.isDigit = false := by
  cases h with
  | none => exact hrest
  | some =>
    rintro c ⟨⟩
    rfl

/-- A number is scanned as its literal, behind its sign. -/
theorem lexMagnitude_of_spells {literal : NumberLiteral} {chars rest : List Char}
    (h : SpellsMagnitude literal chars rest) (hrest : EndsValue rest) (position : Position) :
    ∃ stop, lexMagnitude literal.negative position chars = .ok (literal, ⟨stop, rest⟩) := by
  obtain ⟨hwhole, hzero, hfraction, hexponent⟩ := h
  have hafterFraction := hexponent.head?_ne hrest
  have hafterWhole := hfraction.head?_ne fun c hc => (hafterFraction c hc).1
  obtain ⟨first, hfirst⟩ := lexWhole_of_spells hwhole hzero hafterWhole position
  obtain ⟨second, hsecond⟩ := lexFraction_of_spells hfraction hafterFraction first
  obtain ⟨stop, hstop⟩ := lexExponent_of_spells hexponent
    (fun c hc => ⟨(hrest.head?_ne hc).1, (hrest.head?_ne hc).2.2⟩) second
  refine ⟨stop, ?_⟩
  simp only [lexMagnitude, hfirst, hsecond, hstop, bind, Except.bind]
  rfl

/-! ## Literals that are printed -/

/-- A hexadecimal digit is read as the value it was written for. -/
theorem hexValue?_hexDigit : ∀ value < 16, Text.hexValue? (Text.hexDigit value) = some value := by
  decide

/-- A control character is read from the four digits that it is written with. -/
theorem fourHexValue?_hexDigit {code : Nat} (hcode : code < 0x20) :
    Text.fourHexValue? '0' '0' (Text.hexDigit (code / 16)) (Text.hexDigit (code % 16)) =
      some code := by
  have hhigh := hexValue?_hexDigit (code / 16) (by omega)
  have hlow := hexValue?_hexDigit (code % 16) (by omega)
  have hzero : Text.hexValue? '0' = some 0 := by decide
  simp only [Text.fourHexValue?, hzero, hhigh, hlow, Option.pure_def, Option.bind_eq_bind,
    Option.bind_some, Option.some.injEq]
  omega

/-- What is printed for a character spells an element that stands for it. -/
theorem exists_spells_escapedChar (c : Char) : ∃ element,
    (∀ elements chars rest, SpellsElements elements chars rest →
      SpellsElements (element :: elements) (escapedChar c ++ chars) rest) ∧
    ∀ elements text, StandFor elements text → StandFor (element :: elements) (c :: text) := by
  have hletter : ∀ {letter c : Char}, (letter, c) ∈ escapeLetters → ∃ element,
      (∀ elements chars rest, SpellsElements elements chars rest →
        SpellsElements (element :: elements) (['\\', letter] ++ chars) rest) ∧
      ∀ elements text, StandFor elements text → StandFor (element :: elements) (c :: text) :=
    fun hmem => ⟨_, fun _ _ _ h => .letter hmem h, fun _ _ h => .char h⟩
  fun_cases escapedChar c with
  | case1 | case2 | case3 | case4 | case5 | case6 | case7 => exact hletter (by decide)
  | case8 =>
    next hcontrol =>
    exact ⟨.unit c.toNat, fun _ _ _ h => .unit (fourHexValue?_hexDigit hcontrol) h,
      fun _ _ h => .unit (by omega) h⟩
  | case9 =>
    next hquote hbackslash _ _ _ _ _ hcontrol =>
    exact ⟨.char c, fun _ _ _ h => .plain hquote hbackslash (Nat.not_lt.mp hcontrol) h,
      fun _ _ h => .char h⟩

/-- What is printed for a text spells it, behind its opening quote. -/
theorem spellsText_escaped (text : String) (rest : List Char) :
    SpellsText (some text) (text.toList.flatMap escapedChar ++ '"' :: rest) rest := by
  have helements : ∀ chars : List Char, ∃ elements,
      SpellsElements elements (chars.flatMap escapedChar ++ '"' :: rest) rest ∧
        StandFor elements chars := by
    intro chars
    induction chars with
    | nil => exact ⟨[], .close, .nil⟩
    | cons c chars ih =>
      obtain ⟨elements, hspells, hstand⟩ := ih
      obtain ⟨element, helement, hc⟩ := exists_spells_escapedChar c
      refine ⟨element :: elements, ?_, hc _ _ hstand⟩
      rw [List.flatMap_cons, List.append_assoc]
      exact helement _ _ _ hspells
  obtain ⟨elements, hspells, hstand⟩ := helements text.toList
  exact .paired hspells hstand

/-- Digits stand for the number they write. -/
theorem decimalValue_toDigits (value : Nat) :
    decimalValue ((Nat.toDigits 10 value).map fun c => c.toNat - '0'.toNat) = value := by
  rw [decimalValue, List.foldl_map]
  have h := Nat.ofDigitChars_ten_toDigits (n := value)
  rw [Nat.ofDigitChars_eq_foldl] at h
  simpa [Nat.mul_comm] using h

/-- Only the number zero is written with a zero in front. -/
theorem eq_zero_of_toDigits {value : Nat} {digits : List Char}
    (h : Nat.toDigits 10 value = '0' :: digits) : value = 0 := by
  induction value using Nat.strongRecOn generalizing digits with
  | ind value ih =>
    by_cases hsmall : value < 10
    · have hzero : ∀ digit < 10, digit.digitChar = '0' → digit = 0 := by decide
      rw [Nat.toDigits_of_lt_base hsmall] at h
      exact hzero value hsmall (List.cons.inj h).1
    · obtain ⟨first, others, hfirst⟩ :=
        List.exists_cons_of_ne_nil (Nat.toDigits_ne_nil (n := value / 10) (b := 10))
      rw [Nat.toDigits_of_base_le (by decide) (by omega), hfirst, List.cons_append] at h
      obtain ⟨rfl, -⟩ := List.cons.inj h
      have := ih (value / 10) (by omega) hfirst
      omega

/-- The literal that writes a number. -/
def literalOf (value : Nat) : NumberLiteral :=
  ⟨false, (Nat.toDigits 10 value).map fun c => c.toNat - '0'.toNat, none, none⟩

/-- A number that fits 64 bits is what its literal stands for. -/
theorem evaluate_literalOf {value : Nat} (hvalue : value < UInt64.size) :
    (literalOf value).evaluate = .ok (.integer value) := by
  simp only [NumberLiteral.evaluate, NumberLiteral.isWhole, literalOf, decimalValue_toDigits]
  simp [hvalue]
  rfl

/-- Digits in base ten spell themselves. -/
theorem spellsDigits_append {digits : List Char} (hne : digits ≠ [])
    (hdigits : ∀ c ∈ digits, c.isDigit = true) (rest : List Char) :
    SpellsDigits (digits.map fun c => c.toNat - '0'.toNat) (digits ++ rest) rest := by
  induction digits with
  | nil => exact absurd rfl hne
  | cons c digits ih =>
    have hc := hdigits c List.mem_cons_self
    cases digits with
    | nil => exact .last hc
    | cons d digits =>
      exact .cons hc (ih (List.cons_ne_nil _ _) fun d hd => hdigits d (List.mem_cons_of_mem _ hd))

/-- What is printed for a number spells its literal, since none of its digits stands behind a zero
in front. -/
theorem spellsNumber_toDigits (value : Nat) (rest : List Char) :
    SpellsNumber (literalOf value) (Nat.toDigits 10 value ++ rest) rest := by
  have hdigits : ∀ c ∈ Nat.toDigits 10 value, c.isDigit = true :=
    fun c hc => Nat.isDigit_of_mem_toDigits (by decide) (by decide) hc
  refine .positive rfl (.mk (spellsDigits_append Nat.toDigits_ne_nil hdigits rest) ?_ .none .none)
  intro hzero
  rw [List.head?_map, Option.map_eq_some_iff] at hzero
  obtain ⟨first, hfirst, hvalue⟩ := hzero
  obtain ⟨others, hsplit⟩ := List.head?_eq_some_iff.mp hfirst
  obtain rfl : first = '0' := by
    have hdigit := Char.isDigit_iff_toNat.mp (hdigits first (hsplit ▸ List.mem_cons_self))
    exact Char.toNat_inj.mp (Nat.le_antisymm (Nat.sub_eq_zero_iff_le.mp hvalue) hdigit.1)
  rw [eq_zero_of_toDigits hsplit]
  decide

end PersistenceLayer.Json
