import PersistenceLayer.Json.Number

/-!
# Tokens of a JSON text

Scanning cuts a text into tokens and stops at the first character that no token
can start or continue with. A value may later be read or only skipped, and the
two differ in what they object to: a skipped text may hold surrogates without a
partner and a skipped number is never evaluated. A token therefore keeps what
both readings need.
-/

namespace PersistenceLayer.Json

/-- The kinds of tokens. -/
inductive Lexeme where
  | openBracket
  | closeBracket
  | openBrace
  | closeBrace
  | comma
  | colon
  | null
  | boolean (value : Bool)
  | number (literal : NumberLiteral)
  /-- A closed text: the characters it stands for, or why it stands for none. -/
  | text (value : Except Fault String)
  /-- A value that breaks off: what its reader and its skipper object to. -/
  | broken (isText : Bool) (reading skipping : Fault)
  /-- A character that starts no token. -/
  | stray
  | endOfText

/-- A token with the places before and after it. -/
structure Token where
  lexeme : Lexeme
  start : Position
  stop : Position

/-- What is left to scan, and where it starts. -/
structure Remainder where
  position : Position
  chars : List Char

/-- The outcome of scanning a part of a token: what its reader and its skipper object to, or what
was scanned and what is left. -/
abbrev Scan (α : Type) := Except (Fault × Fault) (α × Remainder)

/-- A fault that reading and skipping agree on. -/
def unanimous (problem : Problem) (position : Position) : Fault × Fault :=
  (.placed problem position, .placed problem position)

/-- The white space that may stand between tokens. -/
def isSpace (c : Char) : Bool :=
  c == ' ' || c == '\t' || c == '\n' || c == '\r'

/-! ## Words -/

/-- Scans the rest of a word, character by character. -/
def lexWord (position : Position) : List Char → List Char → Except Fault Remainder
  | [], chars => .ok ⟨position, chars⟩
  | _ :: _, [] => .error (.placed .endInValue position)
  | expected :: word, c :: chars =>
    if c = expected then lexWord (position.plus 1) word chars
    else .error (.placed .wordExpected (position.afterByte c))

/-! ## Numbers -/

/-- The digits at the head of some characters, with what follows them. -/
def takeDigits : List Char → List Nat × List Char
  | [] => ([], [])
  | c :: chars =>
    if c.isDigit then
      let (digits, rest) := takeDigits chars
      ((c.toNat - '0'.toNat) :: digits, rest)
    else ([], c :: chars)

/-- Scans the digits before the point: one zero, or digits that start with another one. -/
def lexWhole (position : Position) (chars : List Char) : Scan (List Nat) :=
  match takeDigits chars with
  | ([], []) => .error (.placed .endInValue position, .placed .badNumber position)
  | ([], c :: _) => .error (unanimous .badNumber (position.afterByte c))
  | (0 :: _ :: _, _) => .error (unanimous .badNumber (position.plus 2))
  | (digit :: digits, rest) =>
    .ok (digit :: digits, ⟨position.plus (digits.length + 1), rest⟩)

/-- Scans a point and the digits after it, if a point is there. -/
def lexFraction (position : Position) (chars : List Char) : Scan (Option (List Nat)) :=
  match chars with
  | '.' :: chars =>
    match takeDigits chars with
    | ([], []) =>
      .error (.placed .endInValue (position.plus 1), .placed .badNumber (position.plus 1))
    | ([], c :: _) => .error (unanimous .badNumber ((position.plus 1).afterByte c))
    | (digit :: digits, rest) =>
      .ok (some (digit :: digits), ⟨position.plus (digits.length + 2), rest⟩)
  | chars => .ok (none, ⟨position, chars⟩)

/-- Scans the sign of an exponent; without one the exponent is positive. -/
def lexExponentSign (position : Position) (chars : List Char) : Bool × Remainder :=
  match chars with
  | '+' :: chars => (false, ⟨position.plus 1, chars⟩)
  | '-' :: chars => (true, ⟨position.plus 1, chars⟩)
  | chars => (false, ⟨position, chars⟩)

/-- Scans an exponent, if one is there. -/
def lexExponent (position : Position) (chars : List Char) : Scan (Option (Bool × List Nat)) :=
  match chars with
  | [] => .ok (none, ⟨position, []⟩)
  | c :: chars =>
    if c = 'e' ∨ c = 'E' then
      let (negative, rest) := lexExponentSign (position.plus 1) chars
      match takeDigits rest.chars with
      | ([], []) =>
        .error (.placed .endInValue rest.position, .placed .badNumber rest.position)
      | ([], c :: _) => .error (unanimous .badNumber (rest.position.afterByte c))
      | (digit :: digits, chars) =>
        .ok (some (negative, digit :: digits), ⟨rest.position.plus (digits.length + 1), chars⟩)
    else .ok (none, ⟨position, c :: chars⟩)

/-- Scans the part of a number that follows its sign. -/
def lexMagnitude (negative : Bool) (position : Position) (chars : List Char) :
    Except (Fault × Fault) (NumberLiteral × Remainder) := do
  let (whole, rest) ← lexWhole position chars
  let (fraction, rest) ← lexFraction rest.position rest.chars
  let (exponent, rest) ← lexExponent rest.position rest.chars
  return (⟨negative, whole, fraction, exponent⟩, rest)

/-! ## Texts -/

/-- The characters of a text as far as they are known. -/
inductive Progress where
  /-- All characters so far, the last one first. -/
  | decoded (chars : List Char)
  /-- As before, but a leading surrogate still waits for its partner. -/
  | leading (chars : List Char) (unit : Nat)
  /-- The text stands for no characters. -/
  | failed (fault : Fault)

namespace Progress

/-- What reading objects to where it and skipping meet the given fault. -/
def fault (progress : Progress) (fault : Fault) : Fault :=
  match progress with
  | failed earlier => earlier
  | _ => fault

/-- What reading objects to where skipping meets the given fault but a partner surrogate would be
looked for first. -/
def faultUnlessLeading (progress : Progress) (fault : Fault) (position : Position) : Fault :=
  match progress with
  | decoded _ => fault
  | leading _ _ => .placed .unfinishedSurrogate position
  | failed earlier => earlier

/-- One more character. A waiting surrogate is missed at the given place. -/
def push (progress : Progress) (c : Char) (position : Position) : Progress :=
  match progress with
  | decoded chars => decoded (c :: chars)
  | leading _ _ => failed (.placed .unfinishedSurrogate position)
  | failed earlier => failed earlier

/-- One more code unit, written by number and ending at the given place. -/
def pushUnit (progress : Progress) (unit : Nat) (position : Position) : Progress :=
  match progress with
  | decoded chars =>
    if 0xDC00 ≤ unit ∧ unit ≤ 0xDFFF then failed (.placed .loneSurrogate position)
    else if 0xD800 ≤ unit ∧ unit ≤ 0xDBFF then leading chars unit
    else decoded (Char.ofNat unit :: chars)
  | leading chars first =>
    if 0xDC00 ≤ unit ∧ unit ≤ 0xDFFF then
      decoded (Char.ofNat ((first - 0xD800) * 0x400 + (unit - 0xDC00) + 0x10000) :: chars)
    else failed (.placed .loneSurrogate position)
  | failed earlier => failed earlier

/-- The text, at its closing quote. -/
def finish (progress : Progress) (position : Position) : Except Fault String :=
  match progress with
  | decoded chars => .ok (String.ofList chars.reverse)
  | leading _ _ => .error (.placed .unfinishedSurrogate position)
  | failed earlier => .error earlier

end Progress

/-- The character that a one-letter escape stands for. -/
def letterEscape? (c : Char) : Option Char :=
  match c with
  | '"' => some '"'
  | '\\' => some '\\'
  | '/' => some '/'
  | 'b' => some '\x08'
  | 'f' => some '\x0c'
  | 'n' => some '\n'
  | 'r' => some '\r'
  | 't' => some '\t'
  | _ => none

/-- The UTF-8 length of some characters. -/
def byteLength (chars : List Char) : Nat :=
  chars.foldl (fun bytes c => bytes + c.utf8Size) 0

/-- Scans a text from behind its opening quote to behind its closing one. -/
def lexText (position : Position) (progress : Progress) :
    List Char → Scan (Except Fault String)
  | [] =>
    let fault := Fault.placed .endInText position
    .error (progress.fault fault, fault)
  | c :: chars =>
    if c = '"' then .ok (progress.finish (position.plus 1), ⟨position.plus 1, chars⟩)
    else if c = '\\' then
      match chars with
      | [] =>
        let fault := Fault.placed .endInText (position.plus 1)
        .error (progress.fault fault, fault)
      | letter :: chars =>
        if letter = 'u' then
          match chars with
          | a :: b :: c :: d :: chars =>
            match Text.fourHexValue? a b c d with
            | some unit =>
              lexText (position.plus 6) (progress.pushUnit unit (position.plus 6)) chars
            | none =>
              let place := (position.plus 2).afterBytes 4 [a, b, c, d]
              let fault := Fault.placed .badEscape place
              .error (progress.fault fault, fault)
          | few =>
            let place := (position.plus 2).afterBytes 4 few
            let fault :=
              if byteLength few < 4 then Fault.placed .endInText place
              else Fault.placed .badEscape place
            .error (progress.fault fault, fault)
        else
          match letterEscape? letter with
          | some c => lexText (position.plus 2) (progress.push c (position.plus 2)) chars
          | none =>
            let place := (position.plus 1).afterByte letter
            let fault := Fault.placed .badEscape place
            .error (progress.faultUnlessLeading fault place, fault)
    else if c.toNat < 0x20 then
      let place := position.afterByte c
      .error (progress.faultUnlessLeading (.placed .controlCharacter place) place,
        .placed .controlCharacter position)
    else lexText (position.after c) (progress.push c (position.plus 1)) chars

/-! ## Tokens -/

/-- A broken token together with nothing left to scan. -/
def brokenToken (isText : Bool) (start : Position) (faults : Fault × Fault) :
    Token × List Char :=
  (⟨.broken isText faults.1 faults.2, start, start⟩, [])

/-- The token that a word makes, scanned from behind its first letter. -/
def wordToken (lexeme : Lexeme) (word : List Char) (start : Position) (chars : List Char) :
    Token × List Char :=
  match lexWord (start.plus 1) word chars with
  | .ok rest => (⟨lexeme, start, rest.position⟩, rest.chars)
  | .error fault => brokenToken false start (fault, fault)

/-- The token that a number makes. -/
def numberToken (start : Position) : Scan NumberLiteral → Token × List Char
  | .ok (literal, rest) => (⟨.number literal, start, rest.position⟩, rest.chars)
  | .error faults => brokenToken false start faults

/-- The token that a text makes. -/
def textToken (start : Position) : Scan (Except Fault String) → Token × List Char
  | .ok (value, rest) => (⟨.text value, start, rest.position⟩, rest.chars)
  | .error faults => brokenToken true start faults

/-- The token that starts with a character other than white space, and the characters after it. -/
def lexToken (start : Position) (c : Char) (chars : List Char) : Token × List Char :=
  let mark (lexeme : Lexeme) : Token × List Char := (⟨lexeme, start, start.plus 1⟩, chars)
  match c with
  | '[' => mark .openBracket
  | ']' => mark .closeBracket
  | '\x7b' => mark .openBrace
  | '\x7d' => mark .closeBrace
  | ',' => mark .comma
  | ':' => mark .colon
  | '"' => textToken start (lexText (start.plus 1) (.decoded []) chars)
  | 'n' => wordToken .null ['u', 'l', 'l'] start chars
  | 't' => wordToken (.boolean true) ['r', 'u', 'e'] start chars
  | 'f' => wordToken (.boolean false) ['a', 'l', 's', 'e'] start chars
  | '-' => numberToken start (lexMagnitude true (start.plus 1) chars)
  | c =>
    if c.isDigit then numberToken start (lexMagnitude false start (c :: chars))
    else (⟨.stray, start, start⟩, [])

/-! ## Progress of the scan

No part of a token gives back more characters than it was given.
-/

/-- A word that is scanned to its end leaves no more characters than there were. -/
theorem length_lexWord {position : Position} {word chars : List Char} {rest : Remainder}
    (h : lexWord position word chars = .ok rest) : rest.chars.length ≤ chars.length := by
  induction word generalizing position chars with
  | nil => simp only [lexWord, Except.ok.injEq] at h; simp [← h]
  | cons expected word ih =>
    cases chars with
    | nil => simp [lexWord] at h
    | cons c chars =>
      rw [lexWord] at h
      split at h
      · exact Nat.le_succ_of_le (ih h)
      · cases h

/-- The digits at the head and what follows them make up all characters. -/
theorem length_takeDigits (chars : List Char) :
    (takeDigits chars).1.length + (takeDigits chars).2.length = chars.length := by
  induction chars with
  | nil => rfl
  | cons c chars ih =>
    rw [takeDigits]
    split
    · simp only [List.length_cons]; omega
    · simp

/-- The digits before the point are at least one. -/
theorem length_lexWhole {position : Position} {chars : List Char} {digits : List Nat}
    {rest : Remainder} (h : lexWhole position chars = .ok (digits, rest)) :
    rest.chars.length < chars.length := by
  have hlength := length_takeDigits chars
  rw [lexWhole.eq_def] at h
  split at h <;> try cases h
  next heq => rw [heq] at hlength; simp only [List.length_cons] at hlength; simp only; omega

/-- A fraction, or none, leaves no more characters than there were. -/
theorem length_lexFraction {position : Position} {chars : List Char}
    {fraction : Option (List Nat)} {rest : Remainder}
    (h : lexFraction position chars = .ok (fraction, rest)) :
    rest.chars.length ≤ chars.length := by
  rw [lexFraction.eq_def] at h
  split at h
  · next chars =>
    have hlength := length_takeDigits chars
    split at h <;> try cases h
    next heq => rw [heq] at hlength; simp only [List.length_cons] at hlength ⊢; omega
  · cases h; simp

/-- A sign, or none, leaves no more characters than there were. -/
theorem length_lexExponentSign (position : Position) (chars : List Char) :
    (lexExponentSign position chars).2.chars.length ≤ chars.length := by
  rw [lexExponentSign.eq_def]
  split <;> simp

/-- An exponent, or none, leaves no more characters than there were. -/
theorem length_lexExponent {position : Position} {chars : List Char}
    {exponent : Option (Bool × List Nat)} {rest : Remainder}
    (h : lexExponent position chars = .ok (exponent, rest)) :
    rest.chars.length ≤ chars.length := by
  rw [lexExponent.eq_def] at h
  split at h
  · cases h; simp
  · next c chars =>
    split at h
    · have hsign := length_lexExponentSign (position.plus 1) chars
      have hlength := length_takeDigits (lexExponentSign (position.plus 1) chars).2.chars
      simp only at h
      split at h <;> try cases h
      next heq => rw [heq] at hlength; simp only [List.length_cons] at hlength ⊢; omega
    · cases h; simp

/-- A number takes at least one character. -/
theorem length_lexMagnitude {negative : Bool} {position : Position} {chars : List Char}
    {literal : NumberLiteral} {rest : Remainder}
    (h : lexMagnitude negative position chars = .ok (literal, rest)) :
    rest.chars.length < chars.length := by
  simp only [lexMagnitude, bind, Except.bind] at h
  split at h
  · cases h
  · next whole hwhole =>
    obtain ⟨digits, afterWhole⟩ := whole
    have h1 := length_lexWhole hwhole
    split at h
    · cases h
    · next fraction hfraction =>
      obtain ⟨fraction, afterFraction⟩ := fraction
      have h2 := length_lexFraction hfraction
      split at h
      · cases h
      · next exponent hexponent =>
        obtain ⟨exponent, afterExponent⟩ := exponent
        have h3 := length_lexExponent hexponent
        simp only [pure, Except.pure, Except.ok.injEq, Prod.mk.injEq] at h
        rw [← h.2]
        exact Nat.lt_of_le_of_lt h3 (Nat.lt_of_le_of_lt h2 h1)

/-- A text leaves no more characters than there were. -/
theorem length_lexText {position : Position} {progress : Progress} {chars : List Char}
    {value : Except Fault String} {rest : Remainder}
    (h : lexText position progress chars = .ok (value, rest)) :
    rest.chars.length ≤ chars.length := by
  fun_induction lexText position progress chars with
  | case1 | case3 | case5 | case6 | case8 | case9 => cases h
  | case2 => cases h; exact Nat.le_succ _
  | case4 _ _ _ _ _ _ chars _ _ _ ih => exact Nat.le_trans (ih h) (Nat.le_add_right _ 6)
  | case7 _ _ _ chars _ _ _ _ ih => exact Nat.le_trans (ih h) (Nat.le_add_right _ 2)
  | case10 _ _ _ chars _ _ _ ih => exact Nat.le_succ_of_le (ih h)

/-- The token of a word leaves no more characters than there were. -/
theorem length_wordToken (lexeme : Lexeme) (word : List Char) (start : Position)
    (chars : List Char) : (wordToken lexeme word start chars).2.length ≤ chars.length := by
  rw [wordToken]
  split
  · next h => exact length_lexWord h
  · exact Nat.zero_le _

/-- The token of a number leaves as few characters as its scan does; a broken one leaves none. -/
theorem length_numberToken {start : Position} {scan : Scan NumberLiteral} {bound : Nat}
    (h : ∀ literal rest, scan = .ok (literal, rest) → rest.chars.length ≤ bound) :
    (numberToken start scan).2.length ≤ bound := by
  rw [numberToken.eq_def]
  split
  · exact h _ _ rfl
  · exact Nat.zero_le _

/-- The token of a text leaves as few characters as its scan does; a broken one leaves none. -/
theorem length_textToken {start : Position} {scan : Scan (Except Fault String)} {bound : Nat}
    (h : ∀ value rest, scan = .ok (value, rest) → rest.chars.length ≤ bound) :
    (textToken start scan).2.length ≤ bound := by
  rw [textToken.eq_def]
  split
  · exact h _ _ rfl
  · exact Nat.zero_le _

/-- A token leaves no more characters than follow its first one, so scanning comes to an end. -/
theorem length_lexToken (start : Position) (c : Char) (chars : List Char) :
    (lexToken start c chars).2.length ≤ chars.length := by
  fun_cases lexToken start c chars with
  | case1 | case2 | case3 | case4 | case5 | case6 => exact Nat.le_refl _
  | case7 => exact length_textToken fun _ _ h => length_lexText h
  | case8 | case9 | case10 => exact length_wordToken _ _ _ _
  | case11 => exact length_numberToken fun _ _ h => Nat.le_of_lt (length_lexMagnitude h)
  | case12 => exact length_numberToken fun _ _ h => Nat.le_of_lt_succ (length_lexMagnitude h)
  | case13 => exact Nat.zero_le _

/-- Whether no token follows this one. -/
def Token.isLast (token : Token) : Bool :=
  match token.lexeme with
  | .broken _ _ _ | .stray | .endOfText => true
  | _ => false

/-- The tokens of some characters, the last of which is the end of the text or what cannot be
scanned further. -/
def scanFrom (position : Position) (chars : List Char) : List Token :=
  match chars with
  | [] => [⟨.endOfText, position, position⟩]
  | c :: chars =>
    if isSpace c then scanFrom (position.after c) chars
    else
      let next := lexToken position c chars
      have := length_lexToken position c chars
      if next.1.isLast then [next.1] else next.1 :: scanFrom next.1.stop next.2
termination_by chars.length

/-- The tokens of a text. -/
def scan (text : String) : List Token :=
  scanFrom .start text.toList

end PersistenceLayer.Json
