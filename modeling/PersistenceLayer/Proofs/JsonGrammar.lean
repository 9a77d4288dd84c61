import PersistenceLayer.Json.Number
import PersistenceLayer.Text.Hex

/-!
# The grammar of JSON

A JSON text writes a tree. White space between the tokens, the way characters
are escaped and the spelling of an exponent belong to the text alone, so one tree
has many texts. The relations below say how each part of a tree is spelled at the
head of some characters, and which characters follow it.
-/

namespace PersistenceLayer.Json

/-- What a JSON text writes. The content of a text, as that of a key, is missing if it has a
surrogate without a partner; numbers are not evaluated. -/
inductive Tree where
  | null
  | boolean (value : Bool)
  | number (literal : NumberLiteral)
  | text (content : Option String)
  | list (items : List Tree)
  | object (members : List (Option String × Tree))

/-- White space, with what follows it. -/
inductive Blanks : List Char → List Char → Prop
  | nil {rest : List Char} : Blanks rest rest
  | cons {c : Char} {chars rest : List Char} (hc : c ∈ [' ', '\t', '\n', '\r'])
      (h : Blanks chars rest) : Blanks (c :: chars) rest

/-! ## Texts -/

/-- What is written between quotes: a character, as itself or by its letter, or a code unit by its
number. -/
inductive TextElement where
  | char (c : Char)
  | unit (value : Nat)

/-- The letters that escape characters. -/
def escapeLetters : List (Char × Char) :=
  [('"', '"'), ('\\', '\\'), ('/', '/'), ('b', '\x08'), ('f', '\x0c'), ('n', '\n'), ('r', '\r'),
    ('t', '\t')]

/-- How elements are spelled, up to the closing quote. -/
inductive SpellsElements : List TextElement → List Char → List Char → Prop
  | close {rest : List Char} : SpellsElements [] ('"' :: rest) rest
  | plain {c : Char} {elements : List TextElement} {chars rest : List Char} (hquote : c ≠ '"')
      (hbackslash : c ≠ '\\') (hcontrol : 0x20 ≤ c.toNat) (h : SpellsElements elements chars rest) :
      SpellsElements (.char c :: elements) (c :: chars) rest
  | letter {letter c : Char} {elements : List TextElement} {chars rest : List Char}
      (hletter : (letter, c) ∈ escapeLetters) (h : SpellsElements elements chars rest) :
      SpellsElements (.char c :: elements) ('\\' :: letter :: chars) rest
  | unit {first second third fourth : Char} {value : Nat} {elements : List TextElement}
      {chars rest : List Char} (hvalue : Text.fourHexValue? first second third fourth = some value)
      (h : SpellsElements elements chars rest) :
      SpellsElements (.unit value :: elements)
        ('\\' :: 'u' :: first :: second :: third :: fourth :: chars) rest

/-- The characters that elements stand for. One beyond the basic plane takes two code units. -/
inductive StandFor : List TextElement → List Char → Prop
  | nil : StandFor [] []
  | char {c : Char} {elements : List TextElement} {text : List Char} (h : StandFor elements text) :
      StandFor (.char c :: elements) (c :: text)
  | unit {c : Char} {elements : List TextElement} {text : List Char} (hc : c.toNat < 0x10000)
      (h : StandFor elements text) : StandFor (.unit c.toNat :: elements) (c :: text)
  | pair {c : Char} {elements : List TextElement} {text : List Char} (hc : 0x10000 ≤ c.toNat)
      (h : StandFor elements text) :
      StandFor (.unit (0xD800 + (c.toNat - 0x10000) / 0x400) ::
        .unit (0xDC00 + (c.toNat - 0x10000) % 0x400) :: elements) (c :: text)

/-- How the content of a text is spelled, behind its opening quote. -/
inductive SpellsText : Option String → List Char → List Char → Prop
  | paired {elements : List TextElement} {text : String} {chars rest : List Char}
      (h : SpellsElements elements chars rest) (htext : StandFor elements text.toList) :
      SpellsText (some text) chars rest
  | unpaired {elements : List TextElement} {chars rest : List Char}
      (h : SpellsElements elements chars rest) (hnone : ∀ text, ¬ StandFor elements text) :
      SpellsText none chars rest

/-! ## Numbers -/

/-- How digits are spelled. -/
inductive SpellsDigits : List Nat → List Char → List Char → Prop
  | last {c : Char} {rest : List Char} (hc : c.isDigit = true) :
      SpellsDigits [c.toNat - '0'.toNat] (c :: rest) rest
  | cons {c : Char} {digits : List Nat} {chars rest : List Char} (hc : c.isDigit = true)
      (h : SpellsDigits digits chars rest) :
      SpellsDigits ((c.toNat - '0'.toNat) :: digits) (c :: chars) rest

/-- How a fraction is spelled, or none. -/
inductive SpellsFraction : Option (List Nat) → List Char → List Char → Prop
  | none {rest : List Char} : SpellsFraction none rest rest
  | some {digits : List Nat} {chars rest : List Char} (h : SpellsDigits digits chars rest) :
      SpellsFraction (some digits) ('.' :: chars) rest

/-- How the sign of an exponent is spelled. -/
inductive SpellsSign : Bool → List Char → List Char → Prop
  | none {rest : List Char} : SpellsSign false rest rest
  | plus {rest : List Char} : SpellsSign false ('+' :: rest) rest
  | minus {rest : List Char} : SpellsSign true ('-' :: rest) rest

/-- How an exponent is spelled, or none. -/
inductive SpellsExponent : Option (Bool × List Nat) → List Char → List Char → Prop
  | none {rest : List Char} : SpellsExponent none rest rest
  | some {mark : Char} {negative : Bool} {digits : List Nat} {signed chars rest : List Char}
      (hmark : mark = 'e' ∨ mark = 'E') (hsign : SpellsSign negative signed chars)
      (h : SpellsDigits digits chars rest) :
      SpellsExponent (some (negative, digits)) (mark :: signed) rest

/-- How the part of a number behind its sign is spelled. Only zero starts with a zero. -/
inductive SpellsMagnitude : NumberLiteral → List Char → List Char → Prop
  | mk {negative : Bool} {whole : List Nat} {fraction : Option (List Nat)}
      {exponent : Option (Bool × List Nat)} {chars afterWhole afterFraction rest : List Char}
      (hwhole : SpellsDigits whole chars afterWhole) (hzero : whole.head? = some 0 → whole = [0])
      (hfraction : SpellsFraction fraction afterWhole afterFraction)
      (hexponent : SpellsExponent exponent afterFraction rest) :
      SpellsMagnitude ⟨negative, whole, fraction, exponent⟩ chars rest

/-- How a number is spelled. -/
inductive SpellsNumber : NumberLiteral → List Char → List Char → Prop
  | positive {literal : NumberLiteral} {chars rest : List Char} (hsign : literal.negative = false)
      (h : SpellsMagnitude literal chars rest) : SpellsNumber literal chars rest
  | negative {literal : NumberLiteral} {chars rest : List Char} (hsign : literal.negative = true)
      (h : SpellsMagnitude literal chars rest) : SpellsNumber literal ('-' :: chars) rest

/-! ## Values -/

/-- How a key is spelled, with white space around it. -/
inductive SpellsKey : Option String → List Char → List Char → Prop
  | mk {key : Option String} {chars start behind rest : List Char}
      (hbefore : Blanks chars ('"' :: start)) (h : SpellsText key start behind)
      (hafter : Blanks behind rest) : SpellsKey key chars rest

mutual

/-- How a tree is spelled. -/
inductive Spells : Tree → List Char → List Char → Prop
  | null {rest : List Char} : Spells .null ('n' :: 'u' :: 'l' :: 'l' :: rest) rest
  | true {rest : List Char} : Spells (.boolean true) ('t' :: 'r' :: 'u' :: 'e' :: rest) rest
  | false {rest : List Char} :
      Spells (.boolean false) ('f' :: 'a' :: 'l' :: 's' :: 'e' :: rest) rest
  | number {literal : NumberLiteral} {chars rest : List Char}
      (h : SpellsNumber literal chars rest) : Spells (.number literal) chars rest
  | text {content : Option String} {chars rest : List Char} (h : SpellsText content chars rest) :
      Spells (.text content) ('"' :: chars) rest
  | emptyList {chars rest : List Char} (h : Blanks chars (']' :: rest)) :
      Spells (.list []) ('[' :: chars) rest
  | list {items : List Tree} {chars rest : List Char} (h : SpellsItems items chars rest) :
      Spells (.list items) ('[' :: chars) rest
  | emptyObject {chars rest : List Char} (h : Blanks chars ('\x7d' :: rest)) :
      Spells (.object []) ('\x7b' :: chars) rest
  | object {members : List (Option String × Tree)} {chars rest : List Char}
      (h : SpellsMembers members chars rest) : Spells (.object members) ('\x7b' :: chars) rest

/-- How a tree is spelled with white space around it. -/
inductive SpellsSpaced : Tree → List Char → List Char → Prop
  | mk {tree : Tree} {chars start behind rest : List Char} (hbefore : Blanks chars start)
      (h : Spells tree start behind) (hafter : Blanks behind rest) : SpellsSpaced tree chars rest

/-- How at least one item is spelled, up to the closing bracket. -/
inductive SpellsItems : List Tree → List Char → List Char → Prop
  | last {item : Tree} {chars rest : List Char} (h : SpellsSpaced item chars (']' :: rest)) :
      SpellsItems [item] chars rest
  | cons {item : Tree} {items : List Tree} {chars others rest : List Char}
      (h : SpellsSpaced item chars (',' :: others)) (hitems : SpellsItems items others rest) :
      SpellsItems (item :: items) chars rest

/-- How at least one member is spelled, up to the closing brace. -/
inductive SpellsMembers : List (Option String × Tree) → List Char → List Char → Prop
  | last {key : Option String} {value : Tree} {chars start rest : List Char}
      (hkey : SpellsKey key chars (':' :: start)) (h : SpellsSpaced value start ('\x7d' :: rest)) :
      SpellsMembers [(key, value)] chars rest
  | cons {key : Option String} {value : Tree} {members : List (Option String × Tree)}
      {chars start others rest : List Char} (hkey : SpellsKey key chars (':' :: start))
      (h : SpellsSpaced value start (',' :: others))
      (hmembers : SpellsMembers members others rest) :
      SpellsMembers ((key, value) :: members) chars rest

end

/-- Whether a text writes a tree: it spells the tree and nothing else. -/
def Writes (text : String) (tree : Tree) : Prop :=
  SpellsSpaced tree text.toList []

/-- What a text writes is what its characters spell. -/
theorem writes_ofList_iff {chars : List Char} {tree : Tree} :
    Writes (String.ofList chars) tree ↔ SpellsSpaced tree chars [] := by
  rw [Writes, String.toList_ofList]

end PersistenceLayer.Json
