import PersistenceLayer.Decimal.Shortest
import PersistenceLayer.Text.Quoted

/-!
# What can be wrong with a JSON text

A text can end too early, can break the grammar, or can hold a value of another
shape than the one asked for. Each cause is a constructor; its wording and its
category are functions of the cause. A fault is a cause with the place where
reading stood, unless that place is unknown.
-/

namespace PersistenceLayer.Json

/-- A place in a text: the line, from one, and the bytes already passed on that line. -/
structure Position where
  line : Nat
  column : Nat
  deriving DecidableEq, Repr

namespace Position

/-- Before the first character. -/
def start : Position := ⟨1, 0⟩

/-- The place a number of bytes further on the same line. -/
def plus (position : Position) (bytes : Nat) : Position :=
  { position with column := position.column + bytes }

/-- The place a number of bytes earlier on the same line. -/
def minus (position : Position) (bytes : Nat) : Position :=
  { position with column := position.column - bytes }

/-- The place after a character of which some bytes are passed; a line break starts a line. -/
def afterPart (position : Position) (c : Char) (bytes : Nat) : Position :=
  if c == '\n' then ⟨position.line + 1, 0⟩ else position.plus bytes

/-- The place after a character. -/
def after (position : Position) (c : Char) : Position :=
  position.afterPart c c.utf8Size

/-- The place after the first byte of a character. -/
def afterByte (position : Position) (c : Char) : Position :=
  position.afterPart c 1

/-- The place after some bytes of characters, or after all of them if there are fewer. -/
def afterBytes (position : Position) : Nat → List Char → Position
  | 0, _ | _, [] => position
  | bytes, c :: chars =>
    (position.afterPart c (min bytes c.utf8Size)).afterBytes (bytes - c.utf8Size) chars

end Position

/-- What stood where something else was expected. -/
inductive Found where
  | null
  | boolean (value : Bool)
  | integer (value : Int)
  | decimal (value : Float)
  | text (value : String)
  | sequence
  | map

/-- How a message names what it found. -/
def Found.describe : Found → String
  | .null => "null"
  | .boolean value => "boolean `" ++ (if value then "true" else "false") ++ "`"
  | .integer value => "integer `" ++ toString value ++ "`"
  | .decimal value => "floating point `" ++ Decimal.floatText value ++ "`"
  | .text value => "string " ++ Text.quoted value
  | .sequence => "sequence"
  | .map => "map"

/-- A well-formed value that is not the one asked for. -/
inductive Mismatch where
  | invalidType (found : Found) (expected : String)
  | invalidValue (found : Found) (expected : String)
  | invalidLength (length : Nat) (expected : String)
  | unknownVariant (name : String) (choices : List String)
  | missingField (name : String)
  | duplicateField (name : String)
  /-- A value of the right shape that its reader refuses, in the reader's own words. -/
  | refused (message : String)

/-- A list of choices as a message offers them. -/
def describeChoices (choices : List String) : String :=
  match choices.map fun choice => "`" ++ choice ++ "`" with
  | [] => "there are no variants"
  | [only] => "expected " ++ only
  | [first, second] => "expected " ++ first ++ " or " ++ second
  | several => "expected one of " ++ ", ".intercalate several

/-- The wording of a mismatch. -/
def Mismatch.message : Mismatch → String
  | .invalidType found expected => "invalid type: " ++ found.describe ++ ", expected " ++ expected
  | .invalidValue found expected => "invalid value: " ++ found.describe ++ ", expected " ++ expected
  | .invalidLength length expected =>
    "invalid length " ++ toString length ++ ", expected " ++ expected
  | .unknownVariant name choices =>
    "unknown variant `" ++ name ++ "`, " ++ describeChoices choices
  | .missingField name => "missing field `" ++ name ++ "`"
  | .duplicateField name => "duplicate field `" ++ name ++ "`"
  | .refused message => message

/-- The three ways in which a text can fail. -/
inductive Category where
  | truncated
  | malformed
  | mismatched
  deriving DecidableEq, Repr

/-- The cause of a fault. -/
inductive Problem where
  | endInList
  | endInObject
  | endInText
  | endInValue
  | colonExpected
  | listSeparatorExpected
  | objectSeparatorExpected
  | wordExpected
  | valueExpected
  | badEscape
  | badNumber
  | numberOutOfRange
  | controlCharacter
  | keyNotText
  | loneSurrogate
  | trailingComma
  | trailingCharacters
  | unfinishedSurrogate
  | tooDeep
  | mismatch (cause : Mismatch)

namespace Problem

/-- The category of a cause. -/
def category : Problem → Category
  | endInList | endInObject | endInText | endInValue => .truncated
  | mismatch _ => .mismatched
  | _ => .malformed

/-- The wording of a cause. -/
def message : Problem → String
  | endInList => "EOF while parsing a list"
  | endInObject => "EOF while parsing an object"
  | endInText => "EOF while parsing a string"
  | endInValue => "EOF while parsing a value"
  | colonExpected => "expected `:`"
  | listSeparatorExpected => "expected `,` or `]`"
  | objectSeparatorExpected => "expected `,` or `\x7d`"
  | wordExpected => "expected ident"
  | valueExpected => "expected value"
  | badEscape => "invalid escape"
  | badNumber => "invalid number"
  | numberOutOfRange => "number out of range"
  | controlCharacter => "control character (\\u0000-\\u001F) found while parsing a string"
  | keyNotText => "key must be a string"
  | loneSurrogate => "lone leading surrogate in hex escape"
  | trailingComma => "trailing comma"
  | trailingCharacters => "trailing characters"
  | unfinishedSurrogate => "unexpected end of hex escape"
  | tooDeep => "recursion limit exceeded"
  | mismatch cause => cause.message

end Problem

/-- A cause and the place where reading stood. -/
structure Fault where
  problem : Problem
  position : Option Position

namespace Fault

/-- A fault at a place. -/
def placed (problem : Problem) (position : Position) : Fault := ⟨problem, some position⟩

/-- A mismatch whose place is not known yet. -/
def unplaced (cause : Mismatch) : Fault := ⟨.mismatch cause, none⟩

/-- The fault at its own place, or at the given one if it has none. -/
def settle (fault : Fault) (position : Position) : Fault :=
  { fault with position := fault.position.or (some position) }

/-- The wording of a fault without its place. -/
def message (fault : Fault) : String := fault.problem.message

/-- The category of a fault. -/
def category (fault : Fault) : Category := fault.problem.category

/-- The wording of a fault with its place, as far as that is known. -/
def describe (fault : Fault) : String :=
  match fault.position with
  | none => fault.message
  | some position =>
    fault.message ++ " at line " ++ toString position.line ++ " column " ++
      toString position.column

end Fault

/-- A reading that settles the place of its fault. -/
def settled {α : Type} (position : Position) : Except Fault α → Except Fault α
  | .ok value => .ok value
  | .error fault => .error (fault.settle position)

end PersistenceLayer.Json
