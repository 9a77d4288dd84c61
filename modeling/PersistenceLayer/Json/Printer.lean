import PersistenceLayer.Json.Value
import PersistenceLayer.Text.Hex

/-!
# Compact JSON

Values are written without white space. In a text only the quote, the backslash
and the control characters are escaped; everything else stands for itself.
-/

namespace PersistenceLayer.Json

/-- The characters that stand for one character of a text. -/
def escapedChar (c : Char) : List Char :=
  match c with
  | '"' => ['\\', '"']
  | '\\' => ['\\', '\\']
  | '\x08' => ['\\', 'b']
  | '\t' => ['\\', 't']
  | '\n' => ['\\', 'n']
  | '\x0c' => ['\\', 'f']
  | '\r' => ['\\', 'r']
  | c =>
    if c.toNat < 0x20 then
      ['\\', 'u', '0', '0', Text.hexDigit (c.toNat / 16), Text.hexDigit (c.toNat % 16)]
    else [c]

/-- A text between its quotes. -/
def textChars (text : String) : List Char :=
  '"' :: (text.toList.flatMap escapedChar ++ ['"'])

/-- An integer in base ten. -/
def integerChars (value : Int) : List Char :=
  (if value < 0 then ['-'] else []) ++ Nat.toDigits 10 value.natAbs

namespace Value

mutual

/-- The characters of a value. -/
def chars : Value → List Char
  | null => ['n', 'u', 'l', 'l']
  | boolean true => ['t', 'r', 'u', 'e']
  | boolean false => ['f', 'a', 'l', 's', 'e']
  | integer value => integerChars value
  | decimal value => (Decimal.floatText value).toList
  | text value => textChars value
  | list items => '[' :: itemChars items
  | object members => '\x7b' :: memberChars members

/-- The characters of items, separated by commas, and the closing bracket. -/
def itemChars : List Value → List Char
  | [] => [']']
  | [item] => item.chars ++ [']']
  | item :: items => item.chars ++ ',' :: itemChars items

/-- The characters of members, separated by commas, and the closing brace. -/
def memberChars : List (String × Value) → List Char
  | [] => ['\x7d']
  | [(name, value)] => textChars name ++ ':' :: (value.chars ++ ['\x7d'])
  | (name, value) :: members => textChars name ++ ':' :: (value.chars ++ ',' :: memberChars members)

end

/-- A value as a text. -/
def render (value : Value) : String :=
  String.ofList value.chars

end Value

end PersistenceLayer.Json
