import PersistenceLayer.Text.Hex
import PersistenceLayer.Text.Unprintable

/-!
# Quoted texts in messages

A message shows a text between double quotes, with everything escaped that
would not show as itself.
-/

namespace PersistenceLayer.Text

/-- The characters that stand for one character between quotes. -/
def quotedChar (c : Char) : List Char :=
  if c == '\x00' then ['\\', '0']
  else if c == '\t' then ['\\', 't']
  else if c == '\n' then ['\\', 'n']
  else if c == '\r' then ['\\', 'r']
  else if c == '"' then ['\\', '"']
  else if c == '\\' then ['\\', '\\']
  else if isUnprintable c then ['\\', 'u', '\x7b'] ++ hexDigits c.toNat ++ ['\x7d']
  else [c]

/-- A text between double quotes, escaped. -/
def quoted (text : String) : String :=
  String.ofList ('"' :: text.toList.flatMap quotedChar ++ ['"'])

end PersistenceLayer.Text
