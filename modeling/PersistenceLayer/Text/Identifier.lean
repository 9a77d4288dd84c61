/-!
# Identifiers

The names that stay usable in every generated language: an ASCII letter or an
underscore, then ASCII letters, digits and underscores.
-/

namespace PersistenceLayer.Text

/-- A character that may open an identifier. -/
def isIdentifierStart (c : Char) : Bool :=
  c.isAlpha || c == '_'

/-- A character that may follow in an identifier. -/
def isIdentifierPart (c : Char) : Bool :=
  c.isAlphanum || c == '_'

/-- A text that is an identifier from its first character to its last. -/
def isIdentifier (text : String) : Bool :=
  match text.toList with
  | [] => false
  | first :: rest => isIdentifierStart first && rest.all isIdentifierPart

end PersistenceLayer.Text
