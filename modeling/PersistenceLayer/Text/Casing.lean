import PersistenceLayer.Text.CaseTable

/-!
# Casing of names

Generated types begin with a title-case character and generated properties with
a lower-case one. Only the first character of a name is ever changed; what
follows it stays as it was declared.
-/

namespace PersistenceLayer.Text

/-- Whether a character has the property Lowercase. -/
def isLowercase (c : Char) : Bool :=
  lowercaseRanges.any fun range => range.contains c.toNat

/-- The image of a character under a list of expansions and a list of shifts;
a character in neither is its own image. -/
def caseImage (expansions : List (Nat × List Nat)) (shifts : List CaseShift) (c : Char) :
    List Char :=
  match expansions.find? fun expansion => expansion.1 == c.toNat with
  | some expansion => expansion.2.map Char.ofNat
  | none =>
    match shifts.find? fun shift => shift.toCodeRange.contains c.toNat with
    | some shift => [Char.ofNat (shift.apply c.toNat)]
    | none => [c]

/-- The full upper-case form of a character. -/
def uppercase (c : Char) : List Char :=
  caseImage uppercaseExpansions uppercaseShifts c

/-- The full lower-case form of a character. -/
def lowercase (c : Char) : List Char :=
  caseImage lowercaseExpansions lowercaseShifts c

/-- The digraph letters, each with the title-case form that its three cases share. -/
def digraphTitles : List (CodeRange × Nat) :=
  [(⟨0x01C4, 0x01C6, 1⟩, 0x01C5), (⟨0x01C7, 0x01C9, 1⟩, 0x01C8),
    (⟨0x01CA, 0x01CC, 1⟩, 0x01CB), (⟨0x01F1, 0x01F3, 1⟩, 0x01F2)]

/-- The title-case form of a character. Where the upper-case form expands to several
characters only the first of them stays upper-case; the n preceded by an apostrophe
(U+0149) keeps its whole expansion. -/
def titlecase (c : Char) : List Char :=
  match digraphTitles.find? fun digraph => digraph.1.contains c.toNat with
  | some digraph => [Char.ofNat digraph.2]
  | none =>
    if c.toNat == 0x0149 then uppercase c
    else
      match uppercase c with
      | [] => []
      | first :: rest => first :: rest.flatMap lowercase

/-- The name with a lower-case first character replaced by its title-case form. -/
def capitalized (name : String) : String :=
  match name.toList with
  | [] => name
  | first :: rest => if isLowercase first then String.ofList (titlecase first ++ rest) else name

/-- The name with its first character replaced by its lower-case form. -/
def decapitalized (name : String) : String :=
  match name.toList with
  | [] => name
  | first :: rest => String.ofList (lowercase first ++ rest)

end PersistenceLayer.Text
