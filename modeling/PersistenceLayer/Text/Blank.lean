/-!
# Blank text

White space is the Unicode property of that name. A text is blank when nothing
but white space is in it; blank names count as names that were not given.
-/

namespace PersistenceLayer.Text

/-- The characters with the property White_Space. -/
def isWhiteSpace (c : Char) : Bool :=
  let code := c.toNat
  (0x09 ≤ code && code ≤ 0x0D) || code == 0x20 || code == 0x85 || code == 0xA0 ||
    code == 0x1680 || (0x2000 ≤ code && code ≤ 0x200A) || code == 0x2028 || code == 0x2029 ||
    code == 0x202F || code == 0x205F || code == 0x3000

/-- A text of white space only; the empty text is blank. -/
def isBlank (text : String) : Bool :=
  text.toList.all isWhiteSpace

/-- The text that was given, unless it is blank. -/
def nonBlank? (text : Option String) : Option String :=
  text.filter fun value => !isBlank value

/-- The text without the white space at its two ends. -/
def trim (text : String) : String :=
  let body := text.toList.dropWhile isWhiteSpace
  String.ofList (body.reverse.dropWhile isWhiteSpace).reverse

end PersistenceLayer.Text
