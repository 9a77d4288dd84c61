import PersistenceLayer.Json.Fault

/-!
# Number literals

A literal keeps the digits as they are written. Its value is an integer when it
is written without fraction and exponent and fits 64 bits, and a double in every
other case; the negative zero is a double too. A double is computed from the
digits that fit 64 bits, scaled once by a power of ten, so the last bit of a
long literal follows from this rule and not from exact rounding.
-/

namespace PersistenceLayer.Json

/-- A number as written. All digits are values below ten; the exponent carries whether it is
negative. -/
structure NumberLiteral where
  negative : Bool
  whole : List Nat
  fraction : Option (List Nat)
  exponent : Option (Bool × List Nat)
  deriving DecidableEq, Repr

/-- The value of a number. -/
inductive Number where
  | integer (value : Int)
  | decimal (value : Float)

/-- What a message calls a number. -/
def Number.found : Number → Found
  | .integer value => .integer value
  | .decimal value => .decimal value

/-- Digits read in front of which `start` stands, up to the first at which the limit is reached,
with the digits left over. -/
def accumulate (limit start : Nat) : List Nat → Nat × List Nat
  | [] => (start, [])
  | digit :: digits =>
    if start * 10 + digit < limit then accumulate limit (start * 10 + digit) digits
    else (start, digit :: digits)

/-- The first exponent that does not fit 31 bits. -/
def exponentLimit : Nat := 0x80000000

/-- The number that digits write in base ten. -/
def decimalValue (digits : List Nat) : Nat :=
  digits.foldl (fun value digit => value * 10 + digit) 0

/-- A power of ten as a double. -/
def powerOfTen (exponent : Nat) : Float :=
  Float.ofScientific 1 false exponent

/-- A double times a power of ten. Large negative powers are divided out in steps, each within the
range of doubles; a result beyond that range is no number. The last argument bounds the steps: a
significand of 64 bits is divided down to zero after two of them. -/
def scale (value : Float) (exponent : Int) : Nat → Except Problem Float
  | 0 => .ok value
  | steps + 1 =>
    if exponent.natAbs ≤ 308 then
      if 0 ≤ exponent then
        let product := value * powerOfTen exponent.natAbs
        if product.isInf then .error .numberOutOfRange else .ok product
      else .ok (value / powerOfTen exponent.natAbs)
    else if value == 0.0 then .ok value
    else if 0 ≤ exponent then .error .numberOutOfRange
    else scale (value / powerOfTen 308) (exponent + 308) steps

/-- More steps than any scaling takes. -/
def scaleSteps : Nat := 8

namespace NumberLiteral

/-- Whether a literal has neither fraction nor exponent. -/
def isWhole (literal : NumberLiteral) : Bool :=
  literal.fraction.isNone && literal.exponent.isNone

/-- The significand that fits 64 bits and the power of ten it is short of, before the exponent of
the literal is applied. -/
def significand (literal : NumberLiteral) : Nat × Int :=
  let (whole, dropped) := accumulate UInt64.size 0 literal.whole
  let fraction := literal.fraction.getD []
  let (value, ignored) := accumulate UInt64.size whole fraction
  (value, (dropped.length : Int) - ((fraction.length - ignored.length : Nat) : Int))

/-- The double that a literal stands for. -/
def toFloat (literal : NumberLiteral) : Except Problem Float := do
  let (value, short) := literal.significand
  let magnitude ←
    match literal.exponent with
    | none => scale (Float.ofNat value) short scaleSteps
    | some (negative, digits) =>
      let (exponent, excess) := accumulate exponentLimit 0 digits
      if !excess.isEmpty then
        if value != 0 && !negative then throw .numberOutOfRange else pure 0.0
      else
        let power := if negative then short - exponent else short + exponent
        scale (Float.ofNat value) power scaleSteps
  return if literal.negative then -magnitude else magnitude

/-- How many digits of a literal stand behind the one at which its exponent exceeds 31 bits; a
number out of range is noticed there. -/
def unread (literal : NumberLiteral) : Nat :=
  match literal.exponent with
  | none => 0
  | some (_, digits) => (accumulate exponentLimit 0 digits).2.length - 1

/-- The value of a literal. -/
def evaluate (literal : NumberLiteral) : Except Problem Number := do
  let value := decimalValue literal.whole
  if literal.isWhole && !literal.negative && value < UInt64.size then
    return .integer value
  else if literal.isWhole && literal.negative && value != 0 && 2 * value ≤ UInt64.size then
    return .integer (-value)
  else
    return .decimal (← literal.toFloat)

end NumberLiteral

end PersistenceLayer.Json
