/-!
# The shortest decimal that reads back

A positive binary fraction `significand * 2 ^ exponent` is the nearest such
number to every decimal of an interval around it. Of the decimals in that
interval this module picks one with the fewest digits, and among those the one
nearest to the number. The arithmetic is exact, on natural numbers.
-/

namespace PersistenceLayer.Decimal

/-- A positive binary number `significand * 2 ^ exponent`. `narrowBelow` marks the powers of two
whose lower neighbour is only half a step away. -/
structure Binary where
  significand : Nat
  exponent : Int
  narrowBelow : Bool

/-- The bounds and the centre of the reading interval as multiples of one unit, which is the
fraction `numerator / denominator`. -/
structure Interval where
  low : Nat
  centre : Nat
  high : Nat
  closed : Bool
  numerator : Nat
  denominator : Nat

/-- The interval of reals that read back as a number: half a step to either side, its ends
included exactly when the significand is even. A unit is a quarter of a step. -/
def Binary.interval (value : Binary) : Interval :=
  let below := if value.narrowBelow then 1 else 2
  let power := value.exponent - 2
  { low := 4 * value.significand - below
    centre := 4 * value.significand
    high := 4 * value.significand + 2
    closed := value.significand % 2 == 0
    numerator := Nat.pow 2 power.toNat
    denominator := Nat.pow 2 (-power).toNat }

/-- Whether the decimal `digits * 10 ^ exponent` lies in an interval. -/
def Interval.contains (interval : Interval) (digits : Nat) (exponent : Int) : Bool :=
  let decimal := digits * Nat.pow 10 exponent.toNat * interval.denominator
  let unit := interval.numerator * Nat.pow 10 (-exponent).toNat
  let low := interval.low * unit
  let high := interval.high * unit
  if interval.closed then low ≤ decimal && decimal ≤ high else low < decimal && decimal < high

/-- The multiple of `10 ^ exponent` next below the centre of an interval, with what is left. -/
def Interval.floorAt (interval : Interval) (exponent : Int) : Nat × Nat × Nat :=
  let dividend := interval.centre * interval.numerator * Nat.pow 10 (-exponent).toNat
  let divisor := interval.denominator * Nat.pow 10 exponent.toNat
  (dividend / divisor, dividend % divisor, divisor)

/-- The better of the two multiples of `10 ^ exponent` around the centre, if one of them reads
back. A tie goes to the even multiple. -/
def Interval.pickAt? (interval : Interval) (exponent : Int) : Option Nat :=
  let (below, rest, divisor) := interval.floorAt exponent
  let lower := below != 0 && interval.contains below exponent
  let upper := interval.contains (below + 1) exponent
  if lower && upper then
    if 2 * rest < divisor || (2 * rest == divisor && below % 2 == 0) then some below
    else some (below + 1)
  else if lower then some below
  else if upper then some (below + 1)
  else none

/-- The first pick on the grids `10 ^ exponent`, `10 ^ (exponent - 1)`, …; the finest grid tried is
`tries` steps down. -/
def Interval.pickFrom (interval : Interval) (exponent : Int) : Nat → Nat × Int
  | 0 => (interval.centre, exponent)
  | tries + 1 =>
    match interval.pickAt? exponent with
    | some digits => (digits, exponent)
    | none => interval.pickFrom (exponent - 1) tries

/-- A decimal without the zeros at its end. -/
def stripZeros (digits : Nat) (exponent : Int) : Nat → Nat × Int
  | 0 => (digits, exponent)
  | fuel + 1 =>
    if digits != 0 && digits % 10 == 0 then stripZeros (digits / 10) (exponent + 1) fuel
    else (digits, exponent)

/-- The shortest decimal of a number, as digits and a power of ten. The coarsest grid is taken
above every finite double, the finest below the smallest. -/
def Binary.shortest (value : Binary) : Nat × Int :=
  let (digits, exponent) := value.interval.pickFrom 310 700
  stripZeros digits exponent 400

/-- The number of fractions that a double can have, stored in its lowest 52 bits. -/
def fractionSize : Nat := 0x10000000000000

/-- The number of exponents that a double can have, stored in the 11 bits above the fraction. -/
def exponentSize : Nat := 0x800

/-- The number that a finite, positive double stands for. -/
def Binary.ofFloat (value : Float) : Binary :=
  let bits : Nat := value.toBits.toNat
  let fraction := bits % fractionSize
  let biased := bits / fractionSize % exponentSize
  if biased == 0 then ⟨fraction, -1074, false⟩
  else ⟨fractionSize + fraction, (biased : Int) - 1075, fraction == 0 && biased != 1⟩

/-- The power of ten behind the mark of an exponent, always with its sign. -/
def exponentText (power : Int) : String :=
  if 0 ≤ power then "+" ++ toString power else toString power

/-- How a message writes a finite double: the shortest digits, positional while the leading digit
stands between five places after the point and sixteen before it, and with an exponent otherwise. -/
def floatText (value : Float) : String :=
  let sign := if value.toBits.toNat / (fractionSize * exponentSize) == 1 then "-" else ""
  if value == 0.0 then sign ++ "0.0"
  else
    let (digits, exponent) := (Binary.ofFloat value.abs).shortest
    let text := Nat.toDigits 10 digits
    let point : Int := text.length + exponent
    let body :=
      if 0 ≤ exponent && point ≤ 16 then
        text ++ List.replicate exponent.toNat '0' ++ ['.', '0']
      else if 0 < point && point ≤ 16 then
        text.take point.toNat ++ ['.'] ++ text.drop point.toNat
      else if -5 < point && point ≤ 0 then
        ['0', '.'] ++ List.replicate (-point).toNat '0' ++ text
      else
        let mantissa := if text.length == 1 then text else text.take 1 ++ ['.'] ++ text.drop 1
        mantissa ++ ['e'] ++ (exponentText (point - 1)).toList
    sign ++ String.ofList body

end PersistenceLayer.Decimal
