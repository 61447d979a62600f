import Lifeline.Decimal.Binary64
import Lifeline.Decimal.Whole

/-!
# Shortest decimals of doubles

The decimals that read back as a double form an interval around it: half way to
each neighbour, the ends included exactly when the significand is even.
`shortest` looks at grids of one, two, up to seventeen digits and takes the
first grid with a point in that interval; of two such points it takes the
nearer, and of two equally near ones the even one.  All of it is exact
arithmetic on natural numbers.
-/

namespace Lifeline.Decimal

/-- `significand * 2 ^ exponent` in units of a common denominator: the value and
the two ends of its interval. -/
structure Interval where
  lower : Nat
  value : Nat
  upper : Nat
  denominator : Nat
  closed : Bool

def intervalOf (number : Binary64) : Interval :=
  let field := number.exponentField
  let significand :=
    if field = 0 then number.fractionField else Binary64.hiddenBit + number.fractionField
  let exponent : Int := (if field = 0 then 1 else field : Nat) - 1075
  let shift := if exponent ≥ 2 then exponent.toNat - 2 else 0
  let denominator := if exponent ≥ 2 then 1 else Nat.pow 2 (2 - exponent).toNat
  let below := if significand = Binary64.hiddenBit ∧ field > 1 then 1 else 2
  { lower := (4 * significand - below) * Nat.pow 2 shift
    value := 4 * significand * Nat.pow 2 shift
    upper := (4 * significand + 2) * Nat.pow 2 shift
    denominator := denominator
    closed := significand % 2 = 0 }

/-- The decimal exponent of a positive quotient: the largest power of ten that
is not above it, found by counting digits. -/
def exponentOf (numerator denominator : Nat) : Int :=
  if numerator ≥ denominator then (digits (numerator / denominator)).length - 1
  else -((digits ((denominator - 1) / numerator)).length : Int)

/-- A decimal: its digits as one number and the power of ten of the last one. -/
structure Scientific where
  significand : Nat
  exponent : Int
  deriving DecidableEq

/-- Whether `point * 10 ^ exponent` lies in the interval. -/
def Interval.holds (interval : Interval) (point : Nat) (exponent : Int) : Bool :=
  let scaledPoint := point * Nat.pow 10 exponent.toNat * interval.denominator
  let lower := interval.lower * Nat.pow 10 (-exponent).toNat
  let upper := interval.upper * Nat.pow 10 (-exponent).toNat
  if interval.closed then lower ≤ scaledPoint && scaledPoint ≤ upper
  else lower < scaledPoint && scaledPoint < upper

/-- The point of the grid `10 ^ exponent` that is chosen, if one lies in the interval. -/
def Interval.pointOn (interval : Interval) (exponent : Int) : Option Nat :=
  let numerator := interval.value * Nat.pow 10 (-exponent).toNat
  let denominator := interval.denominator * Nat.pow 10 exponent.toNat
  let below := numerator / denominator
  let twice := 2 * (numerator % denominator)
  let nearBelow := twice < denominator || (twice == denominator && below % 2 == 0)
  match interval.holds below exponent, interval.holds (below + 1) exponent with
  | true, true => some (if nearBelow then below else below + 1)
  | true, false => some below
  | false, true => some (below + 1)
  | false, false => none

def Interval.search (interval : Interval) (top : Int) : Nat → Nat → Scientific
  | 0, used => ⟨interval.value / interval.denominator, top - used⟩
  | left + 1, used =>
      match interval.pointOn (top - used) with
      | some point => ⟨point, top - used⟩
      | none => interval.search top left (used + 1)

/-- The shortest decimal of a positive finite double. -/
def shortest (number : Binary64) : Scientific :=
  let interval := intervalOf number
  interval.search (exponentOf interval.value interval.denominator) 17 0

/-- Which decimals are written with a plain point, by the exponent of the first digit. -/
structure PointLayout where
  least : Int
  beyond : Int

/-- Plain from a hundred-thousandth up to ten to the sixteenth. -/
def PointLayout.standard : PointLayout := ⟨-5, 16⟩

def dropTrailingZeros (written : List Char) : List Char :=
  (written.reverse.dropWhile (· == '0')).reverse

/-- A decimal in plain form, always with a digit after the point, or in
scientific form with the sign of its exponent. -/
def layout (style : PointLayout) (decimal : Scientific) : List Char :=
  let all := digits decimal.significand
  let first : Int := decimal.exponent + all.length - 1
  let written := dropTrailingZeros all
  if style.least ≤ first ∧ first < style.beyond then
    if first < 0 then
      "0.".toList ++ List.replicate (-first - 1).toNat '0' ++ written
    else
      let places := first.toNat + 1
      let before := written.take places ++ List.replicate (places - written.length) '0'
      let after := written.drop places
      before ++ '.' :: (if after.isEmpty then ['0'] else after)
  else
    let sign := if first < 0 then ['e', '-'] else ['e', '+']
    let mantissa := match written with
      | [] => []
      | [digit] => [digit]
      | digit :: rest => digit :: '.' :: rest
    mantissa ++ sign ++ digits first.natAbs

/-- The text of a finite double. -/
def ofBinary64 (number : Binary64) : List Char :=
  let sign := if number.isNegative then ['-'] else []
  let magnitude := if number.isNegative then number.negate else number
  if magnitude = Binary64.zero then sign ++ "0.0".toList
  else sign ++ layout .standard (shortest magnitude)

end Lifeline.Decimal
