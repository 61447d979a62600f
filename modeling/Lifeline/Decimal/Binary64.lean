/-!
# Double precision numbers

A number is kept as its sixty-four bits, so that equality of numbers is equality
of what was stored and the two zeros differ.  Arithmetic is that of the
hardware; `scaled` is the conversion of a significand and a power of ten, which
rounds once for the significand and once for each scaling step.
-/

namespace Lifeline

structure Binary64 where
  bits : UInt64
  deriving DecidableEq

namespace Binary64

def ofFloat (value : Float) : Binary64 := ⟨value.toBits⟩

def isNegative (number : Binary64) : Bool := number.bits ≥ 0x8000000000000000

def negate (number : Binary64) : Binary64 := ⟨number.bits ^^^ 0x8000000000000000⟩

def zero : Binary64 := ⟨0⟩

def exponentField (number : Binary64) : Nat := (number.bits >>> 52).toNat % 2048

/-- The leading bit of most significands, which is not stored. -/
def hiddenBit : Nat := 4503599627370496

def fractionField (number : Binary64) : Nat := number.bits.toNat % hiddenBit

/-- Neither infinite nor a NaN. -/
def isFinite (number : Binary64) : Bool := number.exponentField != 2047

def ofNat (n : Nat) : Binary64 := ofFloat n.toUInt64.toFloat

def powerOfTen (exponent : Nat) : Float := Float.ofScientific 1 false exponent

/-- `significand * 10 ^ exponent`, or nothing when it is too large.  Powers up
to the 308th are taken in one step; a smaller exponent is reached in two, and
what lies below that is zero. -/
def scaled (significand : Nat) (exponent : Int) : Option Binary64 :=
  let value := significand.toUInt64.toFloat
  if significand = 0 then some zero
  else if exponent > 308 then none
  else if exponent ≥ 0 then
    let product := ofFloat (value * powerOfTen exponent.toNat)
    if product.isFinite then some product else none
  else if exponent ≥ -308 then some (ofFloat (value / powerOfTen (-exponent).toNat))
  else if exponent ≥ -616 then
    some (ofFloat (value / powerOfTen 308 / powerOfTen (-exponent - 308).toNat))
  else some zero

end Binary64

end Lifeline
