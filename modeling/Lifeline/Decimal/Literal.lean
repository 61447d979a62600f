import Lifeline.Decimal.Binary64
import Lifeline.Decimal.Whole

/-!
# Literals of doubles

A literal is an optional sign and then digits with an optional point and an
optional exponent, or one of the words for infinity and for no number, in any
case.  It denotes the double nearest to its exact value.
-/

namespace Lifeline.Decimal

def infinity : Binary64 := ⟨0x7ff0000000000000⟩

def notANumber : Binary64 := ⟨0x7ff8000000000000⟩

/-- The double nearest to `significand * 10 ^ exponent`.  Beyond the given
bounds the answer is known without computing the power. -/
def nearest (significand : Nat) (exponent : Int) : Binary64 :=
  let magnitude : Int := (digits significand).length + exponent
  if significand = 0 ∨ magnitude < -400 then .zero
  else if magnitude > 400 then infinity
  else if exponent ≥ 0 then .ofFloat (Float.ofScientific significand false exponent.toNat)
  else .ofFloat (Float.ofScientific significand true (-exponent).toNat)

/-- The exponent of a literal: nothing, or a letter, an optional sign and digits. -/
def literalExponent : List Char → Option Int
  | [] => some 0
  | letter :: rest =>
      if letter = 'e' ∨ letter = 'E' then
        let (negative, written) := match rest with
          | '-' :: rest => (true, rest)
          | '+' :: rest => (false, rest)
          | rest => (false, rest)
        if written.isEmpty || !written.all isDigit then none
        else some (if negative then -(valueFrom 0 written : Int) else valueFrom 0 written)
      else none

def readMagnitude (text : List Char) : Option Binary64 :=
  let word := String.ofList (text.map Char.toLower)
  if word = "inf" ∨ word = "infinity" then some infinity
  else if word = "nan" then some notANumber
  else
    let whole := text.takeWhile isDigit
    let rest := text.dropWhile isDigit
    let (fraction, rest) := match rest with
      | '.' :: rest => (rest.takeWhile isDigit, rest.dropWhile isDigit)
      | rest => ([], rest)
    if whole.isEmpty && fraction.isEmpty then none
    else
      (literalExponent rest).map fun exponent =>
        nearest (valueFrom 0 (whole ++ fraction)) (exponent - fraction.length)

/-- The double that a literal denotes, if it is one. -/
def readLiteral (text : String) : Option Binary64 :=
  match text.toList with
  | '-' :: rest => (readMagnitude rest).map Binary64.negate
  | '+' :: rest => readMagnitude rest
  | rest => readMagnitude rest

end Lifeline.Decimal
