/-!
# Whole numbers in decimal

Digits are those of ASCII.  A written count may start with a plus sign and with
zeros; it is refused when it is empty, holds any other character, or does not
stay below its bound.
-/

namespace Lifeline.Decimal

/-- The least count that sixteen bits cannot hold. -/
def beyond16 : Nat := 65536

/-- The least count that sixty-four bits cannot hold. -/
def beyond64 : Nat := 18446744073709551616

def isDigit (c : Char) : Bool := '0' ≤ c && c ≤ '9'

def digitValue (c : Char) : Nat := c.toNat - '0'.toNat

/-- The number that a list of digits denotes, continuing one already read. -/
def valueFrom (sofar : Nat) (digits : List Char) : Nat :=
  digits.foldl (fun total c => total * 10 + digitValue c) sofar

def digits (n : Nat) : List Char := Nat.toDigits 10 n

/-- A count below `bound`, with an optional plus sign before its digits. -/
def readCount (bound : Nat) (text : List Char) : Option Nat :=
  let written := match text with
    | '+' :: rest => rest
    | other => other
  if written.isEmpty || !written.all isDigit then none
  else if valueFrom 0 written < bound then some (valueFrom 0 written)
  else none

def ofInt : Int → List Char
  | .ofNat n => digits n
  | .negSucc n => '-' :: digits (n + 1)

end Lifeline.Decimal
