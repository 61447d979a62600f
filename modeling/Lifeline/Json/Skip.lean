import Lifeline.Json.Reader

/-!
# Skipping a value

A field that nobody asked for is skipped without being built.  Skipping keeps
the open brackets on a stack of its own, so it has no limit on nesting; it does
not check the range of numbers or the pairing of surrogates.
-/

namespace Lifeline.Json

inductive Bracket
  | list
  | object
  deriving DecidableEq

def skipExponent (text : List Char) : Except Fault (List Char) :=
  let rest := match text with
    | '+' :: rest => rest
    | '-' :: rest => rest
    | rest => rest
  match rest with
  | [] => .error (.before .invalidNumber [])
  | c :: after =>
      if Decimal.isDigit c then .ok (after.dropWhile Decimal.isDigit)
      else .error (.on .invalidNumber rest)

def skipFraction (text : List Char) : Except Fault (List Char) :=
  match text.takeWhile Decimal.isDigit, text.dropWhile Decimal.isDigit with
  | [], rest => .error (.on .invalidNumber rest)
  | _ :: _, 'e' :: rest => skipExponent rest
  | _ :: _, 'E' :: rest => skipExponent rest
  | _ :: _, rest => .ok rest

/-- Skips a number after its sign. -/
def skipNumber (text : List Char) : Except Fault (List Char) :=
  match text with
  | [] => .error (.before .invalidNumber [])
  | c :: after =>
      if c = '0' ∧ (after.takeWhile Decimal.isDigit).isEmpty = false then
        .error (.on .invalidNumber after)
      else if Decimal.isDigit c then
        match text.dropWhile Decimal.isDigit with
        | '.' :: rest => skipFraction rest
        | 'e' :: rest => skipExponent rest
        | 'E' :: rest => skipExponent rest
        | rest => .ok rest
      else .error (.on .invalidNumber text)

def skipEscape : List Char → Except Fault (List Char)
  | [] => .error (.before .endInText [])
  | 'u' :: rest => do
      let (_, rest) ← readHex rest
      .ok rest
  | c :: rest =>
      if c ∈ ['"', '\\', '/', 'b', 'f', 'n', 'r', 't'] then .ok rest
      else .error (.on .invalidEscape (c :: rest))

/-- Skips a text after its opening quote. -/
def skipText (fuel : Nat) (text : List Char) : Except Fault (List Char) :=
  match fuel with
  | 0 => .error (.before .endInText text)
  | fuel + 1 => match text with
      | [] => .error (.before .endInText [])
      | '"' :: rest => .ok rest
      | '\\' :: rest => do skipText fuel (← skipEscape rest)
      | c :: rest =>
          if c.toNat < 0x20 then .error (.before .controlCharacter (c :: rest))
          else skipText fuel rest

/-- Skips a key and its colon. -/
def skipKey (text : List Char) : Except Fault (List Char) :=
  match skipGap text with
  | [] => .error (.on .endInObject [])
  | '"' :: rest => do
      let rest ← skipText (rest.length + 1) rest
      match skipGap rest with
      | [] => .error (.on .endInObject [])
      | ':' :: rest => .ok rest
      | rest => .error (.on .expectedColon rest)
  | rest => .error (.on .keyNotText rest)

/-- Moves from inside the innermost open bracket to the next value, closing what
ends; the stack is empty once the value that was skipped has ended. -/
def skipToValue (fuel : Nat) (afterItem : Bool) (stack : List Bracket) (text : List Char) :
    Except Fault (List Bracket × List Char) :=
  match fuel with
  | 0 => .error (.before .endInValue text)
  | fuel + 1 => match stack with
      | [] => .ok ([], text)
      | bracket :: outer =>
          let enter (rest : List Char) : Except Fault (List Bracket × List Char) :=
            match bracket with
            | .list => .ok (bracket :: outer, rest)
            | .object => do .ok (bracket :: outer, ← skipKey rest)
          match skipGap text, bracket with
          | [], .list => .error (.on .endInList [])
          | [], .object => .error (.on .endInObject [])
          | ']' :: rest, .list => skipToValue fuel true outer rest
          | '}' :: rest, .object => skipToValue fuel true outer rest
          | c :: rest, _ =>
              if afterItem then
                if c = ',' then enter rest
                else .error (.on (match bracket with
                  | .list => .expectedListSeparator
                  | .object => .expectedObjectSeparator) (c :: rest))
              else enter (c :: rest)

/-- Skips one value and what follows it inside the brackets that are still open. -/
def skipValues (fuel : Nat) (stack : List Bracket) (text : List Char) : Except Fault (List Char) :=
  match fuel with
  | 0 => .error (.before .endInValue text)
  | fuel + 1 => do
      let next (opened : Option Bracket) (rest : List Char) : Except Fault (List Char) := do
        match opened with
        | some bracket =>
            let (stack, rest) ←
              skipToValue (rest.length + stack.length + 2) false (bracket :: stack) rest
            if stack.isEmpty then .ok rest else skipValues fuel stack rest
        | none =>
            let (stack, rest) ← skipToValue (rest.length + stack.length + 2) true stack rest
            if stack.isEmpty then .ok rest else skipValues fuel stack rest
      match skipGap text with
      | [] => .error (.on .endInValue [])
      | 'n' :: rest => do next none (← readWord "ull".toList rest)
      | 't' :: rest => do next none (← readWord "rue".toList rest)
      | 'f' :: rest => do next none (← readWord "alse".toList rest)
      | '"' :: rest => do next none (← skipText (rest.length + 1) rest)
      | '-' :: rest => do next none (← skipNumber rest)
      | '[' :: rest => next (some .list) rest
      | '{' :: rest => next (some .object) rest
      | c :: rest =>
          if Decimal.isDigit c then do next none (← skipNumber (c :: rest))
          else .error (.on .expectedValue (c :: rest))

/-- Skips one value. -/
def skipValue (text : List Char) : Except Fault (List Char) :=
  skipValues (text.length + 1) [] text

end Lifeline.Json
