import Lifeline.Decimal.Shortest
import Lifeline.Json.Value

/-!
# Writing Json

Values are written without blanks and objects in the order of their entries.
Quotes, backslashes and control characters below the space are escaped, all
else is written as it is.  A double that is not finite has no text of its own
and is written as `null`.
-/

namespace Lifeline.Json

def hexDigit (n : Nat) : Char := if n < 10 then Char.ofNat (48 + n) else Char.ofNat (87 + n)

def writeChar (c : Char) : List Char :=
  match c with
  | '"' => ['\\', '"']
  | '\\' => ['\\', '\\']
  | '\x08' => ['\\', 'b']
  | '\t' => ['\\', 't']
  | '\n' => ['\\', 'n']
  | '\x0c' => ['\\', 'f']
  | '\r' => ['\\', 'r']
  | c =>
      if c.toNat < 0x20 then ['\\', 'u', '0', '0', hexDigit (c.toNat / 16), hexDigit (c.toNat % 16)]
      else [c]

def writeText (text : String) : List Char :=
  '"' :: (text.toList.flatMap writeChar ++ ['"'])

def Number.write : Number → List Char
  | .whole value _ => Decimal.ofInt value
  | .float value => if value.isFinite then Decimal.ofBinary64 value else "null".toList

namespace Value

mutual

def write : Value → List Char
  | .null => "null".toList
  | .boolean true => "true".toList
  | .boolean false => "false".toList
  | .number value => value.write
  | .text value => writeText value
  | .array items => '[' :: writeItems items
  | .object entries => '{' :: writeEntries entries
termination_by structural value => value

/-- Items with the commas between them and the closing bracket. -/
def writeItems : List Value → List Char
  | [] => [']']
  | item :: rest =>
      write item ++ match rest with
        | [] => [']']
        | _ => ',' :: writeItems rest
termination_by structural items => items

def writeEntries : List (String × Value) → List Char
  | [] => ['}']
  | (key, value) :: rest =>
      writeText key ++ ':' :: (write value ++ match rest with
        | [] => ['}']
        | _ => ',' :: writeEntries rest)
termination_by structural entries => entries

end

theorem write_number (value : Number) : write (.number value) = value.write := rfl

theorem write_text (value : String) : write (.text value) = writeText value := rfl

theorem write_array (items : List Value) : write (.array items) = '[' :: writeItems items := rfl

theorem write_object (entries : List (String × Value)) :
    write (.object entries) = '{' :: writeEntries entries := rfl

/-- The compact text of a value. -/
def render (value : Value) : String := String.ofList value.write

end Value

end Lifeline.Json
