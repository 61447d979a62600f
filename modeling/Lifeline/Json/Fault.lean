import Lifeline.Json.Printer
import Lifeline.Text.Bytes
import Lifeline.Text.Quoted

/-!
# Faults of a Json text

A text is refused with one cause and one place.  The place is kept as the number
of bytes that lie beyond it, which a reader knows from the rest it still has to
read; it becomes a line and a column only when the whole text is at hand.
`Mismatch` holds the complaints about a well-formed value of the wrong shape;
these also arise without any text, when a value is decoded.
-/

namespace Lifeline.Json

/-- What stood where something else was expected. -/
inductive Found
  | null
  | boolean (value : Bool)
  | number (value : Number)
  | text (value : String)
  | sequence
  | map
  deriving DecidableEq

namespace Found

def describe : Found → String
  | .null => "null"
  | .boolean value => "boolean `" ++ (if value then "true" else "false") ++ "`"
  | .number (.whole value fits) =>
      "integer `" ++ String.ofList (Number.whole value fits).write ++ "`"
  | .number (.float value) =>
      "floating point `" ++ String.ofList (Number.float value).write ++ "`"
  | .text value => "string " ++ Text.quoted value
  | .sequence => "sequence"
  | .map => "map"

end Found

def Value.found : Value → Found
  | .null => .null
  | .boolean value => .boolean value
  | .number value => .number value
  | .text value => .text value
  | .array _ => .sequence
  | .object _ => .map

/-- A value of another shape than the one asked for. -/
inductive Mismatch
  | wrongType (found : Found) (expected : String)
  | wrongValue (found : Found) (expected : String)
  | missingField (name : String)
  | duplicateField (name : String)
  | unknownField (name : String) (expected : List String)
  | unknownVariant (name : String) (expected : List String)
  | wrongLength (length : Nat) (expected : String)
  deriving DecidableEq

namespace Mismatch

def ticked (name : String) : String := "`" ++ name ++ "`"

/-- The names that would have been accepted, as the end of a sentence. -/
def alternatives : List String → String
  | [] => "there are no fields"
  | [one] => "expected " ++ ticked one
  | [one, other] => "expected " ++ ticked one ++ " or " ++ ticked other
  | many => "expected one of " ++ ", ".intercalate (many.map ticked)

def message : Mismatch → String
  | .wrongType found expected => "invalid type: " ++ found.describe ++ ", expected " ++ expected
  | .wrongValue found expected => "invalid value: " ++ found.describe ++ ", expected " ++ expected
  | .missingField name => "missing field " ++ ticked name
  | .duplicateField name => "duplicate field " ++ ticked name
  | .unknownField name expected =>
      "unknown field " ++ ticked name ++ ", " ++ alternatives expected
  | .unknownVariant name expected =>
      "unknown variant " ++ ticked name ++ ", " ++ alternatives expected
  | .wrongLength length expected =>
      "invalid length " ++ toString length ++ ", expected " ++ expected

end Mismatch

inductive Cause
  | endInValue
  | endInText
  | endInList
  | endInObject
  | expectedColon
  | expectedListSeparator
  | expectedObjectSeparator
  | expectedWord
  | expectedValue
  | invalidEscape
  | invalidNumber
  | numberOutOfRange
  | controlCharacter
  | loneSurrogate
  | unfinishedSurrogate
  | keyNotText
  | trailingComma
  | trailingCharacters
  | tooDeep
  | mismatch (complaint : Mismatch)
  deriving DecidableEq

def Cause.message : Cause → String
  | .endInValue => "EOF while parsing a value"
  | .endInText => "EOF while parsing a string"
  | .endInList => "EOF while parsing a list"
  | .endInObject => "EOF while parsing an object"
  | .expectedColon => "expected `:`"
  | .expectedListSeparator => "expected `,` or `]`"
  | .expectedObjectSeparator => "expected `,` or `\x7d`"
  | .expectedWord => "expected ident"
  | .expectedValue => "expected value"
  | .invalidEscape => "invalid escape"
  | .invalidNumber => "invalid number"
  | .numberOutOfRange => "number out of range"
  | .controlCharacter => "control character (\\u0000-\\u001F) found while parsing a string"
  | .loneSurrogate => "lone leading surrogate in hex escape"
  | .unfinishedSurrogate => "unexpected end of hex escape"
  | .keyNotText => "key must be a string"
  | .trailingComma => "trailing comma"
  | .trailingCharacters => "trailing characters"
  | .tooDeep => "recursion limit exceeded"
  | .mismatch complaint => complaint.message

structure Fault where
  cause : Cause
  /-- How many bytes of the text lie beyond the place of the fault. -/
  beyond : Nat
  deriving DecidableEq

namespace Fault

/-- Placed just before what is left to read. -/
def before (cause : Cause) (rest : List Char) : Fault := ⟨cause, Text.byteLength rest⟩

/-- Placed on the first byte of what is left to read, or at the end of the text. -/
def on (cause : Cause) (rest : List Char) : Fault := ⟨cause, Text.byteLength rest - 1⟩

def location (fault : Fault) (text : List Char) : Text.Location :=
  Text.Location.start.advance text (Text.byteLength text - fault.beyond)

def message (fault : Fault) (text : List Char) : String :=
  let place := fault.location text
  fault.cause.message ++ " at line " ++ toString place.line ++ " column " ++ toString place.column

end Fault

end Lifeline.Json
