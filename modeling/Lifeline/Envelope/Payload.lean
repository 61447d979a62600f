import Lifeline.Envelope.Basic

/-!
# Payloads

What a client hands over to be sent: a text, which goes out as it is, or a Json
value.  A value that is itself a text goes out without its quotes; an envelope
is turned into text at once.
-/

namespace Lifeline

open Json

/-- Reserved texts that keep a connection alive; they are never parsed. -/
def pingText : String := "__ping"

def pongText : String := "__pong"

inductive Payload
  | text (text : String)
  | json (value : Value)
  deriving DecidableEq

/-- A key of a structure that is to become an object. -/
inductive PayloadKey
  | text (text : String)
  | whole (n : Int)
  | composite

namespace Payload

/-- The frame that is written to the socket. -/
def frame : Payload → String
  | .text written => written
  | .json (.text written) => written
  | .json value => value.render

def ofEnvelope (envelope : Envelope) : Payload := .text envelope.toJson

/-- An envelope taken apart into a value. -/
def ofEnvelopeValue (envelope : Envelope) : Payload := .json envelope.toFlatValue

/-- A number that is not finite has no Json form and becomes null. -/
def ofBinary64 (number : Binary64) : Payload :=
  .json (if number.isFinite then .number (.float number) else .null)

def keyText : PayloadKey → Except EnvelopeError String
  | .text written => .ok written
  | .whole n => .ok (String.ofList (Decimal.ofInt n))
  | .composite => .error .keyNotText

/-- An object from keys and values; numbers serve as keys, composite keys do not. -/
def ofEntries (entries : List (PayloadKey × Value)) : Except EnvelopeError Payload := do
  let named ← entries.mapM fun entry => do .ok (← keyText entry.1, entry.2)
  .ok (.json (.object (Table.ofList named)))

end Payload

end Lifeline
