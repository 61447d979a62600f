import Lifeline.Envelope.Payload
import Lifeline.Text.Blank

/-!
# Forwarding lines

The client sends what is typed.  A line is trimmed; an empty one is skipped, a
Json text is sent as it is, and anything else as the text of a note.
-/

namespace Lifeline.Forward

def noteAction : String := "Note"

def textKey : String := "text"

/-- What a trimmed line is sent as. -/
def payloadOf (line : String) : Payload :=
  match Json.parse line with
  | .ok value => .json value
  | .error _ => .ofEnvelope ((Envelope.new noteAction).withField textKey (.text line))

/-- What a line is sent as, if it is sent at all. -/
def payload? (line : String) : Option Payload :=
  let trimmed := Text.trimmed line
  if trimmed.isEmpty then none else some (payloadOf trimmed)

/-- The payloads of some lines, in order. -/
def payloads (lines : List String) : List Payload := lines.filterMap payload?

end Lifeline.Forward
