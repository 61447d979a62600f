import Lifeline.Status.Severity

/-!
# Alerts

A connection reports trouble as calls to a status board.  An alert is what a
board shows after some calls: the last message that was set and not cleared.
Clearing keeps the severity and the rich-text mark of the message before it.
-/

namespace Lifeline

/-- What a connection tells its status board. -/
inductive StatusCall
  | set (message : String) (severity : Severity) (richText : Bool)
  | clear
  | clearIfEqual (message : String)
  deriving DecidableEq

namespace StatusCall

/-- Shown while an attempt to connect has not been confirmed. -/
def connectingMessage : String := "Connecting to the websocket..."

/-- Shown once a ping went unanswered. -/
def lostMessage : String := "Lost connection to the websocket..."

/-- Reports a failure under a heading. -/
def logError (heading error : String) (severity : Severity) : StatusCall :=
  .set (heading ++ ": " ++ error) severity false

end StatusCall

structure Alert where
  message : String
  severity : Severity
  richText : Bool
  /-- Whether any call ever took effect. -/
  touched : Bool
  deriving DecidableEq

namespace Alert

def blank : Alert := ⟨"", .standard, false, false⟩

def isEmpty (alert : Alert) : Bool := alert.message.isEmpty

def apply (alert : Alert) : StatusCall → Alert
  | .set message severity richText => ⟨message, severity, richText, true⟩
  | .clear => { alert with message := "", touched := true }
  | .clearIfEqual message =>
      if alert.message = message then { alert with message := "", touched := true } else alert

def applyAll (alert : Alert) (calls : List StatusCall) : Alert := calls.foldl apply alert

end Alert

end Lifeline
