import Lifeline.Json.Decode

/-!
# Severities

How prominently a status message is shown.  In Json a severity is its word.
-/

namespace Lifeline

inductive Severity
  | info
  | success
  | warning
  | danger
  deriving DecidableEq

namespace Severity

def all : List Severity := [.info, .success, .warning, .danger]

def word : Severity → String
  | .info => "info"
  | .success => "success"
  | .warning => "warning"
  | .danger => "danger"

/-- The severity of an alert that was never set. -/
def standard : Severity := .info

def choices : List (String × Severity) := all.map fun severity => (severity.word, severity)

def ofWord? (word : String) : Option Severity := choices.lookup word

def read : Json.Reader Severity := Json.readChoice choices

def take : Json.Taker Severity := Json.chooseFrom choices

def ofJson (text : String) : Except Json.Fault Severity := Json.readAll read text.toList

end Severity

end Lifeline
