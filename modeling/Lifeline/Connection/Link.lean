/-!
# Link states

What a connection shows of itself to those who watch it.
-/

namespace Lifeline

inductive Link
  /-- No transport, or the last one went away. -/
  | disconnected
  /-- A transport was dialed and has not reported that it is ready. -/
  | connecting
  /-- The transport takes frames. -/
  | opened
  /-- A ping went unanswered; a fresh attempt follows at once. -/
  | suspectedDead
  /-- The connection was closed; nothing will dial again. -/
  | closed
  deriving DecidableEq, Repr

namespace Link

def initial : Link := .disconnected

def isOpen (link : Link) : Bool := link == .opened

def word : Link → String
  | .disconnected => "disconnected"
  | .connecting => "connecting"
  | .opened => "open"
  | .suspectedDead => "suspected_dead"
  | .closed => "closed"

def all : List Link := [.disconnected, .connecting, .opened, .suspectedDead, .closed]

def ofWord? (word : String) : Option Link := all.find? (·.word == word)

end Link

end Lifeline
