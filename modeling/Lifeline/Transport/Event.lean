/-!
# Transports

A transport carries text frames for one attempt to connect.  It is told to write
a frame or to close, and it reports that it is ready, each text that comes in,
and that it is gone.  Attempts are numbered, and every report carries the number
of its attempt, its generation.
-/

namespace Lifeline

inductive TransportEvent
  | opened
  | message (text : String)
  | closed (reason : Option String)
  deriving DecidableEq, Repr

/-- An event with the generation of the transport that reports it. -/
structure Report where
  generation : Nat
  event : TransportEvent
  deriving DecidableEq

inductive TransportCommand
  | frame (text : String)
  | close
  deriving DecidableEq

inductive TransportError
  | closed
  deriving DecidableEq

def TransportError.message : TransportError → String
  | .closed => "Transport is closed"

end Lifeline
