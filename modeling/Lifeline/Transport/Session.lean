import Lifeline.Transition
import Lifeline.Transport.Event

/-!
# Socket sessions

A session is the life of one web socket behind a transport.  It waits for the
handshake, then passes texts up and frames down until the socket ends, a write
fails, or the handle is closed or dropped; then it reports its end once.  While
the handshake lasts, frames are dropped and only a close is heeded.
-/

namespace Lifeline

namespace Session

inductive Phase
  | handshaking
  | opened
  | ended
  deriving DecidableEq

/-- What the socket brings in. -/
inductive Inbound
  | text (text : String)
  | binary
  | ping
  | pong
  | close (reason : Option String)
  | failure (reason : String)
  | finish
  deriving DecidableEq

inductive Input
  /-- The handshake ended, well or with a reason. -/
  | handshake (failure : Option String)
  | inbound (item : Inbound)
  /-- A frame to write, which fails with a reason or succeeds. -/
  | frame (text : String) (failure : Option String)
  | close
  | dropHandle
  deriving DecidableEq

/-- An input, and whether anyone still listens for events. -/
structure Stimulus where
  listening : Bool
  input : Input
  deriving DecidableEq

inductive Effect
  | event (event : TransportEvent)
  | written (text : String)
  deriving DecidableEq

/-- Ends the session with a last event. -/
def finish (listening : Bool) (reason : Option String) : Phase × List Effect :=
  (.ended, if listening then [.event (.closed reason)] else [])

def onHandshake (listening : Bool) : Input → Phase × List Effect
  | .handshake none => if listening then (.opened, [.event .opened]) else (.ended, [])
  | .handshake (some reason) => finish listening (some reason)
  | .close => finish listening none
  | .dropHandle => finish listening none
  | _ => (.handshaking, [])

def onOpened (listening : Bool) : Input → Phase × List Effect
  | .inbound (.text text) =>
      if listening then (.opened, [.event (.message text)]) else finish listening none
  | .inbound (.close reason) => finish listening reason
  | .inbound (.failure reason) => finish listening (some reason)
  | .inbound .finish => finish listening none
  | .frame text none => (.opened, [.written text])
  | .frame _ (some reason) => finish listening (some reason)
  | .close => finish listening none
  | .dropHandle => finish listening none
  | _ => (.opened, [])

def step (stimulus : Stimulus) : Transition Phase Effect
  | .handshaking => onHandshake stimulus.listening stimulus.input
  | .opened => onOpened stimulus.listening stimulus.input
  | .ended => (.ended, [])

/-- A run of a session from a phase. -/
def run (stimuli : List Stimulus) : Transition Phase Effect := Transition.run step stimuli

def events (effects : List Effect) : List TransportEvent :=
  effects.filterMap fun
    | .event event => some event
    | .written _ => none

end Session

end Lifeline
