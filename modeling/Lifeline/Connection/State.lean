import Lifeline.Config.Basic
import Lifeline.Connection.Link
import Lifeline.Envelope.Payload
import Lifeline.Handler.Basic
import Lifeline.Status.Alert
import Lifeline.Transport.Event

/-!
# The state of a connection

A connection holds at most one transport, that of its current generation.
Timers that were set are pending until they fire or the connection stops; those
of an older generation are never taken back, so each timer says which attempt
it belongs to, and a pong timer also which ping it waits for.
-/

namespace Lifeline

/-- What does not change while a connection lives. -/
structure Setup (H : Type) where
  url : String
  liveness : Liveness
  registry : Registry H
  respond : Conduct H

namespace Connection

inductive Timer
  /-- Looks whether the attempt has succeeded. -/
  | verify (generation : Nat)
  /-- Starts a new attempt. -/
  | retry (generation : Nat)
  /-- Gives up on the pong for a ping. -/
  | pong (generation ping : Nat)
  deriving DecidableEq, Repr

structure PendingTimer where
  timer : Timer
  deadline : Nat
  deriving DecidableEq, Repr

structure State where
  generation : Nat
  pingsSent : Nat
  /-- The oldest ping that no pong has answered; any pong answers all. -/
  outstanding : Option Nat
  link : Link
  /-- The generation of the transport that is held. -/
  transport : Option Nat
  pending : List PendingTimer
  stopped : Bool
  deriving DecidableEq, Repr

def State.initial : State where
  generation := 0
  pingsSent := 0
  outstanding := none
  link := .initial
  transport := none
  pending := []
  stopped := false

def State.isOpen (state : State) : Bool := state.transport.isSome && state.link.isOpen

/-- What can happen to a connection. -/
inductive Input
  /-- The ping interval has passed. -/
  | tick
  | report (report : Report)
  | fire (timer : PendingTimer)
  | send (payload : Payload)
  | reconnect
  | close
  /-- Nobody holds the connection any more. -/
  | abandon
  deriving DecidableEq

/-- An input at a moment: the time, and whether the transport that is held still
takes commands. -/
structure Stimulus where
  now : Nat
  accepting : Bool
  input : Input
  deriving DecidableEq

/-- What a connection does to the world, in the order in which it does it. -/
inductive Effect (H : Type)
  | dial (generation : Nat)
  | frame (generation : Nat) (text : String)
  | hangUp (generation : Nat)
  /-- The transport is let go without a word. -/
  | release (generation : Nat)
  | publish (link : Link)
  | status (call : StatusCall)
  | handle (handler : H) (envelope : Envelope)

/-- The calls to the status board. -/
def statusCalls {H : Type} (effects : List (Effect H)) : List StatusCall :=
  effects.filterMap fun
    | .status call => some call
    | _ => none

end Connection

inductive ClientError
  | closed
  deriving DecidableEq

def ClientError.message : ClientError → String
  | .closed => "Connection is closed"

end Lifeline
