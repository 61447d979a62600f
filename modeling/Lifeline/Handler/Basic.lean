import Lifeline.Envelope.Basic
import Lifeline.Envelope.Message
import Lifeline.Text.Quoted

/-!
# Handlers

A registry assigns to each action the handler that was registered for it last.
Registries hold handlers of any type; what a handler answers to an envelope is
given where it is run, and may be another answer at another time.
-/

namespace Lifeline

inductive HandlerError
  | unknownAction (action : String)
  | invalidPayload (error : EnvelopeError)
  | failed (message : String)

def HandlerError.message : HandlerError → String
  | .unknownAction action => "No handler registered for action " ++ Text.quoted action
  | .invalidPayload error => "Invalid payload: " ++ error.message
  | .failed message => message

/-- What handlers answer to envelopes.  A handler may keep a state of its own, so its answer also
depends on the time at which it is called. -/
structure Conduct (H : Type) where
  answer : (now : Nat) → H → Envelope → Except HandlerError Unit

/-- Handlers without a state answer alike at all times. -/
instance {H : Type} : Coe (H → Envelope → Except HandlerError Unit) (Conduct H) :=
  ⟨fun respond => ⟨fun _ => respond⟩⟩

structure Registry (H : Type) where
  handlers : Table H

namespace Registry

variable {H : Type}

def empty : Registry H := ⟨[]⟩

/-- Registers a handler and returns the one it replaces. -/
def register (registry : Registry H) (action : String) (handler : H) : Option H × Registry H :=
  (registry.handlers.get? action, ⟨registry.handlers.insert action handler⟩)

def get? (registry : Registry H) (action : String) : Option H := registry.handlers.get? action

def contains (registry : Registry H) (action : String) : Bool := registry.handlers.contains action

/-- The registered actions in increasing order. -/
def actions (registry : Registry H) : List String := registry.handlers.keys

def size (registry : Registry H) : Nat := registry.handlers.length

def isEmpty (registry : Registry H) : Bool := registry.handlers.isEmpty

/-- Finds the handler for an envelope and runs it. -/
def dispatch (registry : Registry H) (respond : H → Envelope → Except HandlerError Unit)
    (envelope : Envelope) : Except HandlerError Unit :=
  match registry.get? envelope.action with
  | some handler => respond handler envelope
  | none => .error (.unknownAction envelope.action)

/-- The registry as it appears in logs. -/
def summary (registry : Registry H) : String :=
  "HandlerRegistry \x7b actions: [" ++ ", ".intercalate (registry.actions.map Text.quoted) ++
    "] \x7d"

/-- A registry together with a status board, as it appears in logs. -/
def observerSummary (registry : Registry H) : String :=
  "Observer \x7b handlers: " ++ registry.summary ++ ", status: \"StatusSink\" \x7d"

end Registry

/-- Ready-made answers for a handler. -/
inductive Behavior
  | accept
  | fail (message : String)
  | decodePeer
  | decodeNote
  | disown (action : String)
  | require (key : String)
  deriving DecidableEq

namespace Behavior

def respond : Behavior → Envelope → Except HandlerError Unit
  | .accept, _ => .ok ()
  | .fail message, _ => .error (.failed message)
  | .decodePeer, envelope => match envelope.decode Message.Peer.take with
      | .ok _ => .ok ()
      | .error error => .error (.invalidPayload error)
  | .decodeNote, envelope => match envelope.decode Message.Note.take with
      | .ok _ => .ok ()
      | .error error => .error (.invalidPayload error)
  | .disown action, _ => .error (.unknownAction action)
  | .require key, envelope => match envelope.get? key with
      | some _ => .ok ()
      | none => .error (.failed ("missing " ++ key))

end Behavior

end Lifeline
