import Lifeline.Handler.Basic

/-!
# The client program

The client knows three actions: the gateway's greeting and farewell, which must
carry a handle, and notes, of which anything is accepted.  A record of its log
has a level and a message.
-/

namespace Lifeline.Client

inductive Handler
  | greeting
  | farewell
  | note
  deriving DecidableEq

def Handler.action : Handler → String
  | .greeting => "Init"
  | .farewell => "Close"
  | .note => "Note"

def registry : Registry Handler :=
  [Handler.greeting, .farewell, .note].foldl
    (fun registry handler => (registry.register handler.action handler).2) .empty

def respond (handler : Handler) (envelope : Envelope) : Except HandlerError Unit :=
  match handler with
  | .note => .ok ()
  | _ => Behavior.decodePeer.respond envelope

inductive LogLevel
  | info
  | warning
  | error
  deriving DecidableEq

structure LogRecord where
  level : LogLevel
  message : String
  deriving DecidableEq

end Lifeline.Client
