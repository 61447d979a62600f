import Lifeline.CommandLine.Client
import Lifeline.CommandLine.Forward
import Lifeline.Connection.Mailbox

/-!
# Forwarders

A forwarder reads lines one at a time and hands each to a connection before it
reads the next; in between, the connection goes on with its own life.  A line
that comes while the link is not open is handed over all the same, with a word
in the log, and it is for the connection to drop it.  A connection that has
stopped refuses the line, and then, as when the input fails, nothing more is
read.
-/

namespace Lifeline

open Connection (Mailbox)

namespace Forwarder

/-- Why lines are left unread. -/
inductive Stop
  | unreadable (reason : String)
  | refused (error : ClientError)
  deriving DecidableEq

inductive Event
  /-- The forwarder turns to its input. -/
  | read
  | fail (reason : String)
  /-- Something else happens to the connection. -/
  | aside (event : Mailbox.Event)
  deriving DecidableEq

inductive Effect (H : Type)
  | logged (record : Client.LogRecord)
  /-- A call to send returns. -/
  | sent (payload : Payload) (answer : Except ClientError Unit)
  | noticed (notice : Mailbox.Notice H)

/-- A call that is refused is the end of forwarding. -/
def endOf : Except ClientError Unit → Option (Except Stop Unit)
  | .ok () => none
  | .error error => some (.error (.refused error))

def unconnected : Client.LogRecord := ⟨.info, "Not connected, line dropped"⟩

end Forwarder

structure Forwarder where
  mailbox : Mailbox
  /-- What has not been read. -/
  lines : List String
  /-- How many calls to send were made. -/
  calls : Nat
  /-- How forwarding ended, if it has. -/
  ended : Option (Except Forwarder.Stop Unit)

namespace Forwarder

variable {H : Type}

/-- Hands a payload to the connection. -/
def submit (payload : Payload) : Transition Forwarder (Effect H) :=
  fun forwarder =>
    let state := forwarder.mailbox.state
    let warned := if state.link.isOpen then [] else [.logged unconnected]
    let answer := state.requestAnswer
    ({ forwarder with
        mailbox := (Mailbox.ask (H := H) ⟨forwarder.calls, .send payload⟩ forwarder.mailbox).1
        calls := forwarder.calls + 1
        ended := endOf answer },
      warned ++ [.sent payload answer])

/-- Reads the next line; forwarding ends well at the end of the lines. -/
def readLine : Transition Forwarder (Effect H) :=
  fun forwarder => match forwarder.lines with
    | [] => ({ forwarder with ended := some (.ok ()) }, [])
    | line :: rest =>
        match Forward.payload? line with
        | none => ({ forwarder with lines := rest }, [])
        | some payload => submit payload { forwarder with lines := rest }

def step (setup : Setup H) (event : Event) : Transition Forwarder (Effect H) :=
  fun forwarder => match event with
    | .aside event =>
        let (mailbox, notices) := Mailbox.react setup event forwarder.mailbox
        ({ forwarder with mailbox := mailbox }, notices.map .noticed)
    | .read => if forwarder.ended.isSome then (forwarder, []) else readLine forwarder
    | .fail reason =>
        if forwarder.ended.isSome then (forwarder, [])
        else ({ forwarder with ended := some (.error (.unreadable reason)) }, [])

/-- A forwarder that is to hand some lines to a connection. -/
def start (mailbox : Mailbox) (lines : List String) : Forwarder := ⟨mailbox, lines, 0, none⟩

def run (setup : Setup H) (events : List Event) : Transition Forwarder (Effect H) :=
  Transition.run (step setup) events

end Forwarder

end Lifeline
