import Lifeline.Connection.Handle

/-!
# Mailboxes

All handles of a connection put their requests into one queue, and the
connection takes them out one at a time, between its ticks, reports and timers.
A request to send or to reconnect is answered as soon as it is queued, a call to
close only when it is acknowledged.  The connection stops at the first request
to close that it takes, or when it finds the queue empty and no handle left;
what is queued then is dropped, and a call that can no longer be acknowledged
returns as if it had been.
-/

namespace Lifeline.Connection

/-- What is asked of a connection through a handle. -/
inductive Request
  | send (payload : Payload)
  | reconnect
  | close
  deriving DecidableEq

def Request.input : Request → Input
  | .send payload => .send payload
  | .reconnect => .reconnect
  | .close => .close

/-- The answer that a request gets at once. -/
def State.answer (state : State) : Request → Option (Except ClientError Unit)
  | .close => state.closeAnswer
  | _ => some state.requestAnswer

/-- A request with the number of the call that makes it. -/
structure Letter where
  call : Nat
  request : Request
  deriving DecidableEq

structure Mailbox where
  state : State
  /-- What was asked and not yet taken, the oldest first. -/
  queue : List Letter
  /-- How many handles are in use. -/
  handles : Nat

namespace Mailbox

/-- What reaches a connection from elsewhere than its handles. -/
inductive Occurrence
  | tick
  | report (report : Report)
  | fire (timer : PendingTimer)
  deriving DecidableEq

def Occurrence.input : Occurrence → Input
  | .tick => .tick
  | .report received => .report received
  | .fire timer => .fire timer

inductive Event
  | ask (letter : Letter)
  | clone
  | drop
  /-- The connection turns to its queue. -/
  | take (now : Nat) (accepting : Bool)
  | occur (now : Nat) (accepting : Bool) (occurrence : Occurrence)
  deriving DecidableEq

inductive Notice (H : Type)
  | effect (effect : Effect H)
  /-- The call returns. -/
  | returned (letter : Letter) (answer : Except ClientError Unit)

variable {H : Type}

/-- What the connection takes notice of at an event. -/
def stimulus? (mailbox : Mailbox) : Event → Option Stimulus
  | .take now accepting => match mailbox.queue with
      | letter :: _ => some ⟨now, accepting, letter.request.input⟩
      | [] => if mailbox.handles = 0 then some ⟨now, accepting, .abandon⟩ else none
  | .occur now accepting occurrence => some ⟨now, accepting, occurrence.input⟩
  | _ => none

/-- The queue that an event leaves behind in a connection that goes on. -/
def rest (mailbox : Mailbox) : Event → List Letter
  | .take _ _ => mailbox.queue.tail
  | _ => mailbox.queue

/-- The calls to close among some letters. -/
def closes (letters : List Letter) : List Letter := letters.filter (·.request = .close)

/-- The calls to close return when the connection stops: the one that is acknowledged, and those
that were still queued behind it. -/
def dismissed (letters : List Letter) : List (Notice H) :=
  (closes letters).map (.returned · (.ok ()))

/-- The connection takes a step; if it has stopped then, the queue is gone. -/
def advance (setup : Setup H) (stimulus : Stimulus) (left : List Letter) :
    Transition Mailbox (Notice H) :=
  fun mailbox =>
    let outcome := step setup stimulus mailbox.state
    let notices := outcome.2.map Notice.effect
    if outcome.1.stopped then
      ({ mailbox with state := outcome.1, queue := [] }, notices ++ dismissed mailbox.queue)
    else ({ mailbox with state := outcome.1, queue := left }, notices)

/-- A handle is used: a connection that has stopped takes no more letters. -/
def ask (letter : Letter) : Transition Mailbox (Notice H) :=
  fun mailbox =>
    ({ mailbox with
        queue := if mailbox.state.stopped then mailbox.queue else mailbox.queue ++ [letter] },
      (mailbox.state.answer letter.request).toList.map (.returned letter))

def react (setup : Setup H) (event : Event) : Transition Mailbox (Notice H) :=
  fun mailbox => match event with
    | .ask letter => ask letter mailbox
    | .clone => ({ mailbox with handles := mailbox.handles + 1 }, [])
    | .drop => ({ mailbox with handles := mailbox.handles - 1 }, [])
    | event => match mailbox.stimulus? event with
        | some stimulus => advance setup stimulus (mailbox.rest event) mailbox
        | none => (mailbox, [])

/-- The mailbox of a connection that has made its first attempt, with one handle. -/
def opening (setup : Setup H) (began : Nat) : Mailbox × List (Notice H) :=
  let started := start setup began
  (⟨started.1, [], 1⟩, started.2.map .effect)

def run (setup : Setup H) (events : List Event) : Transition Mailbox (Notice H) :=
  Transition.run (react setup) events

end Mailbox

end Lifeline.Connection
