import Lifeline.Connection.State
import Lifeline.Transition

/-!
# Steps of a connection

Everything that happens to a connection is one step: a function from the state
to the next state and the effects on the way.  A report or a timer of an older
generation changes nothing.  A pong timer acts only for the oldest unanswered
ping of the current generation, so ping windows may overlap without an answered
ping being blamed.
-/

namespace Lifeline.Connection

open Transition (silently emit)

variable {H : Type}

/-- A transition of a connection. -/
abbrev Step (H : Type) := Transition State (Effect H)

/-- Moves the link; only a change is published. -/
def setLink (link : Link) : Step H :=
  fun state =>
    if state.link = link then (state, [])
    else ({ state with link := link }, [.publish link])

def State.schedule (state : State) (deadline : Nat) (timer : Timer) : State :=
  { state with pending := state.pending ++ [⟨timer, deadline⟩] }

/-- Tells the transport that is held to close, and lets it go. -/
def hangUp : Step H :=
  fun state => match state.transport with
    | some generation => ({ state with transport := none }, [.hangUp generation])
    | none => (state, [])

/-- Dials a transport of the next generation. -/
def dialNext : Step H :=
  fun state =>
    let generation := state.generation + 1
    ({ state with generation := generation, transport := some generation, outstanding := none },
      [.dial generation])

/-- Discards the transport and starts a fresh attempt. -/
def connect (setup : Setup H) (now : Nat) : Step H :=
  ((hangUp.andThen dialNext).andThen (setLink .connecting)).andThen
    (silently fun state =>
      state.schedule (now + setup.liveness.reconnectDelay.toNat) (.verify state.generation))

/-- What a text does apart from the connection itself: it is handed to the
handler of its action, and what goes wrong is reported as a danger. -/
def deliver (setup : Setup H) (now : Nat) (text : String) : List (Effect H) :=
  match Envelope.ofJson text with
  | .error error => [.status (.logError "Socket message rejected" error.message .danger)]
  | .ok envelope =>
      let run := match setup.registry.get? envelope.action with
        | some handler => [.handle handler envelope]
        | none => []
      match setup.registry.dispatch (setup.respond.answer now) envelope with
      | .ok () => run
      | .error error =>
          run ++ [.status
            (.logError ("Socket action " ++ envelope.action ++ " failed") error.message .danger)]

/-- A pong answers every ping so far; any other text is delivered. -/
def onMessage (setup : Setup H) (now : Nat) (text : String) : Step H :=
  fun state =>
    if text = pongText then
      ({ state with outstanding := none }, [.status (.clearIfEqual StatusCall.lostMessage)])
    else (state, deliver setup now text)

/-- Lets the transport go because it reported its own end. -/
def release : Step H :=
  fun state => match state.transport with
    | some generation => ({ state with transport := none }, [.release generation])
    | none => (state, [])

def onReport (setup : Setup H) (now : Nat) (report : Report) : Step H :=
  fun state =>
    if report.generation = state.generation then
      match report.event with
      | .opened => setLink .opened state
      | .message text => onMessage setup now text state
      | .closed _ => release.andThen (setLink .disconnected) state
    else (state, [])

/-- Gives up on the attempt, if `ping` is still its oldest unanswered ping. -/
def pongTimeout (setup : Setup H) (now generation ping : Nat) : Step H :=
  fun state =>
    if state.outstanding = some ping ∧ generation = state.generation then
      ((setLink .suspectedDead).andThen
        (emit [.status (.set StatusCall.lostMessage .danger false)])).andThen
        (connect setup now) state
    else (state, [])

/-- Confirms an open connection; one that is not open yet is announced, and
retried one delay later. -/
def verify (setup : Setup H) (now : Nat) : Step H :=
  fun state =>
    if state.isOpen then
      (state, [.status (.clearIfEqual StatusCall.connectingMessage),
        .status (.clearIfEqual StatusCall.lostMessage)])
    else
      (state.schedule (now + setup.liveness.reconnectDelay.toNat) (.retry state.generation),
        [.status (.set StatusCall.connectingMessage .warning false)])

/-- A pending timer fires once; what it finds decides what it does. -/
def onTimer (setup : Setup H) (now : Nat) (fired : PendingTimer) : Step H :=
  fun state =>
    if fired ∈ state.pending then
      let state := { state with pending := state.pending.erase fired }
      match fired.timer with
      | .verify generation =>
          if generation = state.generation then verify setup now state else (state, [])
      | .retry generation =>
          if generation = state.generation then connect setup now state else (state, [])
      | .pong generation ping => pongTimeout setup now generation ping state
    else (state, [])

/-- Writes a frame to the transport that is held, if the link is open and the
transport takes it; says whether it did. -/
def write (accepting : Bool) (text : String) (state : State) : Bool × List (Effect H) :=
  match state.transport with
  | some generation =>
      if state.link.isOpen && accepting then (true, [.frame generation text]) else (false, [])
  | none => (false, [])

/-- Numbers and sends the next ping.  A ping that cannot be sent counts as one
that went unanswered. -/
def ping (setup : Setup H) (now : Nat) (accepting : Bool) : Step H :=
  fun state =>
    let number := state.pingsSent + 1
    let awaited := state.outstanding.getD number
    let counted := { state with pingsSent := number, outstanding := some awaited }
    match write accepting pingText counted with
    | (true, written) =>
        (counted.schedule (now + setup.liveness.pongTimeout.toNat)
          (.pong counted.generation number), written)
    | (false, _) => pongTimeout setup now counted.generation awaited counted

/-- Sends a payload if the connection is open; otherwise it is dropped. -/
def send (accepting : Bool) (payload : Payload) : Step H :=
  fun state => (state, (write accepting payload.frame state).2)

/-- Takes back all timers, closes the transport and stops for good. -/
def shutdown : Step H :=
  (((silently fun state => { state with pending := [] }).andThen hangUp).andThen
    (silently fun state => { state with outstanding := none })).andThen
    ((setLink .closed).andThen (silently fun state => { state with stopped := true }))

/-- One input at its moment.  A stopped connection takes no notice. -/
def step (setup : Setup H) (stimulus : Stimulus) : Step H :=
  fun state =>
    if state.stopped then (state, [])
    else match stimulus.input with
      | .tick => ping setup stimulus.now stimulus.accepting state
      | .report report => onReport setup stimulus.now report state
      | .fire timer => onTimer setup stimulus.now timer state
      | .send payload => send stimulus.accepting payload state
      | .reconnect => connect setup stimulus.now state
      | .close => shutdown state
      | .abandon => shutdown state

/-- A connection cannot live without a ping interval: it stops on the spot, and
its transport is let go. -/
def collapse : Step H :=
  release.andThen (silently fun state => { state with pending := [], stopped := true })

/-- The first attempt, made before anything else happens. -/
def start (setup : Setup H) (now : Nat) : State × List (Effect H) :=
  if setup.liveness.pingInterval = 0 then ((connect setup now).andThen collapse) .initial
  else connect setup now .initial

/-- A run from a state: the last state and all effects. -/
def run (setup : Setup H) (stimuli : List Stimulus) : Step H := Transition.run (step setup) stimuli

end Lifeline.Connection
