import Lifeline.Connection.Handle

/-!
# Rehearsals

A rehearsal plays a connection against scripted peers on a clock of its own.
Each transport that is dialed gets a peer, which can accept, speak, hang up or
vanish, and which keeps what was written to it.  Time moves only when told to;
timers then fire in the order in which they are due, each at its own time, or,
when the clock jumps, all at the new time.
-/

namespace Lifeline.Connection

variable {H : Type}

/-- The far end of one transport. -/
structure Peer where
  generation : Nat
  /-- Frames written to it that nobody has looked at yet. -/
  frames : List String
  /-- It hung up, or was told that the connection did. -/
  closed : Bool
  /-- Its end was noticed before. -/
  noticed : Bool
  deriving DecidableEq

/-- An effect that is worth logging, with the time and the link it was seen at. -/
structure Logged (H : Type) where
  effect : Effect H
  time : Nat
  link : Link

structure Rehearsal (H : Type) where
  setup : Setup H
  state : State
  clock : Nat
  nextTick : Nat
  peers : List Peer
  /-- The newest generation that was ever dialed. -/
  newest : Nat
  held : Bool
  alert : Alert
  log : List (Logged H)
  /-- How many calls to close are waiting. -/
  closing : Nat

namespace Rehearsal

/-- What peers see of an effect. -/
def noticeEffect (peers : List Peer) : Effect H → List Peer
  | .dial generation => peers ++ [⟨generation, [], false, false⟩]
  | .frame generation text => peers.map fun peer =>
      if peer.generation = generation then { peer with frames := peer.frames ++ [text] } else peer
  | .hangUp generation => peers.map fun peer =>
      if peer.generation = generation then { peer with closed := true } else peer
  | .release generation => peers.map fun peer =>
      if peer.generation = generation then { peer with closed := true } else peer
  | _ => peers

/-- The log of some effects: calls with the link that was published when they were made. -/
def logEffects (time : Nat) (link : Link) : List (Effect H) → List (Logged H)
  | [] => []
  | .publish next :: rest => logEffects time next rest
  | .dial generation :: rest => ⟨.dial generation, time, link⟩ :: logEffects time link rest
  | .status call :: rest => ⟨.status call, time, link⟩ :: logEffects time link rest
  | .handle handler envelope :: rest =>
      ⟨.handle handler envelope, time, link⟩ :: logEffects time link rest
  | _ :: rest => logEffects time link rest

/-- Takes in what a step of the connection led to. -/
def absorb (scene : Rehearsal H) (outcome : State × List (Effect H)) : Rehearsal H :=
  { scene with
    state := outcome.1
    peers := outcome.2.foldl noticeEffect scene.peers
    newest := max scene.newest outcome.1.generation
    alert := scene.alert.applyAll (statusCalls outcome.2)
    log := scene.log ++ logEffects scene.clock scene.state.link outcome.2 }

/-- The far end of the transport that is held is still there. -/
def accepting (scene : Rehearsal H) : Bool :=
  scene.peers.any fun peer => some peer.generation == scene.state.transport

def play (scene : Rehearsal H) (input : Input) : Rehearsal H :=
  scene.absorb (step scene.setup ⟨scene.clock, scene.accepting, input⟩ scene.state)

/-- How many milliseconds the clock can count ahead for a timer: thirty years. -/
def longestWait : Nat := 30 * 365 * 24 * 60 * 60 * 1000

/-- How long before its deadline a timer was set. -/
def waitOf (liveness : Liveness) : Timer → Nat
  | .verify _ => liveness.reconnectDelay.toNat
  | .retry _ => liveness.reconnectDelay.toNat
  | .pong _ _ => liveness.pongTimeout.toNat

/-- When a timer fires: at its deadline, unless that is too far ahead. -/
def dueTime (liveness : Liveness) (pending : PendingTimer) : Nat :=
  pending.deadline - (waitOf liveness pending.timer - longestWait)

/-- The pending timer that is due first, and when that is. -/
def earliest (scene : Rehearsal H) : Option (Nat × PendingTimer) :=
  (scene.state.pending.map fun timer => (dueTime scene.setup.liveness timer, timer)).foldl
    (fun best entry => match best with
      | none => some entry
      | some other => if entry.1 < other.1 then some entry else some other)
    none

/-- The ping interval is kept from tick to tick; a tick that comes more than
five milliseconds late starts it anew. -/
def afterTick (scene : Rehearsal H) : Rehearsal H :=
  let period := scene.setup.liveness.pingInterval.toNat
  { scene with
    nextTick :=
      (if scene.clock > scene.nextTick + 5 then scene.clock else scene.nextTick) + period }

/-- Fires whatever is due at `limit` or before, the earliest first. -/
def playUntil (limit : Nat) : Nat → Rehearsal H → Rehearsal H
  | 0, scene => scene
  | fuel + 1, scene =>
      if scene.state.stopped then scene
      else
        let tickDue := scene.nextTick ≤ limit
        match scene.earliest with
        | some (due, timer) =>
            if due ≤ limit ∧ due ≤ scene.nextTick then
              playUntil limit fuel (play { scene with clock := max scene.clock due } (.fire timer))
            else if tickDue then
              playUntil limit fuel
                (play { scene with clock := max scene.clock scene.nextTick } .tick).afterTick
            else scene
        | none =>
            if tickDue then
              playUntil limit fuel
                (play { scene with clock := max scene.clock scene.nextTick } .tick).afterTick
            else scene

/-- More rounds than there can be timers in the given time. -/
def rounds (scene : Rehearsal H) (span : Nat) : Nat :=
  16 * (span + scene.state.pending.length + 2)

def settle (scene : Rehearsal H) : Rehearsal H :=
  playUntil scene.clock (scene.rounds 0) scene

/-- Moves the clock, firing each timer at its own time. -/
def advance (scene : Rehearsal H) (span : Nat) : Rehearsal H :=
  let target := scene.clock + span
  { playUntil target (scene.rounds span) scene with clock := target }

/-- Moves the clock at once; what is due fires late. -/
def jump (scene : Rehearsal H) (span : Nat) : Rehearsal H :=
  ({ scene with clock := scene.clock + span }).settle

/-- What a script can do between two movements of the clock; a peer that is not
named is the newest. -/
inductive Act
  | accept (peer : Option Nat)
  | deliver (peer : Option Nat) (text : String)
  | disconnect (peer : Option Nat)
  | dropPeer (peer : Option Nat)
  | send (payload : Payload)
  | reconnect
  | close
  | waitFor (link : Link)
  | dropHandles
  | unknown

inductive Reply
  | done
  | noSuchPeer
  | ok
  | closing
  | pending
  | refused (error : ClientError)
  | noHandle
  | unknownStep
  deriving DecidableEq

/-- What an act sets off: its reply, and an input that the connection will take
once it runs. -/
abbrev Outcome (H : Type) := Reply × Option Input × Rehearsal H

/-- Acts on a peer that is still there. -/
def onPeer (scene : Rehearsal H) (newest : Nat) (peer : Option Nat)
    (act : Nat → Option Input × List Peer) : Outcome H :=
  let generation := peer.getD newest
  if scene.peers.any (·.generation == generation) then
    let (input, peers) := act generation
    (.done, input, { scene with peers := peers })
  else (.noSuchPeer, none, scene)

/-- Acts through a handle; a connection that has stopped refuses. -/
def onHandle (scene : Rehearsal H) (input : Input) : Outcome H :=
  if !scene.held then (.noHandle, none, scene)
  else match scene.state.requestAnswer with
    | .ok () => (.ok, some input, scene)
    | .error error => (.refused error, none, scene)

def perform (scene : Rehearsal H) (newest : Nat) : Act → Outcome H
  | .accept peer => scene.onPeer newest peer fun generation =>
      (some (.report ⟨generation, .opened⟩), scene.peers)
  | .deliver peer text => scene.onPeer newest peer fun generation =>
      (some (.report ⟨generation, .message text⟩), scene.peers)
  | .disconnect peer => scene.onPeer newest peer fun generation =>
      (some (.report ⟨generation, .closed (some "peer disconnected")⟩),
        scene.peers.map fun peer =>
          if peer.generation = generation then { peer with closed := true } else peer)
  | .dropPeer peer => scene.onPeer newest peer fun generation =>
      (none, scene.peers.filter (·.generation != generation))
  | .send payload => scene.onHandle (.send payload)
  | .reconnect => scene.onHandle .reconnect
  | .close =>
      if !scene.held then (.noHandle, none, scene)
      else match scene.state.closeAnswer with
        | some (.ok ()) => (.ok, none, scene)
        | some (.error error) => (.refused error, none, scene)
        | none => (.closing, some .close, { scene with closing := scene.closing + 1 })
  | .waitFor link =>
      if !scene.held then (.noHandle, none, scene)
      else match scene.state.waitAnswer link with
        | some (.ok ()) => (.ok, none, scene)
        | some (.error error) => (.refused error, none, scene)
        | none => (.pending, none, scene)
  | .dropHandles =>
      if !scene.held then (.noHandle, none, scene)
      else (.done, some .abandon, { scene with held := false })
  | .unknown => (.unknownStep, none, scene)

/-- Performs acts one after the other before the connection runs. -/
def performAll (scene : Rehearsal H) (newest : Nat) :
    List Act → List Reply × List Input × Rehearsal H
  | [] => ([], [], scene)
  | act :: acts =>
      let (reply, input, scene) := scene.perform newest act
      let (replies, inputs, scene) := performAll scene newest acts
      (reply :: replies, input.toList ++ inputs, scene)

inductive Cue
  | act (act : Act)
  | batch (acts : List Act)
  | advance (span : Nat)
  | jump (span : Nat)

/-- What an observer finds after a cue. -/
structure Scene (H : Type) where
  replies : List Reply
  frames : List (Nat × List String)
  closed : List Nat
  log : List (Logged H)
  link : Link
  alert : Alert
  stopped : Bool
  /-- How many waiting calls to close have returned. -/
  closes : Nat

/-- Looks at everything that is new, and forgets it. -/
def observe (scene : Rehearsal H) (replies : List Reply) : Scene H × Rehearsal H :=
  let finished := if scene.state.closeAnswer.isSome then scene.closing else 0
  ({ replies := replies
     frames := (scene.peers.filter fun peer => !peer.frames.isEmpty).map fun peer =>
       (peer.generation, peer.frames)
     closed := (scene.peers.filter fun peer => peer.closed && !peer.noticed).map (·.generation)
     log := scene.log
     link := scene.state.link
     alert := scene.alert
     stopped := scene.state.stopped
     closes := finished },
   { scene with
     peers := scene.peers.map fun peer => { peer with frames := [], noticed := peer.closed }
     log := []
     closing := scene.closing - finished })

/-- Performs acts and lets the connection run until nothing more is due. -/
def actAll (scene : Rehearsal H) (acts : List Act) : List Reply × Rehearsal H :=
  let (replies, inputs, scene) := scene.performAll scene.newest acts
  (replies, (inputs.foldl play scene).settle)

def follow (scene : Rehearsal H) : Cue → Scene H × Rehearsal H
  | .act act =>
      let (replies, scene) := scene.actAll [act]
      scene.observe replies
  | .batch acts =>
      let (replies, scene) := scene.actAll acts
      scene.observe replies
  | .advance span => (scene.advance span).observe []
  | .jump span => (scene.jump span).observe []

/-- The scene after the connection has started and made its first attempt. -/
def opening (setup : Setup H) : Rehearsal H :=
  settle (absorb
    { setup := setup
      state := .initial
      clock := 0
      nextTick := setup.liveness.pingInterval.toNat
      peers := []
      newest := 0
      held := true
      alert := .blank
      log := []
      closing := 0 }
    (start setup 0))

def followAll (scene : Rehearsal H) : List Cue → List (Scene H)
  | [] => []
  | cue :: cues =>
      let (seen, next) := scene.follow cue
      seen :: followAll next cues

/-- A whole rehearsal: the opening scene and one scene per cue. -/
def scenes (setup : Setup H) (cues : List Cue) : List (Scene H) :=
  let (first, scene) := (opening setup).observe []
  first :: scene.followAll cues

end Rehearsal

end Lifeline.Connection
