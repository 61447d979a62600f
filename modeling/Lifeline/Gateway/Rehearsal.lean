import Lifeline.Gateway.Http
import Lifeline.Gateway.Relay

/-!
# Rehearsals of the gateway

A rehearsal plays web socket clients against a gateway.  Clients are numbered in
the order of their attempts to connect, whether these succeed or not.  What one
cue brings is read before any writer runs, so that queues may fill up; only a
ping that finds no room for its pong waits until each writer has had a turn.
After every cue the writers empty their queues, so that each client holds all
that was sent to it.
-/

namespace Lifeline.Gateway

/-- What a client receives. -/
inductive Frame
  | text (text : String)
  | pong (payload : String)
  /-- The socket is gone, without a word. -/
  | ended
  deriving DecidableEq

/-- A client that has connected and has not hung up. -/
structure Client where
  number : Nat
  handle : Nat
  deriving DecidableEq

structure Rehearsal where
  router : Router
  gateway : Gateway
  clients : List Client
  attempts : Nat

namespace Rehearsal

def opening (router : Router) : Rehearsal := ⟨router, .empty, [], 0⟩

inductive Cue
  | connect (path : String)
  | texts (client : Nat) (texts : List String)
  | binary (client : Nat)
  | ping (client : Nat) (payload : String)
  | pong (client : Nat) (payload : String)
  | close (client : Nat)
  | cut (client : Nat)
  | hubBroadcast (text : String)
  | hubSendTo (handle : Nat) (text : String)
  | hubRemove (handle : Nat)
  | inspect

inductive Reply
  | connected (client : Nat)
  | answered (status : Nat)
  | done
  | noClient
  | flag (value : Bool)
  | count (value : Nat)
  | summary (text : String)

structure Scene where
  reply : Reply
  frames : List (Nat × Frame)
  handles : List Nat

def client? (scene : Rehearsal) (number : Nat) : Option Client :=
  scene.clients.find? (·.number == number)

/-- What the clients receive of some effects. -/
def received (clients : List Client) (effects : List Effect) : List (Nat × Frame) :=
  effects.filterMap fun
    | .written handle text =>
        (clients.find? (·.handle == handle)).map fun client => (client.number, .text text)
    | .queued _ _ => none

/-- The inputs that move up to `most` frames from each queue to its socket. -/
def writes (most : Nat → Nat) (gateway : Gateway) : List Input :=
  gateway.sockets.flatMap fun socket =>
    match gateway.board.channel? socket.channel with
    | some channel => List.replicate (most channel.queue.length) (.write socket.handle)
    | none => []

/-- How many frames a writer moves before it lets others run. -/
def turnLength : Nat := 64

/-- Each writer has one turn. -/
def turn : Step := fun gateway => run (writes (min turnLength) gateway) gateway

/-- The writers empty all queues. -/
def drain : Step := fun gateway => run (writes id gateway) gateway

/-- A ping whose pong has no room. -/
def mustWait (gateway : Gateway) : Input → Bool
  | .text handle text => text == pingText && match gateway.live? handle with
      | some socket => gateway.board.verdictOf ⟨socket.handle, socket.channel⟩ == .full
      | none => false
  | _ => false

/-- One step, before which the writers have a turn if it has to wait for them. -/
def playOne (input : Input) : Step :=
  fun gateway => (if mustWait gateway input then turn.andThen (step input) else step input) gateway

/-- Steps of the gateway, followed by the writers. -/
def play (inputs : List Input) : Step := (Transition.run playOne inputs).andThen drain

/-- The rehearsal after some steps, with what the clients received meanwhile. -/
def afterSteps (scene : Rehearsal) (inputs : List Input) : List (Nat × Frame) × Rehearsal :=
  let (gateway, effects) := play inputs scene.gateway
  (received scene.clients effects, { scene with gateway := gateway })

/-- A change made to the switchboard from outside. -/
def afterChange (scene : Rehearsal) (board : Switchboard) : List (Nat × Frame) × Rehearsal :=
  let (gateway, effects) := drain { scene.gateway with board := board }
  (received scene.clients effects, { scene with gateway := gateway })

def onClient (scene : Rehearsal) (number : Nat)
    (act : Client → Reply × List (Nat × Frame) × Rehearsal) :
    Reply × List (Nat × Frame) × Rehearsal :=
  match scene.client? number with
  | some client => act client
  | none => (.noClient, [], scene)

/-- A socket ends; its client receives nothing more. -/
def leave (scene : Rehearsal) (client : Client) : List (Nat × Frame) × Rehearsal :=
  ({ scene with clients := scene.clients.filter (·.number != client.number) }).afterSteps
    [.leave client.handle]

/-- How many bytes the payload of a control frame may have. -/
def longestControl : Nat := 125

/-- A control frame of a client.  One that is too long ends the socket; after
that the client is not heard any more. -/
def control (scene : Rehearsal) (client : Client) (payload : String)
    (reply : List (Nat × Frame)) : List (Nat × Frame) × Rehearsal :=
  if (scene.gateway.live? client.handle).isNone then ([], scene)
  else if Text.byteLength payload.toList > longestControl then
    let (frames, scene) := scene.afterSteps [.leave client.handle]
    (frames ++ [(client.number, .ended)], scene)
  else (reply, scene)

/-- The text of a web socket client's request for a target. -/
def upgradeRequest (target : String) : String :=
  "\r\n".intercalate ["GET " ++ target ++ " HTTP/1.1", "Host: host", "Connection: Upgrade",
    "Upgrade: websocket", "Sec-WebSocket-Version: 13",
    "Sec-WebSocket-Key: dGhlIHNhbXBsZSBub25jZQ==", "", ""]

/-- The answer to a client that dials a path; what is no url is no request either. -/
def dial (router : Router) (path : String) : Response :=
  match Uri.parse ("ws://host" ++ path) with
  | .ok uri => answer router (upgradeRequest uri.target)
  | .error _ => ⟨400, ""⟩

def connect (scene : Rehearsal) (path : String) : Reply × List (Nat × Frame) × Rehearsal :=
  let number := scene.attempts + 1
  let scene := { scene with attempts := number }
  let response := dial scene.router path
  if response.status = 101 then
    let handle := scene.gateway.board.hub.allocated + 1
    let joined := { scene with clients := scene.clients ++ [(⟨number, handle⟩ : Client)] }
    let (frames, scene) := joined.afterSteps [.connect, .greet handle true]
    (.connected number, frames, scene)
  else (.answered response.status, [], scene)

def perform (scene : Rehearsal) : Cue → Reply × List (Nat × Frame) × Rehearsal
  | .connect path => scene.connect path
  | .texts number texts => scene.onClient number fun client =>
      let (frames, scene) := scene.afterSteps (texts.map (.text client.handle))
      (.done, frames, scene)
  | .binary number => scene.onClient number fun _ => (.done, [], scene)
  | .ping number payload => scene.onClient number fun client =>
      let (frames, scene) := scene.control client payload [(client.number, .pong payload)]
      (.done, frames, scene)
  | .pong number payload => scene.onClient number fun client =>
      let (frames, scene) := scene.control client payload []
      (.done, frames, scene)
  | .close number => scene.onClient number fun client =>
      let (frames, scene) := scene.leave client
      (.done, frames, scene)
  | .cut number => match scene.client? number with
      | some client =>
          let (frames, scene) := scene.leave client
          (.flag true, frames, scene)
      | none => (.flag false, [], scene)
  | .hubBroadcast text =>
      let (accepted, board) := scene.gateway.board.broadcast text
      let (frames, scene) := scene.afterChange board
      (.count accepted.length, frames, scene)
  | .hubSendTo handle text =>
      let (verdict, board) := scene.gateway.board.sendTo handle text
      let (frames, scene) := scene.afterChange board
      (.flag (verdict == some .accepted), frames, scene)
  | .hubRemove handle =>
      let (removed, board) := scene.gateway.board.remove handle
      let (frames, scene) := scene.afterChange board
      (.flag removed.isSome, frames, scene)
  | .inspect => (.summary scene.gateway.summary, [], scene)

def follow (scene : Rehearsal) (cue : Cue) : Scene × Rehearsal :=
  let (reply, frames, next) := scene.perform cue
  (⟨reply, frames, next.gateway.board.hub.handles⟩, next)

def scenes (scene : Rehearsal) : List Cue → List Scene
  | [] => []
  | cue :: cues =>
      let (seen, next) := scene.follow cue
      seen :: scenes next cues

end Rehearsal

end Lifeline.Gateway
