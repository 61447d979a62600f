import Lifeline.Envelope.Payload
import Lifeline.Hub.Switchboard
import Lifeline.Transition

/-!
# Relaying

The gateway registers each socket and greets it with its handle, answers its
pings, and relays every envelope it sends to all sockets, marked with the
sender's handle.  When a socket goes, the others are told.  One event of one
socket is one step; the effects are the frames that were queued for a socket and
those that were written to it.
-/

namespace Lifeline

open Json

namespace Gateway

/-- How many frames may wait for one socket. -/
def bufferSize : Nat := 100

def initMessage (handle : Nat) : Envelope :=
  (Envelope.new "Init").withField "handle" (.ofNat handle)

def closeMessage (handle : Nat) : Envelope :=
  (Envelope.new "Close").withField "handle" (.ofNat handle)

/-- The envelope as the others see it: its handle is that of the sender. -/
def attributed (handle : Nat) (envelope : Envelope) : Envelope :=
  envelope.withField "handle" (.ofNat handle)

/-- A socket that was accepted.  Until its greeting is written it is neither
read nor written to. -/
structure Socket where
  handle : Nat
  channel : Nat
  greeted : Bool
  deriving DecidableEq

inductive Effect
  | queued (handle : Nat) (text : String)
  | written (handle : Nat) (text : String)
  deriving DecidableEq

inductive Input
  | connect
  /-- The greeting was written, or could not be. -/
  | greet (handle : Nat) (delivered : Bool)
  | text (handle : Nat) (text : String)
  /-- The socket ended, by a close frame or without one. -/
  | leave (handle : Nat)
  /-- The writer of a socket takes the next frame from its queue. -/
  | write (handle : Nat)
  deriving DecidableEq

end Gateway

structure Gateway where
  board : Switchboard
  sockets : List Gateway.Socket
  deriving DecidableEq

namespace Gateway

def empty : Gateway := ⟨.empty, []⟩

def socket? (gateway : Gateway) (handle : Nat) : Option Socket :=
  gateway.sockets.find? (·.handle == handle)

/-- A socket whose greeting has been written. -/
def live? (gateway : Gateway) (handle : Nat) : Option Socket :=
  (gateway.socket? handle).filter Socket.greeted

/-- A transition of the gateway. -/
abbrev Step := Transition Gateway Effect

def broadcast (text : String) : Step :=
  fun gateway =>
    let (accepted, board) := gateway.board.broadcast text
    ({ gateway with board := board }, accepted.map fun peer => .queued peer.handle text)

/-- Deregisters a handle and tells everyone who is left. -/
def depart (handle : Nat) : Step :=
  fun gateway =>
    let (removed, board) := gateway.board.remove handle
    let left : Gateway :=
      { board := board, sockets := gateway.sockets.filter (·.handle != handle) }
    match removed with
    | some _ => broadcast (closeMessage handle).toJson left
    | none => (left, [])

/-- Registers a socket under the next handle. -/
def connect : Step :=
  fun gateway =>
    let channel := gateway.board.channels.length
    let (handle, board) := gateway.board.joinChannel bufferSize false
    ({ board := board, sockets := gateway.sockets ++ [⟨handle, channel, false⟩] }, [])

/-- Writes the greeting, past anything that is queued already; a socket that
does not take it departs. -/
def greet (delivered : Bool) (socket : Socket) : Step :=
  fun gateway =>
    if delivered then
      let greeted := gateway.sockets.map fun other =>
        if other.handle = socket.handle then { other with greeted := true } else other
      ({ gateway with sockets := greeted },
        [.written socket.handle (initMessage socket.handle).toJson])
    else depart socket.handle gateway

/-- The writer of a socket moves one frame from the queue to the socket. -/
def write (socket : Socket) : Step :=
  fun gateway => match gateway.board.read socket.channel (some 1) with
    | (some (frames, _), board) =>
        ({ gateway with board := board }, frames.map fun text => .written socket.handle text)
    | (none, _) => (gateway, [])

/-- Puts a pong behind the frames that wait for a socket; if there is no room,
the writer first takes one of them. -/
def answerPing (socket : Socket) : Step :=
  fun gateway =>
    let peer : Hub.Peer := ⟨socket.handle, socket.channel⟩
    let (ready, effects) :=
      if gateway.board.verdictOf peer = .full then write socket gateway else (gateway, [])
    let (verdict, board) := ready.board.offer pongText peer
    ({ ready with board := board },
      if verdict = .accepted then effects ++ [.queued socket.handle pongText] else effects)

/-- A text frame of a socket: a ping is answered, an envelope relayed, and
anything else ignored. -/
def receive (socket : Socket) (text : String) : Step :=
  fun gateway =>
    if text = pingText then answerPing socket gateway
    else match Envelope.ofJson text with
      | .ok envelope => broadcast (attributed socket.handle envelope).toJson gateway
      | .error _ => (gateway, [])

/-- What a socket does once it has been greeted. -/
def whenLive (handle : Nat) (act : Socket → Step) : Step :=
  fun gateway => match gateway.live? handle with
    | some socket => act socket gateway
    | none => (gateway, [])

def step : Input → Step
  | .connect => connect
  | .greet handle delivered => fun gateway =>
      match (gateway.socket? handle).filter (!·.greeted) with
      | some socket => greet delivered socket gateway
      | none => (gateway, [])
  | .text handle text => whenLive handle fun socket => receive socket text
  | .leave handle => whenLive handle fun socket => depart socket.handle
  | .write handle => whenLive handle write

/-- A run from a state: the last state and all effects. -/
def run (inputs : List Input) : Step := Transition.run step inputs

/-- The gateway as it appears in logs. -/
def summary (gateway : Gateway) : String :=
  "GatewayState \x7b hub: " ++ gateway.board.hub.summary ++ ", config: \"AppConfig\" \x7d"

end Gateway

end Lifeline
