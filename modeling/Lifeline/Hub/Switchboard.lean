import Lifeline.Hub.Basic
import Lifeline.Hub.Channel

/-!
# The switchboard

A switchboard is a hub with the channels of its peers.  A broadcast offers a
frame to the registered peers one after the other, in an order that is a
parameter of `broadcastVia`; a peer whose channel is full or closed misses the
frame.
-/

namespace Lifeline

structure Switchboard where
  hub : Hub
  channels : List Hub.Channel
  deriving DecidableEq

namespace Switchboard

open Hub

def empty : Switchboard := ⟨.empty, []⟩

/-- Registers a peer on a channel of its own. -/
def joinChannel (board : Switchboard) (capacity : Nat) (kept : Bool) : Nat × Switchboard :=
  let (handle, hub) := board.hub.addPeer board.channels.length
  (handle, ⟨hub, board.channels ++ [Channel.new capacity kept]⟩)

/-- Registers another peer on an existing channel. -/
def share (board : Switchboard) (channel : Nat) : Nat × Switchboard :=
  let (handle, hub) := board.hub.addPeer channel
  (handle, { board with hub := hub })

def remove (board : Switchboard) (handle : Nat) : Option Peer × Switchboard :=
  let (removed, hub) := board.hub.removePeer handle
  (removed, { board with hub := hub })

def channel? (board : Switchboard) (channel : Nat) : Option Channel := board.channels[channel]?

def setChannel (board : Switchboard) (index : Nat) (channel : Channel) : Switchboard :=
  { board with channels := board.channels.set index channel }

def verdictOf (board : Switchboard) (peer : Peer) : Channel.Verdict :=
  match board.channel? peer.channel with
  | some channel => channel.verdict
  | none => .closed

/-- Offers a frame to one peer without waiting. -/
def offer (board : Switchboard) (text : String) (peer : Peer) : Channel.Verdict × Switchboard :=
  match board.channel? peer.channel with
  | some channel => (channel.verdict, board.setChannel peer.channel (channel.offer text))
  | none => (.closed, board)

/-- Offers a frame to some peers in the given order; returns those that accepted it. -/
def offerAll (board : Switchboard) (text : String) : List Peer → List Peer × Switchboard
  | [] => ([], board)
  | peer :: peers =>
      let (verdict, offered) := board.offer text peer
      let (accepted, last) := offerAll offered text peers
      (if verdict = .accepted then peer :: accepted else accepted, last)

/-- A broadcast that visits the registered peers in the given order. -/
def broadcastVia (board : Switchboard) (order : List Peer) (text : String) (excluded : List Nat) :
    List Peer × Switchboard :=
  board.offerAll text (order.filter fun peer => !excluded.contains peer.handle)

/-- Queues a frame for every peer whose handle is not excluded; returns the
peers that accepted it. -/
def broadcastExcept (board : Switchboard) (text : String) (excluded : List Nat) :
    List Peer × Switchboard :=
  board.broadcastVia board.hub.peers text excluded

def broadcast (board : Switchboard) (text : String) : List Peer × Switchboard :=
  board.broadcastExcept text []

/-- Sends a frame to one handle; nothing if the handle is not registered. -/
def sendTo (board : Switchboard) (handle : Nat) (text : String) :
    Option Channel.Verdict × Switchboard :=
  match board.hub.getPeer handle with
  | some peer =>
      let (verdict, board) := board.offer text peer
      (some verdict, board)
  | none => (none, board)

/-- Some sender of the channel is left, at a registered peer or kept apart. -/
def hasSender (board : Switchboard) (index : Nat) : Bool :=
  (board.hub.peers.any fun peer => peer.channel == index) ||
    ((board.channel? index).map Channel.kept).getD false

def dropReader (board : Switchboard) (index : Nat) : Switchboard :=
  match board.channel? index with
  | some channel => board.setChannel index channel.dropReader
  | none => board

/-- How a read from a channel ended. -/
inductive ReadEnd
  | limit
  | empty
  | disconnected
  deriving DecidableEq

/-- Takes up to `limit` frames from a channel, or all of them; nothing if there is no reader. -/
def read (board : Switchboard) (index : Nat) (limit : Option Nat) :
    Option (List String × ReadEnd) × Switchboard :=
  match board.channel? index with
  | some channel =>
      if channel.listening then
        let (frames, rest) := channel.take (limit.getD channel.queue.length)
        let ending :=
          if limit = some frames.length then .limit
          else if board.hasSender index then .empty
          else .disconnected
        (some (frames, ending), board.setChannel index rest)
      else (none, board)
  | none => (none, board)

end Switchboard

end Lifeline
