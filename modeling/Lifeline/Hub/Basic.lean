/-!
# The hub

The hub registers peers under handles.  Handles are given out in sequence from
one and never again.  A peer is a handle together with the number of the channel
that its frames go to.
-/

namespace Lifeline

namespace Hub

structure Peer where
  handle : Nat
  channel : Nat
  deriving DecidableEq

end Hub

structure Hub where
  allocated : Nat
  /-- Registered peers in the order of their handles. -/
  peers : List Hub.Peer
  deriving DecidableEq

namespace Hub

def empty : Hub := ⟨0, []⟩

/-- Registers a peer and returns its handle. -/
def addPeer (hub : Hub) (channel : Nat) : Nat × Hub :=
  let handle := hub.allocated + 1
  (handle, ⟨handle, hub.peers ++ [⟨handle, channel⟩]⟩)

def getPeer (hub : Hub) (handle : Nat) : Option Peer := hub.peers.find? (·.handle == handle)

/-- Deregisters a peer and returns it, if it was registered. -/
def removePeer (hub : Hub) (handle : Nat) : Option Peer × Hub :=
  (hub.getPeer handle, { hub with peers := hub.peers.filter (·.handle != handle) })

def handles (hub : Hub) : List Nat := hub.peers.map Peer.handle

theorem handles_removePeer (hub : Hub) (handle : Nat) :
    (hub.removePeer handle).2.handles = hub.handles.filter (· != handle) := by
  simp [removePeer, handles, List.filter_map, Function.comp_def]

def size (hub : Hub) : Nat := hub.peers.length

def isEmpty (hub : Hub) : Bool := hub.peers.isEmpty

/-- The hub as it appears in logs. -/
def summary (hub : Hub) : String :=
  "SocketHub \x7b peers: " ++ toString hub.size ++
    ", allocated: " ++ toString hub.allocated ++ " \x7d"

end Hub

end Lifeline
