import Lifeline.Transport.Event

/-!
# Transports in memory

A transport in memory joins a handle, held by the connection, to a peer that
plays the far end.  Commands wait in a queue until the peer looks at them; it
stops looking at the first close, and learns from an empty queue without a
handle that it was discarded.
-/

namespace Lifeline

structure MemoryTransport where
  generation : Nat
  url : String
  /-- The handle has not been closed or dropped. -/
  handle : Bool
  /-- The peer has not been dropped. -/
  peer : Bool
  queue : List TransportCommand
  /-- Frames the peer has seen and not yet handed out. -/
  frames : List String
  closed : Bool
  deriving DecidableEq

namespace MemoryTransport

/-- A fresh transport; without anyone to take its peer, the peer is dropped at once. -/
def dial (url : String) (generation : Nat) (taken : Bool) : MemoryTransport :=
  ⟨generation, url, true, taken, [], [], false⟩

def send (transport : MemoryTransport) (text : String) :
    Except TransportError Unit × MemoryTransport :=
  if transport.peer then
    (.ok (), { transport with queue := transport.queue ++ [.frame text] })
  else (.error .closed, transport)

/-- Closes the handle, which is used up. -/
def close (transport : MemoryTransport) : MemoryTransport :=
  { transport with
    handle := false
    queue := if transport.peer then transport.queue ++ [.close] else transport.queue }

def dropHandle (transport : MemoryTransport) : MemoryTransport := { transport with handle := false }

def dropPeer (transport : MemoryTransport) : MemoryTransport :=
  { transport with peer := false, queue := [] }

/-- The frames before the first close, what is queued behind it, and whether there was one. -/
def split : List TransportCommand → List String × List TransportCommand × Bool
  | [] => ([], [], false)
  | .close :: rest => ([], rest, true)
  | .frame text :: rest =>
      let (frames, left, closing) := split rest
      (text :: frames, left, closing)

/-- The peer looks at what has been queued. -/
def pump (transport : MemoryTransport) : MemoryTransport :=
  let (frames, left, closing) := split transport.queue
  { transport with
    queue := left
    frames := transport.frames ++ frames
    closed := transport.closed || closing || !transport.handle }

def takeFrames (transport : MemoryTransport) : List String × MemoryTransport :=
  let pumped := transport.pump
  (pumped.frames, { pumped with frames := [] })

def isClosed (transport : MemoryTransport) : Bool × MemoryTransport :=
  (transport.pump.closed, transport.pump)

/-- The peer ends the transport. -/
def disconnect (transport : MemoryTransport) : TransportEvent × MemoryTransport :=
  (.closed (some "peer disconnected"), { transport with closed := true })

end MemoryTransport

end Lifeline
