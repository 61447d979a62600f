import Lifeline.Transport.Memory

/-!
# A bench of transports

Several transports in memory under numbers, as a test would hold them, with one
listener for the events of all and one taker for their peers.
-/

namespace Lifeline

structure Bench where
  transports : List (Nat × MemoryTransport)
  /-- Somebody listens for events. -/
  listening : Bool
  /-- Somebody takes the peers of new transports. -/
  taking : Bool

namespace Bench

def empty : Bench := ⟨[], true, true⟩

inductive Act
  | dial (url : String) (generation : Nat)
  | send (text : String)
  | close
  | dropHandle
  | dropPeer
  | dropListener
  | dropTaker
  /-- The connector itself reports an event. -/
  | emit (event : TransportEvent)
  | accept
  | deliver (text : String)
  | disconnect
  | takeFrames
  | isClosed

inductive Reply
  | dialed (transport : MemoryTransport)
  | ok
  | refused (error : TransportError)
  | noHandle
  | noPeer
  | done
  | emitted (heard : Bool)
  | nothing
  | frames (frames : List String)
  | flag (value : Bool)

def transport? (bench : Bench) (id : Nat) : Option MemoryTransport := bench.transports.lookup id

def setTransport (bench : Bench) (id : Nat) (transport : MemoryTransport) : Bench :=
  { bench with transports := (id, transport) :: bench.transports.filter (·.1 != id) }

/-- An event is heard only while somebody listens. -/
def heard (bench : Bench) (transport : MemoryTransport) (event : TransportEvent) : List Report :=
  if bench.listening then [⟨transport.generation, event⟩] else []

/-- Acts on a peer that has not been dropped. -/
def onPeer (bench : Bench) (id : Nat)
    (act : MemoryTransport → Reply × List Report × Bench) : Reply × List Report × Bench :=
  match bench.transport? id with
  | some transport => if transport.peer then act transport else (.noPeer, [], bench)
  | none => (.noPeer, [], bench)

/-- Acts through a handle that has not been used up. -/
def onHandle (bench : Bench) (id : Nat) (act : MemoryTransport → Reply × MemoryTransport) :
    Reply × List Report × Bench :=
  match bench.transport? id with
  | some transport =>
      if transport.handle then
        let (reply, transport) := act transport
        (reply, [], bench.setTransport id transport)
      else (.noHandle, [], bench)
  | none => (.noHandle, [], bench)

/-- Changes a transport, if there is one. -/
def adjust (bench : Bench) (id : Nat) (change : MemoryTransport → MemoryTransport) :
    Reply × List Report × Bench :=
  match bench.transport? id with
  | some transport => (.done, [], bench.setTransport id (change transport))
  | none => (.done, [], bench)

def perform (bench : Bench) (id : Nat) : Act → Reply × List Report × Bench
  | .dial url generation =>
      let transport := MemoryTransport.dial url generation bench.taking
      (.dialed transport, [], bench.setTransport id transport)
  | .send text => bench.onHandle id fun transport =>
      match transport.send text with
      | (.ok (), transport) => (.ok, transport)
      | (.error error, transport) => (.refused error, transport)
  | .close => bench.onHandle id fun transport => (.done, transport.close)
  | .dropHandle => bench.adjust id MemoryTransport.dropHandle
  | .dropPeer => bench.adjust id MemoryTransport.dropPeer
  | .dropListener => (.done, [], { bench with listening := false })
  | .dropTaker => (.done, [], { bench with taking := false })
  | .emit event => match bench.transport? id with
      | some transport => (.emitted bench.listening, bench.heard transport event, bench)
      | none => (.nothing, [], bench)
  | .accept => bench.onPeer id fun transport =>
      (.done, bench.heard transport .opened, bench)
  | .deliver text => bench.onPeer id fun transport =>
      (.done, bench.heard transport (.message text), bench)
  | .disconnect => bench.onPeer id fun transport =>
      let (event, ended) := transport.disconnect
      (.done, bench.heard transport event, bench.setTransport id ended)
  | .takeFrames => bench.onPeer id fun transport =>
      let (frames, transport) := transport.takeFrames
      (.frames frames, [], bench.setTransport id transport)
  | .isClosed => bench.onPeer id fun transport =>
      let (closed, transport) := transport.isClosed
      (.flag closed, [], bench.setTransport id transport)

end Bench

end Lifeline
