/-!
# Channels

A channel is the bounded queue between the hub and the writer of one socket.
Several peers may share it.  Once its reader is gone it takes nothing more, and
what was queued is lost.
-/

namespace Lifeline.Hub

structure Channel where
  capacity : Nat
  queue : List String
  /-- Whether somebody still reads from it. -/
  listening : Bool
  /-- Whether a sender is kept apart from those of the registered peers. -/
  kept : Bool
  deriving DecidableEq

namespace Channel

/-- The most frames that a queue can be made for. -/
def mostCapacity : Nat := 2305843009213693951

/-- A queue has room for at least one frame. -/
def isCapacity (capacity : Nat) : Bool := 0 < capacity && capacity ≤ mostCapacity

def new (capacity : Nat) (kept : Bool) : Channel := ⟨capacity, [], true, kept⟩

def isFull (channel : Channel) : Bool := channel.queue.length ≥ channel.capacity

/-- What becomes of a frame that is offered without waiting. -/
inductive Verdict
  | accepted
  | full
  | closed
  deriving DecidableEq

def verdict (channel : Channel) : Verdict :=
  if !channel.listening then .closed else if channel.isFull then .full else .accepted

def push (channel : Channel) (text : String) : Channel :=
  { channel with queue := channel.queue ++ [text] }

/-- Appends the frame if there is room and a reader. -/
def offer (channel : Channel) (text : String) : Channel :=
  if channel.verdict = .accepted then channel.push text else channel

def dropReader (channel : Channel) : Channel :=
  { channel with queue := [], listening := false }

/-- Takes up to `limit` frames from the front. -/
def take (channel : Channel) (limit : Nat) : List String × Channel :=
  (channel.queue.take limit, { channel with queue := channel.queue.drop limit })

end Channel

/-- A frame that could not be sent because nobody reads any more. -/
def closedText : String := "channel closed"

/-- A frame that could not be sent at once because the queue is full. -/
def fullText : String := "no available capacity"

end Lifeline.Hub
