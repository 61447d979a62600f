import Lifeline.Proofs.Hub.Offers
import Lifeline.Transition

/-!
# Calls of the hub

The hub is used by calls: peers come and go, frames are sent and broadcast, and
readers take what is queued or go away.  A run of calls keeps a journal of what
was accepted for which peer and of what was taken from which channel.  A send, a
broadcast, and a send that had to wait all offer one text to some peers
(`step_send`, `step_finish`, `step_broadcast`).
-/

namespace Lifeline.Switchboard

open Hub

/-- An order in which a broadcast visits the registered peers; the hub promises none. -/
structure Visit where
  order : List Peer → List Peer
  perm : ∀ peers, (order peers).Perm peers

/-- The visit of peers in the order in which they were registered. -/
def Visit.seniority : Visit := ⟨id, List.Perm.refl⟩

inductive Call
  /-- Registers a peer on a channel of its own. -/
  | join (capacity : Nat) (kept : Bool)
  /-- Registers a peer on a channel that there is already. -/
  | share (channel : Nat)
  | remove (handle : Nat)
  /-- A send that does not wait. -/
  | send (handle : Nat) (text : String)
  /-- The end of a send that waited: its peer may have been deregistered meanwhile. -/
  | finish (peer : Peer) (text : String)
  | broadcast (visit : Visit) (text : String) (excluded : List Nat)
  | read (channel : Nat) (limit : Option Nat)
  | dropReader (channel : Nat)

/-- What the journal keeps. -/
inductive Entry
  | accepted (peer : Peer) (text : String)
  | taken (channel : Nat) (frames : List String)
  deriving DecidableEq

/-- A transition of the switchboard. -/
abbrev Step := Transition Switchboard Entry

open Transition (silently)

/-- The peers that a broadcast offers its frame to, in the order of the visit. -/
def visited (board : Switchboard) (visit : Visit) (excluded : List Nat) : List Peer :=
  (visit.order board.hub.peers).filter fun peer => !excluded.contains peer.handle

/-- An offer to some peers, as a step. -/
def offering (text : String) (peers : List Peer) : Step :=
  fun board =>
    ((board.offerAll text peers).2,
      (board.offerAll text peers).1.map fun peer => .accepted peer text)

def step : Call → Step
  | .join capacity kept => silently fun board => (board.joinChannel capacity kept).2
  | .share channel => silently fun board =>
      if channel < board.channels.length then (board.share channel).2 else board
  | .remove handle => silently fun board => (board.remove handle).2
  | .send handle text => fun board =>
      let (verdict, next) := board.sendTo handle text
      (next,
        if verdict = some .accepted then
          (board.hub.getPeer handle).toList.map fun peer => .accepted peer text
        else [])
  | .finish peer text => fun board =>
      let (verdict, next) := board.offer text peer
      (next, if verdict = .accepted then [.accepted peer text] else [])
  | .broadcast visit text excluded => fun board =>
      let (accepted, next) := board.broadcastVia (visit.order board.hub.peers) text excluded
      (next, accepted.map fun peer => .accepted peer text)
  | .read channel limit => fun board => match board.read channel limit with
      | (some (frames, _), next) => (next, [.taken channel frames])
      | (none, next) => (next, [])
  | .dropReader channel => silently (dropReader · channel)

/-- A run of calls: the last switchboard and the journal. -/
def run (calls : List Call) : Step := Transition.run step calls

/-! ## Offers -/

theorem offerAll_singleton (board : Switchboard) (text : String) (peer : Peer) :
    board.offerAll text [peer] =
      (if (board.offer text peer).1 = .accepted then [peer] else [],
        (board.offer text peer).2) := rfl

theorem step_finish (board : Switchboard) (peer : Peer) (text : String) :
    step (.finish peer text) board = offering text [peer] board := by
  rw [offering, offerAll_singleton]
  by_cases haccepted : (board.offer text peer).1 = .accepted <;> simp [step, haccepted]

theorem step_send (board : Switchboard) (handle : Nat) (text : String) :
    step (.send handle text) board = offering text (board.hub.getPeer handle).toList board := by
  cases hpeer : board.hub.getPeer handle with
  | none => simp [step, sendTo, hpeer, offering, offerAll]
  | some peer =>
      rw [Option.toList_some, ← step_finish]
      simp [step, sendTo, hpeer]

theorem step_broadcast (board : Switchboard) (visit : Visit) (text : String) (excluded : List Nat) :
    step (.broadcast visit text excluded) board =
      offering text (board.visited visit excluded) board := rfl

theorem mem_visited {board : Switchboard} {visit : Visit} {excluded : List Nat} {peer : Peer} :
    peer ∈ board.visited visit excluded ↔ peer ∈ board.hub.peers ∧ peer.handle ∉ excluded := by
  simp [visited, (visit.perm board.hub.peers).mem_iff]

/-! ## Channels -/

theorem channel?_joinChannel (board : Switchboard) (capacity : Nat) (kept : Bool) (index : Nat) :
    (board.joinChannel capacity kept).2.channel? index =
      if index = board.channels.length then some (Channel.new capacity kept)
      else board.channel? index := by
  simp only [joinChannel, channel?]
  split
  · next heq => simp [heq]
  · next hne =>
      rcases Nat.lt_or_gt_of_ne hne with hless | hmore
      · exact List.getElem?_append_left hless
      · rw [List.getElem?_eq_none (by simp; omega), List.getElem?_eq_none (by omega)]

/-- A read takes frames from the front of a channel that has a reader, or nothing happens. -/
theorem read_cases (board : Switchboard) (index : Nat) (limit : Option Nat) :
    (∃ channel count ending, board.channel? index = some channel ∧ channel.listening = true ∧
        board.read index limit = (some (channel.queue.take count, ending),
          board.setChannel index { channel with queue := channel.queue.drop count })) ∨
      board.read index limit = (none, board) := by
  unfold read
  cases hchannel : board.channel? index with
  | none => exact .inr rfl
  | some channel =>
      dsimp only
      split
      · next hlistening => exact .inl ⟨channel, _, _, rfl, hlistening, rfl⟩
      · exact .inr rfl

end Lifeline.Switchboard
