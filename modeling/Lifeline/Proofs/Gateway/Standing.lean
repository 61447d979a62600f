import Lifeline.Proofs.Gateway.Acts
import Lifeline.Proofs.Hub.Accounts

/-!
# Sockets and phases

The gateway keeps a list of sockets, the hub a list of peers, and the
switchboard a list of channels.  In every run they agree with the phases: the
sockets and the peers are those that are registered, in the order of their
handles, and the channel of the n-th socket is the n-th (`Standing`).
-/

namespace Lifeline.Gateway

open Hub (Peer Channel)

/-- The gateway after some inputs. -/
def after (inputs : List Input) : Gateway := (run inputs empty).1

/-- Everything that was queued and written so far. -/
def effectsAfter (inputs : List Input) : List Effect := (run inputs empty).2

theorem after_concat (past : List Input) (input : Input) :
    after (past ++ [input]) = (step input (after past)).1 := by
  rw [after, run, Transition.run_concat]
  rfl

theorem effectsAfter_concat (past : List Input) (input : Input) :
    effectsAfter (past ++ [input]) = effectsAfter past ++ (step input (after past)).2 := by
  rw [effectsAfter, run, Transition.run_concat]
  rfl

/-! ## Sockets -/

def Socket.peer (socket : Socket) : Peer := ⟨socket.handle, socket.channel⟩

/-- The socket that stands in a phase, if there is one. -/
def Phase.socket? (handle : Nat) : Phase → Option Socket
  | .waiting => some ⟨handle, handle - 1, false⟩
  | .live => some ⟨handle, handle - 1, true⟩
  | .unknown => none
  | .ended => none

theorem Phase.isSome_socket?_iff (handle : Nat) {phase : Phase} :
    (phase.socket? handle).isSome = true ↔ phase.Registered := by
  cases phase <;> simp [Phase.socket?, Phase.Registered]

/-- A channel of a socket: somebody reads it, and it holds no more than it may. -/
structure Serves (channel : Channel) : Prop where
  listening : channel.listening = true
  capacity : channel.capacity = bufferSize
  bounded : channel.queue.length ≤ channel.capacity

/-- The gateway agrees with the phases. -/
structure Standing (past : List Input) (gateway : Gateway) : Prop where
  allocated : gateway.board.hub.allocated = connects past
  channels : gateway.board.channels.length = connects past
  serves : ∀ channel ∈ gateway.board.channels, Serves channel
  peers : gateway.board.hub.peers = gateway.sockets.map Socket.peer
  ascending : (gateway.sockets.map Socket.handle).Pairwise (· < ·)
  mem_sockets_iff : ∀ socket, socket ∈ gateway.sockets ↔
    (phase socket.handle past).socket? socket.handle = some socket

theorem Phase.socket?_eq_some_iff {phase : Phase} {handle : Nat} {socket : Socket} :
    phase.socket? handle = some socket ↔ socket.handle = handle ∧ socket.channel = handle - 1 ∧
      (phase = .waiting ∧ socket.greeted = false ∨ phase = .live ∧ socket.greeted = true) := by
  obtain ⟨own, channel, greeted⟩ := socket
  cases phase <;> cases greeted <;> simp [Phase.socket?, eq_comm]

namespace Standing

variable {past : List Input} {gateway : Gateway} (hstanding : Standing past gateway)

include hstanding

/-- A socket is found by its handle. -/
theorem socket? (handle : Nat) : gateway.socket? handle = (phase handle past).socket? handle := by
  cases hfound : gateway.socket? handle with
  | some socket =>
      have hsame : socket.handle = handle := by simpa using List.find?_some hfound
      subst hsame
      exact ((hstanding.mem_sockets_iff socket).1 (List.mem_of_find?_eq_some hfound)).symm
  | none =>
      symm
      rw [Option.eq_none_iff_forall_ne_some]
      intro socket hsocket
      obtain ⟨rfl, -⟩ := Phase.socket?_eq_some_iff.1 hsocket
      have hmember := (hstanding.mem_sockets_iff socket).2 hsocket
      exact absurd (List.find?_eq_none.1 hfound socket hmember) (by simp)

theorem handles : gateway.board.hub.handles = gateway.sockets.map Socket.handle := by
  rw [Hub.handles, hstanding.peers, List.map_map]
  rfl

/-- The n-th socket is on the n-th channel. -/
theorem mem_peers_iff {peer : Peer} :
    peer ∈ gateway.board.hub.peers ↔
      peer.handle = peer.channel + 1 ∧ (phase peer.handle past).Registered := by
  rw [hstanding.peers, List.mem_map]
  constructor
  · rintro ⟨socket, hsocket, rfl⟩
    have hphase := (hstanding.mem_sockets_iff socket).1 hsocket
    have hregistered : (phase socket.handle past).Registered := by
      rw [← Phase.isSome_socket?_iff socket.handle, hphase, Option.isSome_some]
    have hpositive := (known_of_registered hregistered).1
    have hchannel := (Phase.socket?_eq_some_iff.1 hphase).2.1
    exact ⟨by simp only [Socket.peer]; omega, hregistered⟩
  · rintro ⟨hchannel, hregistered⟩
    obtain ⟨socket, hsocket⟩ := Option.isSome_iff_exists.1
      ((Phase.isSome_socket?_iff peer.handle).2 hregistered)
    obtain ⟨hhandle, hown, -⟩ := Phase.socket?_eq_some_iff.1 hsocket
    rw [← hhandle] at hsocket
    refine ⟨socket, (hstanding.mem_sockets_iff socket).2 hsocket, ?_⟩
    obtain ⟨handle, channel⟩ := peer
    simp only [Socket.peer, Peer.mk.injEq] at hhandle hown hchannel ⊢
    omega

/-- No two sockets share a channel. -/
theorem channels_distinct : (gateway.board.hub.peers.map Peer.channel).Nodup := by
  have hhandles : (gateway.board.hub.peers.map Peer.handle).Nodup := by
    have hdistinct := hstanding.ascending.imp (S := (· ≠ ·)) Nat.ne_of_lt
    rwa [← hstanding.handles] at hdistinct
  have hsame : (gateway.board.hub.peers.map Peer.channel).map Nat.succ =
      gateway.board.hub.peers.map Peer.handle := by
    rw [List.map_map]
    exact List.map_congr_left fun peer hpeer => (hstanding.mem_peers_iff.1 hpeer).1.symm
  exact List.Nodup.of_map Nat.succ (hsame ▸ hhandles)

/-- The hub has registered the sockets that were accepted and have not ended. -/
theorem mem_handles_iff {handle : Nat} :
    handle ∈ gateway.board.hub.handles ↔ (phase handle past).Registered := by
  rw [Hub.handles, List.mem_map]
  constructor
  · rintro ⟨peer, hpeer, rfl⟩
    exact (hstanding.mem_peers_iff.1 hpeer).2
  · intro hregistered
    have hpositive := (known_of_registered hregistered).1
    exact ⟨⟨handle, handle - 1⟩, hstanding.mem_peers_iff.2 ⟨by simp only; omega, hregistered⟩, rfl⟩

/-- The switchboard takes frames; nothing else changes. -/
theorem offered (text : String) (peers : List Peer) :
    Standing past { gateway with board := (gateway.board.offerAll text peers).2 } where
  allocated := by
    rw [Switchboard.hub_offerAll]
    exact hstanding.allocated
  channels := by
    rw [Switchboard.length_channels_offerAll]
    exact hstanding.channels
  serves := by
    intro channel hchannel
    have hbounded : gateway.board.Bounded :=
      fun other hother => (hstanding.serves other hother).bounded
    obtain ⟨index, hindex⟩ := List.getElem?_of_mem hchannel
    have hcopies := Switchboard.channel?_offerAll gateway.board text peers index
    rw [Switchboard.channel?, hindex] at hcopies
    obtain ⟨before, hbefore, heq⟩ := Option.map_eq_some_iff.1 hcopies.symm
    have hserves := hstanding.serves before (List.mem_of_getElem? hbefore)
    refine ⟨?_, ?_, hbounded.offerAll text peers channel hchannel⟩
    · rw [← heq]
      exact hserves.listening
    · rw [← heq]
      exact hserves.capacity
  peers := by
    rw [Switchboard.hub_offerAll]
    exact hstanding.peers
  ascending := hstanding.ascending
  mem_sockets_iff := hstanding.mem_sockets_iff

/-- One queue moves on: frames leave at the front and others come at the back. -/
theorem shifted {index : Nat} {channel : Channel} (hchannel : Serves channel) :
    Standing past { gateway with board := gateway.board.setChannel index channel } where
  allocated := hstanding.allocated
  channels := by
    rw [Switchboard.setChannel, List.length_set]
    exact hstanding.channels
  serves := by
    intro other hother
    rcases List.mem_or_eq_of_mem_set hother with hold | rfl
    · exact hstanding.serves other hold
    · exact hchannel
  peers := hstanding.peers
  ascending := hstanding.ascending
  mem_sockets_iff := hstanding.mem_sockets_iff

/-- A socket on whose channel something happens has one. -/
theorem exists_channel (handle : Nat) (hregistered : (phase handle past).Registered) :
    ∃ channel, gateway.board.channel? (handle - 1) = some channel ∧ Serves channel := by
  have hknown := known_of_registered hregistered
  have hindex : handle - 1 < gateway.board.channels.length := by
    rw [hstanding.channels]
    omega
  exact ⟨_, List.getElem?_eq_getElem hindex, hstanding.serves _ (List.getElem_mem hindex)⟩

end Standing

end Lifeline.Gateway
