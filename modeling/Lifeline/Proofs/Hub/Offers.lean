import Lifeline.Hub.Switchboard

/-!
# Frames that are offered

Offering a frame to peers changes nothing but queues: behind what waits on a
channel come as many copies of the frame as peers of that channel accepted it.
So the peers that a broadcast returns account for every frame it left anywhere
(`channel?_offerAll`).
-/

namespace Lifeline

namespace Hub.Channel

/-- The channel with copies of a frame behind what waits on it. -/
def append (channel : Channel) (text : String) (copies : Nat) : Channel :=
  { channel with queue := channel.queue ++ List.replicate copies text }

@[simp]
theorem append_zero (channel : Channel) (text : String) : channel.append text 0 = channel := by
  simp [append]

theorem append_append (channel : Channel) (text : String) (earlier later : Nat) :
    (channel.append text earlier).append text later = channel.append text (earlier + later) := by
  simp [append, List.replicate_append_replicate]

theorem offer_eq (channel : Channel) (text : String) :
    channel.offer text = channel.append text (if channel.verdict = .accepted then 1 else 0) := by
  unfold offer
  split
  · rfl
  · exact (append_zero channel text).symm

theorem verdict_eq_accepted_iff {channel : Channel} :
    channel.verdict = .accepted ↔
      channel.listening = true ∧ channel.queue.length < channel.capacity := by
  unfold verdict isFull
  cases channel.listening <;> simp

end Hub.Channel

namespace Switchboard

open Hub

/-- How many of the peers have their frames on this channel. -/
def countOn (peers : List Peer) (index : Nat) : Nat :=
  peers.countP fun peer => peer.channel == index

theorem channel?_setChannel (board : Switchboard) (index : Nat) (channel : Channel) (sought : Nat) :
    (board.setChannel index channel).channel? sought =
      if index = sought then (board.channel? sought).map fun _ => channel
      else board.channel? sought := by
  simp only [setChannel, channel?, List.getElem?_set']
  rfl

theorem hub_offer (board : Switchboard) (text : String) (peer : Peer) :
    (board.offer text peer).2.hub = board.hub := by
  unfold offer
  split <;> rfl

theorem length_channels_offer (board : Switchboard) (text : String) (peer : Peer) :
    (board.offer text peer).2.channels.length = board.channels.length := by
  unfold offer
  split <;> simp [setChannel]

theorem offer_fst (board : Switchboard) (text : String) (peer : Peer) :
    (board.offer text peer).1 = board.verdictOf peer := by
  unfold offer verdictOf
  split <;> rfl

theorem verdictOf_eq_accepted_iff {board : Switchboard} {peer : Peer} :
    board.verdictOf peer = .accepted ↔ ∃ channel, board.channel? peer.channel = some channel ∧
      channel.listening = true ∧ channel.queue.length < channel.capacity := by
  unfold verdictOf
  cases board.channel? peer.channel <;> simp [Channel.verdict_eq_accepted_iff]

theorem offer_eq_of_room {board : Switchboard} (peer : Peer) {channel : Channel} (text : String)
    (hchannel : board.channel? peer.channel = some channel) (hlistening : channel.listening = true)
    (hroom : channel.queue.length < channel.capacity) :
    board.offer text peer = (.accepted, board.setChannel peer.channel (channel.push text)) := by
  have haccepted := Channel.verdict_eq_accepted_iff.2 ⟨hlistening, hroom⟩
  simp [offer, hchannel, haccepted, Channel.offer]

theorem channel?_offer (board : Switchboard) (text : String) (peer : Peer) (index : Nat) :
    (board.offer text peer).2.channel? index = (board.channel? index).map fun channel =>
      channel.append text
        (countOn (if (board.offer text peer).1 = .accepted then [peer] else []) index) := by
  unfold offer
  cases hchannel : board.channel? peer.channel with
  | none => simp [countOn]
  | some channel =>
      dsimp only
      rw [channel?_setChannel]
      split
      · next heq =>
          subst heq
          rw [hchannel, Option.map_some, Option.map_some, Channel.offer_eq]
          split <;> simp [countOn]
      · next hne => split <;> simp [countOn, hne]

theorem offerAll_fst_cons (board : Switchboard) (text : String) (peer : Peer) (peers : List Peer) :
    (board.offerAll text (peer :: peers)).1 =
      (if (board.offer text peer).1 = .accepted then [peer] else []) ++
        ((board.offer text peer).2.offerAll text peers).1 := by
  simp only [offerAll]
  split <;> rfl

theorem hub_offerAll (board : Switchboard) (text : String) (peers : List Peer) :
    (board.offerAll text peers).2.hub = board.hub := by
  induction peers generalizing board with
  | nil => rfl
  | cons peer peers ih => exact (ih (board.offer text peer).2).trans (hub_offer board text peer)

theorem length_channels_offerAll (board : Switchboard) (text : String) (peers : List Peer) :
    (board.offerAll text peers).2.channels.length = board.channels.length := by
  induction peers generalizing board with
  | nil => rfl
  | cons peer peers ih =>
      exact (ih (board.offer text peer).2).trans (length_channels_offer board text peer)

/-- An offer to some peers and then to others. -/
theorem offerAll_append (board : Switchboard) (text : String) (earlier later : List Peer) :
    board.offerAll text (earlier ++ later) =
      ((board.offerAll text earlier).1 ++ ((board.offerAll text earlier).2.offerAll text later).1,
        ((board.offerAll text earlier).2.offerAll text later).2) := by
  induction earlier generalizing board with
  | nil => rfl
  | cons peer earlier ih =>
      have hlater := ih (board.offer text peer).2
      have hboards := congrArg Prod.snd hlater
      refine Prod.ext ?_ hboards
      simp only [List.cons_append, offerAll_fst_cons, hlater, List.append_assoc]
      rfl

/-- The peers that accept a frame are some of those that it is offered to, in their order. -/
theorem offerAll_sublist (board : Switchboard) (text : String) (peers : List Peer) :
    (board.offerAll text peers).1.Sublist peers := by
  induction peers generalizing board with
  | nil => exact List.Sublist.slnil
  | cons peer peers ih =>
      rw [offerAll_fst_cons]
      have hlater := ih (board.offer text peer).2
      split
      · exact hlater.cons_cons peer
      · exact hlater.cons peer

/-- A peer that is passed over does not accept the frame when its turn comes. -/
theorem exists_turn_of_not_mem_offerAll {board : Switchboard} {text : String} {peers : List Peer}
    {peer : Peer} (hpeer : peer ∈ peers) (hmissed : peer ∉ (board.offerAll text peers).1) :
    ∃ earlier later, peers = earlier ++ peer :: later ∧
      (board.offerAll text earlier).2.verdictOf peer ≠ .accepted := by
  obtain ⟨earlier, later, rfl⟩ := List.append_of_mem hpeer
  refine ⟨earlier, later, rfl, fun haccepted => hmissed ?_⟩
  rw [offerAll_append, offerAll_fst_cons, offer_fst, if_pos haccepted]
  simp

/-- Each channel gets one copy of the frame for each of its peers that accepts it. -/
theorem channel?_offerAll (board : Switchboard) (text : String) (peers : List Peer) (index : Nat) :
    (board.offerAll text peers).2.channel? index = (board.channel? index).map fun channel =>
      channel.append text (countOn (board.offerAll text peers).1 index) := by
  induction peers generalizing board with
  | nil => simp [offerAll, countOn]
  | cons peer peers ih =>
      have hfirst := channel?_offer board text peer index
      have hlater := ih (board.offer text peer).2
      rw [hfirst] at hlater
      rw [offerAll_fst_cons, countOn, List.countP_append]
      refine Eq.trans hlater ?_
      simp only [Option.map_map, Function.comp_def, Channel.append_append, countOn]

theorem countOn_eq_zero {peers : List Peer} {index : Nat}
    (hnone : ∀ peer ∈ peers, peer.channel ≠ index) :
    countOn peers index = 0 :=
  List.countP_eq_zero.2 fun peer hpeer heq => hnone peer hpeer (beq_iff_eq.1 heq)

/-- An offer on one channel changes nothing for peers on others. -/
theorem verdictOf_offer_of_ne (board : Switchboard) (text : String) {first peer : Peer}
    (hchannel : peer.channel ≠ first.channel) :
    (board.offer text first).2.verdictOf peer = board.verdictOf peer := by
  have hnone :
      countOn (if (board.offer text first).1 = .accepted then [first] else [])
        peer.channel = 0 := by
    refine countOn_eq_zero fun other hother => ?_
    split at hother
    · obtain rfl := List.mem_singleton.1 hother
      exact Ne.symm hchannel
    · exact absurd hother List.not_mem_nil
  rw [verdictOf, channel?_offer, hnone, verdictOf]
  cases board.channel? peer.channel <;> simp

/-- Where no channel is shared, each peer accepts a frame if its channel would take it now. -/
theorem countOn_offerAll_of_nodup (board : Switchboard) (text : String) {peers : List Peer}
    (hdistinct : (peers.map Peer.channel).Nodup) {peer : Peer} (hpeer : peer ∈ peers) :
    countOn (board.offerAll text peers).1 peer.channel =
      if board.verdictOf peer = .accepted then 1 else 0 := by
  induction peers generalizing board with
  | nil => exact absurd hpeer List.not_mem_nil
  | cons first peers ih =>
      rw [List.map_cons, List.nodup_cons] at hdistinct
      obtain ⟨hfirst, hlater⟩ := hdistinct
      rw [offerAll_fst_cons, offer_fst, countOn, List.countP_append, ← countOn, ← countOn]
      rcases List.mem_cons.1 hpeer with rfl | hpeer
      · have hnone :
            countOn ((board.offer text peer).2.offerAll text peers).1 peer.channel = 0 := by
          refine countOn_eq_zero fun other hother heq => hfirst ?_
          rw [← heq]
          exact List.mem_map_of_mem ((offerAll_sublist _ text peers).subset hother)
        rw [hnone]
        split <;> simp [countOn]
      · have hne : peer.channel ≠ first.channel := by
          intro heq
          exact hfirst (heq ▸ List.mem_map_of_mem hpeer)
        have hnone :
            countOn (if board.verdictOf first = .accepted then [first] else [])
              peer.channel = 0 := by
          split <;> simp [countOn, Ne.symm hne]
        rw [hnone, ih _ hlater hpeer, verdictOf_offer_of_ne board text hne, Nat.zero_add]

theorem broadcast_eq (board : Switchboard) (text : String) :
    board.broadcast text = board.offerAll text board.hub.peers := by
  have hall : (board.hub.peers.filter fun peer => !(List.contains [] peer.handle)) =
      board.hub.peers := List.filter_eq_self.2 fun peer _ => rfl
  rw [broadcast, broadcastExcept, broadcastVia, hall]

end Switchboard

end Lifeline
