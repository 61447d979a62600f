import Lifeline.Proofs.Hub.Accounts

/-!
# Orders of visit

The map of peers promises no order in which a broadcast visits them, and on a
shared channel that is nearly full the order decides which peer is refused.  How
many frames a channel gets is decided by its room and by how many of its peers
the broadcast is for (`countOn_offerAll`).  So neither the number of peers that
accept the frame nor the queues tell one order from another
(`visit_order_immaterial`).
-/

namespace Lifeline

namespace Hub.Channel

/-- How many more frames the channel takes. -/
def room (channel : Channel) : Nat :=
  if channel.listening then channel.capacity - channel.queue.length else 0

theorem verdict_eq_accepted_iff_room {channel : Channel} :
    channel.verdict = .accepted ↔ 0 < channel.room := by
  rw [verdict_eq_accepted_iff, room]
  split
  · next hlistening =>
      rw [Nat.sub_pos_iff_lt]
      exact and_iff_right hlistening
  · next hdeaf => exact iff_of_false (fun haccepted => hdeaf haccepted.1) (Nat.lt_irrefl 0)

theorem room_append (channel : Channel) (text : String) (copies : Nat) :
    (channel.append text copies).room = channel.room - copies := by
  simp only [room, append, List.length_append, List.length_replicate]
  split
  · exact Nat.sub_add_eq channel.capacity channel.queue.length copies
  · exact (Nat.zero_sub copies).symm

end Hub.Channel

namespace Switchboard

open Hub

/-- How many more frames a channel of the switchboard takes. -/
def roomOn (board : Switchboard) (index : Nat) : Nat :=
  ((board.channel? index).map Channel.room).getD 0

theorem roomOn_eq {board : Switchboard} {index : Nat} {channel : Channel}
    (hchannel : board.channel? index = some channel) : board.roomOn index = channel.room := by
  rw [roomOn, hchannel, Option.map_some, Option.getD_some]

theorem offer_accepted_iff {board : Switchboard} {text : String} {peer : Peer} :
    (board.offer text peer).1 = .accepted ↔ 0 < board.roomOn peer.channel := by
  rw [offer_fst, verdictOf, roomOn]
  cases board.channel? peer.channel with
  | none => simp
  | some channel => exact Channel.verdict_eq_accepted_iff_room

/-- An offer takes one place on the channel of its peer, if there is one. -/
theorem roomOn_offer (board : Switchboard) (text : String) (peer : Peer) (index : Nat) :
    (board.offer text peer).2.roomOn index =
      board.roomOn index -
        countOn (if (board.offer text peer).1 = .accepted then [peer] else []) index := by
  rw [roomOn, channel?_offer, roomOn]
  cases board.channel? index with
  | none => simp
  | some channel => exact channel.room_append text _

/-- Of the peers on a channel as many accept a frame as the channel has room for. -/
theorem countOn_offerAll (board : Switchboard) (text : String) (peers : List Peer) (index : Nat) :
    countOn (board.offerAll text peers).1 index =
      min (board.roomOn index) (countOn peers index) := by
  induction peers generalizing board with
  | nil => exact (Nat.min_zero _).symm
  | cons peer peers ih =>
      have hlater := ih (board.offer text peer).2
      rw [roomOn_offer] at hlater
      have hfirst : countOn (if (board.offer text peer).1 = .accepted then [peer] else []) index =
          min (board.roomOn index) (countOn [peer] index) := by
        by_cases hchannel : peer.channel = index
        · have hone : countOn [peer] index = 1 := by simp [countOn, hchannel]
          rw [hone]
          split
          · next haccepted =>
              have hroom := offer_accepted_iff.1 haccepted
              rw [hchannel] at hroom
              rw [hone, Nat.min_eq_right hroom]
          · next hrefused =>
              have hfull := mt offer_accepted_iff.2 hrefused
              rw [hchannel] at hfull
              rw [Nat.eq_zero_of_not_pos hfull, Nat.zero_min]
              rfl
        · have hnone : countOn [peer] index = 0 := by simp [countOn, hchannel]
          rw [hnone, Nat.min_zero]
          split
          · exact hnone
          · rfl
      have hpeers : countOn (peer :: peers) index = countOn [peer] index + countOn peers index := by
        rw [← List.singleton_append, countOn, List.countP_append]
        rfl
      rw [offerAll_fst_cons, countOn, List.countP_append, ← countOn, ← countOn, hlater, hpeers,
        hfirst]
      omega

/-! ## Broadcasts -/

/-- The registered peers on a channel that a broadcast is for. -/
def recipients (board : Switchboard) (excluded : List Nat) (index : Nat) : List Peer :=
  board.hub.peers.filter fun peer => peer.channel = index ∧ peer.handle ∉ excluded

theorem recipients_congr (board : Switchboard) {excluded barred : List Nat}
    (hexcluded : ∀ handle, handle ∈ excluded ↔ handle ∈ barred) (index : Nat) :
    board.recipients excluded index = board.recipients barred index := by
  simp only [recipients, hexcluded]

section

variable {board : Switchboard} {order : List Peer} (horder : order.Perm board.hub.peers)

include horder

/-- Whatever the order, on each channel the peers that accept the frame are counted by its room
and its recipients. -/
theorem countOn_broadcastVia (text : String) (excluded : List Nat) (index : Nat) :
    countOn (board.broadcastVia order text excluded).1 index =
      min (board.roomOn index) (board.recipients excluded index).length := by
  have hcount : countOn (order.filter fun peer => !excluded.contains peer.handle) index =
      (board.recipients excluded index).length := by
    rw [recipients, ← List.countP_eq_length_filter, countOn, List.countP_filter,
      horder.countP_eq]
    apply List.countP_congr
    intro peer _
    simp
  rw [broadcastVia, countOn_offerAll, hcount]

theorem length_broadcastVia (text : String) (excluded : List Nat) :
    (board.broadcastVia order text excluded).1.length =
      ∑ index ∈ Finset.range board.channels.length,
        min (board.roomOn index) (board.recipients excluded index).length := by
  have hlength : (board.broadcastVia order text excluded).1.length =
      ∑ index ∈ Finset.range board.channels.length,
        countOn (board.broadcastVia order text excluded).1 index :=
    length_eq_sum_countOn fun _ => channel_lt_of_mem_offerAll
  simpa only [countOn_broadcastVia horder] using hlength

theorem channel?_broadcastVia (text : String) (excluded : List Nat) (index : Nat) :
    (board.broadcastVia order text excluded).2.channel? index =
      (board.channel? index).map fun channel => channel.append text
        (min channel.room (board.recipients excluded index).length) := by
  have hcount := countOn_broadcastVia horder text excluded index
  rw [broadcastVia] at hcount
  rw [broadcastVia, channel?_offerAll, hcount]
  cases hchannel : board.channel? index with
  | none => rfl
  | some channel => rw [roomOn_eq hchannel, Option.map_some, Option.map_some]

end

theorem eq_of_channels {board other : Switchboard} (hhub : board.hub = other.hub)
    (hchannels : ∀ index, board.channel? index = other.channel? index) : board = other := by
  obtain ⟨hub, channels⟩ := board
  obtain ⟨otherHub, otherChannels⟩ := other
  obtain rfl : hub = otherHub := hhub
  obtain rfl : channels = otherChannels := List.ext_getElem? hchannels
  rfl

/-- In whichever order a broadcast visits the registered peers, as many of them accept the frame and
every channel ends up the same.  A channel that is read gets one copy for each of its peers that is
not excluded, as far as there is room; the others get none.  Of the handles to exclude it matters
only which they are. -/
theorem visit_order_immaterial (board : Switchboard) (text : String) {order other : List Peer}
    (horder : order.Perm board.hub.peers) (hother : other.Perm board.hub.peers)
    {excluded barred : List Nat} (hexcluded : ∀ handle, handle ∈ excluded ↔ handle ∈ barred) :
    let first := board.broadcastVia order text excluded
    let second := board.broadcastVia other text barred
    first.1.length = second.1.length ∧ first.2 = second.2 ∧
      first.1.length = ∑ index ∈ Finset.range board.channels.length,
        min (board.roomOn index) (board.recipients excluded index).length ∧
      ∀ index channel, board.channel? index = some channel →
        first.2.channel? index = some (channel.append text
          (if channel.listening then
            min (channel.capacity - channel.queue.length) (board.recipients excluded index).length
          else 0)) := by
  intro first second
  have hsame := board.recipients_congr hexcluded
  refine ⟨?_, ?_, length_broadcastVia horder text excluded, ?_⟩
  · calc first.1.length =
        ∑ index ∈ Finset.range board.channels.length,
            min (board.roomOn index) (board.recipients excluded index).length :=
          length_broadcastVia horder text excluded
      _ = ∑ index ∈ Finset.range board.channels.length,
            min (board.roomOn index) (board.recipients barred index).length := by simp only [hsame]
      _ = second.1.length := (length_broadcastVia hother text barred).symm
  · apply eq_of_channels
    · exact (hub_offerAll board text _).trans (hub_offerAll board text _).symm
    · intro index
      rw [channel?_broadcastVia horder, channel?_broadcastVia hother, hsame]
  · intro index channel hchannel
    rw [channel?_broadcastVia horder, hchannel, Option.map_some, Channel.room]
    split
    · rfl
    · rw [Nat.zero_min]

/-- Two peers share a channel with one place left, the channel of a third is not read any more. -/
def contested : Switchboard :=
  ⟨⟨4, [⟨1, 0⟩, ⟨2, 0⟩, ⟨3, 1⟩, ⟨4, 2⟩]⟩,
    [⟨2, ["a"], true, false⟩, ⟨2, [], false, false⟩, ⟨2, [], true, false⟩]⟩

/-- The last place goes to another peer if the visit is reversed, and the queues are the same. -/
theorem last_place_contested :
    let first := contested.broadcastVia contested.hub.peers "b" [9, 9]
    let second := contested.broadcastVia contested.hub.peers.reverse "b" [9]
    first.1 = [⟨1, 0⟩, ⟨4, 2⟩] ∧ second.1 = [⟨4, 2⟩, ⟨2, 0⟩] ∧
      first.1.length = second.1.length ∧ first.2 = second.2 ∧
      first.2.channel? 0 = some ⟨2, ["a", "b"], true, false⟩ := by
  intro first second
  have hreversed : contested.hub.peers.reverse.Perm contested.hub.peers := List.reverse_perm _
  have hexcluded : ∀ handle, handle ∈ [9, 9] ↔ handle ∈ [9] := by simp
  obtain ⟨hcount, hqueues, -, hchannels⟩ :=
    visit_order_immaterial contested "b" (List.Perm.refl _) hreversed hexcluded
  exact ⟨by decide, by decide, hcount, hqueues, hchannels 0 _ rfl⟩

end Switchboard

end Lifeline
