import Lifeline.Proofs.Hub.Calls
import Mathlib.Algebra.BigOperators.Ring.Finset
import Mathlib.Data.List.Induction

/-!
# Accounts of frames

The hub loses no frame and invents none.  On every channel that is still read,
what was taken and what still waits is what was accepted for its peers, in order
(`Balanced`), and a broadcast returns how many frames it appended, missing a
peer only if its channel has no room or no reader when its turn comes
(`Delivered`).
-/

namespace Lifeline.Switchboard

open Hub

/-- The texts that were accepted for peers of a channel. -/
def acceptedOn (index : Nat) (journal : List Entry) : List String :=
  journal.filterMap fun
    | .accepted peer text => if peer.channel = index then some text else none
    | .taken _ _ => none

/-- The frames that were taken from a channel. -/
def takenFrom (index : Nat) (journal : List Entry) : List String :=
  journal.flatMap fun
    | .taken channel frames => if channel = index then frames else []
    | .accepted _ _ => []

theorem acceptedOn_append (index : Nat) (earlier later : List Entry) :
    acceptedOn index (earlier ++ later) = acceptedOn index earlier ++ acceptedOn index later :=
  List.filterMap_append

theorem takenFrom_append (index : Nat) (earlier later : List Entry) :
    takenFrom index (earlier ++ later) = takenFrom index earlier ++ takenFrom index later :=
  List.flatMap_append

/-- The journal of an offer holds the text once for each peer of the channel that took it. -/
theorem acceptedOn_map (index : Nat) (text : String) (peers : List Peer) :
    acceptedOn index (peers.map fun peer => .accepted peer text) =
      List.replicate (countOn peers index) text := by
  induction peers with
  | nil => rfl
  | cons peer peers ih =>
      rw [List.map_cons, countOn, List.countP_cons, ← countOn]
      by_cases hchannel : peer.channel = index
      · simpa [acceptedOn, hchannel, List.replicate_succ] using ih
      · simpa [acceptedOn, hchannel] using ih

theorem takenFrom_map (index : Nat) (text : String) (peers : List Peer) :
    takenFrom index (peers.map fun peer => .accepted peer text) = [] := by
  simp [takenFrom]

/-! ## Offers and queues -/

/-- No queue is longer than its channel allows. -/
def Bounded (board : Switchboard) : Prop :=
  ∀ channel ∈ board.channels, channel.queue.length ≤ channel.capacity

theorem Bounded.set {board : Switchboard} (hbounded : board.Bounded) {channel : Channel}
    (hchannel : channel.queue.length ≤ channel.capacity) (index : Nat) :
    (board.setChannel index channel).Bounded := by
  intro other hother
  rcases List.mem_or_eq_of_mem_set hother with hold | rfl
  · exact hbounded other hold
  · exact hchannel

theorem Bounded.offer {board : Switchboard} (hbounded : board.Bounded) (text : String)
    (peer : Peer) : (board.offer text peer).2.Bounded := by
  unfold Switchboard.offer
  split
  · next channel hchannel =>
      apply hbounded.set
      unfold Channel.offer
      split
      · next haccepted =>
          have hroom := (Channel.verdict_eq_accepted_iff.1 haccepted).2
          rw [Channel.push, List.length_append]
          exact hroom
      · exact hbounded channel (List.mem_of_getElem? hchannel)
  · exact hbounded

theorem Bounded.offerAll {board : Switchboard} (hbounded : board.Bounded) (text : String)
    (peers : List Peer) : (board.offerAll text peers).2.Bounded := by
  induction peers generalizing board with
  | nil => exact hbounded
  | cons peer peers ih => exact ih (hbounded.offer text peer)

/-- Each of the peers that accept an offer has a channel. -/
theorem channel_lt_of_mem_offerAll {board : Switchboard} {text : String} {peers : List Peer}
    {peer : Peer} (hpeer : peer ∈ (board.offerAll text peers).1) :
    peer.channel < board.channels.length := by
  induction peers generalizing board with
  | nil => exact absurd hpeer List.not_mem_nil
  | cons first peers ih =>
      rw [offerAll_fst_cons, List.mem_append] at hpeer
      rcases hpeer with hfirst | hlater
      · split at hfirst
        · next haccepted =>
            obtain rfl := List.mem_singleton.1 hfirst
            rw [offer_fst] at haccepted
            obtain ⟨channel, hchannel, -⟩ := verdictOf_eq_accepted_iff.1 haccepted
            exact (List.getElem?_eq_some_iff.1 hchannel).1
        · exact absurd hfirst List.not_mem_nil
      · rw [← length_channels_offer board text first]
        exact ih hlater

/-- Peers are counted once each over the channels they are on. -/
theorem length_eq_sum_countOn {peers : List Peer} {bound : Nat}
    (hpeers : ∀ peer ∈ peers, peer.channel < bound) :
    peers.length = ∑ index ∈ Finset.range bound, countOn peers index := by
  induction peers with
  | nil => simp [countOn]
  | cons peer peers ih =>
      obtain ⟨hpeer, hlater⟩ := List.forall_mem_cons.1 hpeers
      have hone : ∑ index ∈ Finset.range bound, (if peer.channel = index then 1 else 0) = 1 := by
        rw [Finset.sum_ite_eq, if_pos (Finset.mem_range.2 hpeer)]
      simp only [countOn, List.countP_cons, beq_iff_eq, List.length_cons] at ih ⊢
      rw [Finset.sum_add_distrib, hone, ← ih hlater]

/-! ## Accounts -/

/-- The channels and the journal agree. -/
structure Balanced (board : Switchboard) (journal : List Entry) : Prop where
  bounded : board.Bounded
  /-- Taken and still waiting, in order, is what was accepted. -/
  conserved : ∀ index channel, board.channel? index = some channel → channel.listening = true →
    takenFrom index journal ++ channel.queue = acceptedOn index journal
  /-- The journal does not speak of channels that there are not. -/
  fresh : ∀ index, board.channels.length ≤ index →
    takenFrom index journal = [] ∧ acceptedOn index journal = []
  /-- Every registered peer has a channel. -/
  housed : ∀ peer ∈ board.hub.peers, peer.channel < board.channels.length

namespace Balanced

variable {board : Switchboard} {journal : List Entry} (hbalanced : Balanced board journal)

include hbalanced

/-- Only the registered peers change, and none is added without a channel. -/
theorem rehub {hub : Hub} (hhub : ∀ peer ∈ hub.peers, peer.channel < board.channels.length) :
    Balanced { board with hub := hub } journal :=
  ⟨hbalanced.bounded, hbalanced.conserved, hbalanced.fresh, hhub⟩

theorem join (capacity : Nat) (kept : Bool) :
    Balanced (board.joinChannel capacity kept).2 journal where
  bounded := by
    intro channel hchannel
    rcases List.mem_append.1 hchannel with hold | hnew
    · exact hbalanced.bounded channel hold
    · obtain rfl := List.mem_singleton.1 hnew
      exact Nat.zero_le capacity
  conserved := by
    intro index channel hchannel hlistening
    rw [channel?_joinChannel] at hchannel
    split at hchannel
    · next hnew =>
        cases hchannel
        obtain ⟨htaken, haccepted⟩ := hbalanced.fresh index (Nat.le_of_eq hnew.symm)
        rw [htaken, haccepted]
        rfl
    · exact hbalanced.conserved index channel hchannel hlistening
  fresh := by
    intro index hbeyond
    refine hbalanced.fresh index (Nat.le_trans ?_ hbeyond)
    simp [joinChannel]
  housed := by
    intro peer hpeer
    simp only [joinChannel, addPeer, List.mem_append, List.mem_singleton, List.length_append,
      List.length_singleton] at hpeer ⊢
    rcases hpeer with hold | rfl
    · exact Nat.lt_succ_of_lt (hbalanced.housed peer hold)
    · exact Nat.lt_succ_self _

theorem share {channel : Nat} (hchannel : channel < board.channels.length) :
    Balanced (board.share channel).2 journal := by
  refine hbalanced.rehub fun peer hpeer => ?_
  rcases List.mem_append.1 hpeer with hold | hnew
  · exact hbalanced.housed peer hold
  · obtain rfl := List.mem_singleton.1 hnew
    exact hchannel

theorem remove (handle : Nat) : Balanced (board.remove handle).2 journal :=
  hbalanced.rehub fun peer hpeer => hbalanced.housed peer (List.mem_of_mem_filter hpeer)

/-- What an offer appends to a queue it also adds to the journal. -/
theorem offering (text : String) (peers : List Peer) :
    Balanced (offering text peers board).1 (journal ++ (offering text peers board).2) where
  bounded := hbalanced.bounded.offerAll text peers
  conserved := by
    intro index channel hchannel hlistening
    rw [Switchboard.offering, channel?_offerAll] at hchannel
    obtain ⟨before, hbefore, rfl⟩ := Option.map_eq_some_iff.1 hchannel
    have hold := hbalanced.conserved index before hbefore hlistening
    simp only [Switchboard.offering, takenFrom_append, acceptedOn_append, takenFrom_map,
      acceptedOn_map, List.append_nil, Channel.append]
    rw [← List.append_assoc, hold]
  fresh := by
    intro index hbeyond
    have hlength := length_channels_offerAll board text peers
    obtain ⟨htaken, haccepted⟩ := hbalanced.fresh index (hlength ▸ hbeyond)
    have hnone : countOn (board.offerAll text peers).1 index = 0 := by
      refine List.countP_eq_zero.2 fun peer hpeer heq => ?_
      have hless := channel_lt_of_mem_offerAll hpeer
      rw [beq_iff_eq.1 heq, ← hlength] at hless
      exact Nat.not_le_of_lt hless hbeyond
    simp only [Switchboard.offering, takenFrom_append, acceptedOn_append, takenFrom_map,
      acceptedOn_map, htaken, haccepted, hnone, List.replicate_zero, List.append_nil, and_self]
  housed := by
    intro peer hpeer
    have hhub : (Switchboard.offering text peers board).1.hub = board.hub :=
      hub_offerAll board text peers
    have hlength : (Switchboard.offering text peers board).1.channels.length =
        board.channels.length := length_channels_offerAll board text peers
    rw [hlength]
    exact hbalanced.housed peer (hhub ▸ hpeer)

/-- One channel changes, to one that agrees with a longer journal. -/
theorem set {index : Nat} {channel : Channel} {entries : List Entry}
    (hindex : index < board.channels.length)
    (hbound : channel.queue.length ≤ channel.capacity)
    (hchannel : channel.listening = true →
      takenFrom index (journal ++ entries) ++ channel.queue = acceptedOn index (journal ++ entries))
    (hothers : ∀ other, other ≠ index →
      takenFrom other entries = [] ∧ acceptedOn other entries = []) :
    Balanced (board.setChannel index channel) (journal ++ entries) where
  bounded := hbalanced.bounded.set hbound index
  conserved := by
    intro other found hfound hlistening
    rw [channel?_setChannel] at hfound
    split at hfound
    · next heq =>
        subst heq
        obtain ⟨_, -, rfl⟩ := Option.map_eq_some_iff.1 hfound
        exact hchannel hlistening
    · next hne =>
        obtain ⟨htaken, haccepted⟩ := hothers other (Ne.symm hne)
        rw [takenFrom_append, acceptedOn_append, htaken, haccepted, List.append_nil,
          List.append_nil]
        exact hbalanced.conserved other found hfound hlistening
  fresh := by
    intro other hbeyond
    have hlength : (board.setChannel index channel).channels.length = board.channels.length :=
      List.length_set
    rw [hlength] at hbeyond
    obtain ⟨htaken, haccepted⟩ := hbalanced.fresh other hbeyond
    obtain ⟨htakenNow, hacceptedNow⟩ := hothers other (by omega)
    rw [takenFrom_append, acceptedOn_append, htaken, haccepted, htakenNow, hacceptedNow]
    exact ⟨rfl, rfl⟩
  housed := by
    intro peer hpeer
    have hlength : (board.setChannel index channel).channels.length = board.channels.length :=
      List.length_set
    rw [hlength]
    exact hbalanced.housed peer hpeer

theorem read (index : Nat) (limit : Option Nat) :
    Balanced (step (.read index limit) board).1
      (journal ++ (step (.read index limit) board).2) := by
  rcases read_cases board index limit with
    ⟨channel, count, ending, hchannel, hlistening, hread⟩ | hread
  · have hold := hbalanced.conserved index channel hchannel hlistening
    have hbound := hbalanced.bounded channel (List.mem_of_getElem? hchannel)
    simp only [step, hread]
    apply hbalanced.set (List.getElem?_eq_some_iff.1 hchannel).1
    · exact Nat.le_trans (List.drop_sublist count channel.queue).length_le hbound
    · intro _
      rw [takenFrom_append, acceptedOn_append, ← hold]
      simp [takenFrom, acceptedOn]
    · intro other hother
      simp [takenFrom, acceptedOn, Ne.symm hother]
  · simpa only [step, hread, List.append_nil] using hbalanced

theorem dropReader (index : Nat) : Balanced (board.dropReader index) journal := by
  unfold Switchboard.dropReader
  split
  · next channel hchannel =>
      have hindex : index < board.channels.length := (List.getElem?_eq_some_iff.1 hchannel).1
      have hset : Balanced (board.setChannel index channel.dropReader) (journal ++ []) :=
        hbalanced.set hindex (Nat.zero_le _)
          (fun hlistening => absurd hlistening Bool.false_ne_true) (fun _ _ => ⟨rfl, rfl⟩)
      rwa [List.append_nil] at hset
  · exact hbalanced

theorem step (call : Call) :
    Balanced (step call board).1 (journal ++ (step call board).2) := by
  cases call with
  | join capacity kept =>
      rw [show (Switchboard.step _ board).2 = [] from rfl, List.append_nil]
      exact hbalanced.join capacity kept
  | share channel =>
      rw [show (Switchboard.step _ board).2 = [] from rfl, List.append_nil]
      by_cases hchannel : channel < board.channels.length
      · have hshared := hbalanced.share hchannel
        simpa [Switchboard.step, Transition.silently, hchannel] using hshared
      · simpa [Switchboard.step, Transition.silently, hchannel] using hbalanced
  | remove handle =>
      rw [show (Switchboard.step _ board).2 = [] from rfl, List.append_nil]
      exact hbalanced.remove handle
  | send handle text =>
      rw [step_send]
      exact hbalanced.offering text _
  | finish peer text =>
      rw [step_finish]
      exact hbalanced.offering text _
  | broadcast visit text excluded =>
      rw [step_broadcast]
      exact hbalanced.offering text _
  | read index limit => exact hbalanced.read index limit
  | dropReader index =>
      rw [show (Switchboard.step _ board).2 = [] from rfl, List.append_nil]
      exact hbalanced.dropReader index

end Balanced

theorem balanced_empty : Balanced empty [] where
  bounded := List.forall_mem_nil _
  conserved index channel hchannel := by simp [channel?, empty] at hchannel
  fresh _ _ := ⟨rfl, rfl⟩
  housed := List.forall_mem_nil _

theorem run_balanced (calls : List Call) : Balanced (run calls empty).1 (run calls empty).2 := by
  induction calls using List.reverseRecOn with
  | nil => exact balanced_empty
  | append_singleton calls call ih =>
      rw [run, Transition.run_concat]
      exact ih.step call

/-! ## Broadcasts and sends -/

/-- What holds of a broadcast with the peers that accepted it and the switchboard after it. -/
structure Delivered (board : Switchboard) (visit : Visit) (text : String) (excluded : List Nat)
    (accepted : List Peer) (next : Switchboard) : Prop where
  /-- The frame goes to registered peers that are not excluded, to each at most once. -/
  accepted_sublist : accepted.Sublist (board.visited visit excluded)
  /-- A peer misses the frame only if its channel has no reader or no room at its turn. -/
  missed : ∀ peer ∈ board.hub.peers, peer.handle ∉ excluded → peer ∉ accepted →
    ∃ earlier later channel, board.visited visit excluded = earlier ++ peer :: later ∧
      (board.offerAll text earlier).2.channel? peer.channel = some channel ∧
      (channel.listening = false ∨ channel.queue.length = channel.capacity)
  appended : ∀ index, next.channel? index = (board.channel? index).map fun channel =>
    channel.append text (countOn accepted index)
  /-- As many peers accepted the frame as there are new frames on all channels together. -/
  counted : accepted.length = ∑ index ∈ Finset.range board.channels.length, countOn accepted index
  hub : next.hub = board.hub

/-- What holds of a send with its verdict and the switchboard after it. -/
structure Sent (board : Switchboard) (handle : Nat) (text : String)
    (verdict : Option Channel.Verdict) (next : Switchboard) : Prop where
  /-- An accepted frame is appended once, on the channel of the peer, and nothing else changes. -/
  appended : ∀ index, next.channel? index = (board.channel? index).map fun channel =>
    channel.append text (if verdict = some .accepted ∧
      (board.hub.getPeer handle).map Peer.channel = some index then 1 else 0)
  hub : next.hub = board.hub

theorem Balanced.delivered {board : Switchboard} {journal : List Entry}
    (hbalanced : Balanced board journal) (visit : Visit) (text : String) (excluded : List Nat) :
    Delivered board visit text excluded
      (board.broadcastVia (visit.order board.hub.peers) text excluded).1
      (board.broadcastVia (visit.order board.hub.peers) text excluded).2 where
  accepted_sublist := offerAll_sublist board text _
  missed := by
    intro peer hregistered hincluded hmissed
    have hvisited : peer ∈ board.visited visit excluded := mem_visited.2 ⟨hregistered, hincluded⟩
    obtain ⟨earlier, later, hsplit, hturn⟩ := exists_turn_of_not_mem_offerAll hvisited hmissed
    have hlength := length_channels_offerAll board text earlier
    obtain ⟨channel, hchannel⟩ : ∃ channel,
        (board.offerAll text earlier).2.channel? peer.channel = some channel :=
      ⟨_, List.getElem?_eq_getElem (hlength ▸ hbalanced.housed peer hregistered)⟩
    have hbound := hbalanced.bounded.offerAll text earlier channel (List.mem_of_getElem? hchannel)
    refine ⟨earlier, later, channel, hsplit, hchannel, ?_⟩
    rw [Ne, verdictOf_eq_accepted_iff] at hturn
    by_cases hlistening : channel.listening = true
    · have hfull : ¬ channel.queue.length < channel.capacity :=
        fun hroom => hturn ⟨channel, hchannel, hlistening, hroom⟩
      exact .inr (by omega)
    · exact .inl (Bool.eq_false_iff.2 hlistening)
  appended := channel?_offerAll board text _
  counted := length_eq_sum_countOn fun _ => channel_lt_of_mem_offerAll
  hub := hub_offerAll board text _

theorem sent (board : Switchboard) (handle : Nat) (text : String) :
    Sent board handle text (board.sendTo handle text).1 (board.sendTo handle text).2 := by
  unfold sendTo
  cases hpeer : board.hub.getPeer handle with
  | none => exact ⟨fun index => by simp, rfl⟩
  | some peer =>
      refine ⟨fun index => ?_, hub_offer board text peer⟩
      dsimp only
      rw [channel?_offer]
      by_cases haccepted : (board.offer text peer).1 = .accepted <;>
        simp [haccepted, countOn, hpeer]

/-- The hub loses no frame and invents none, after any calls and for any that follow. -/
theorem frames_conserved (calls : List Call) :
    let board := (run calls empty).1
    let journal := (run calls empty).2
    (∀ index channel, board.channel? index = some channel →
      channel.queue.length ≤ channel.capacity ∧
        (channel.listening = true →
          takenFrom index journal ++ channel.queue = acceptedOn index journal)) ∧
      (∀ visit text excluded,
        let (accepted, next) := board.broadcastVia (visit.order board.hub.peers) text excluded
        Delivered board visit text excluded accepted next) ∧
      ∀ handle text,
        let (verdict, next) := board.sendTo handle text
        Sent board handle text verdict next := by
  intro board journal
  have hbalanced : Balanced board journal := run_balanced calls
  refine ⟨fun index channel hchannel => ⟨?_, ?_⟩, ?_, ?_⟩
  · exact hbalanced.bounded channel (List.mem_of_getElem? hchannel)
  · exact hbalanced.conserved index channel hchannel
  · exact hbalanced.delivered
  · exact sent board

/-- Two peers share a channel with room for one frame; a third has a channel of its own. -/
def crowded : List Call :=
  [.join 1 false, .share 0, .join 2 false, .broadcast .seniority "a" [], .send 3 "b",
    .read 1 (some 1)]

theorem shared_channel_fills_up :
    let board := (run crowded empty).1
    let journal := (run crowded empty).2
    takenFrom 1 journal ++ ["b"] = acceptedOn 1 journal ∧
      acceptedOn 1 journal = ["a", "b"] ∧
      ∃ earlier later channel, board.visited .seniority [3] = earlier ++ ⟨2, 0⟩ :: later ∧
        (board.offerAll "c" earlier).2.channel? 0 = some channel ∧
        (channel.listening = false ∨ channel.queue.length = channel.capacity) := by
  intro board journal
  obtain ⟨hchannels, hbroadcasts, -⟩ := frames_conserved crowded
  have hchannel : board.channel? 1 = some ⟨2, ["b"], true, false⟩ := by decide
  have hconserved := (hchannels 1 _ hchannel).2 rfl
  have hdelivered := hbroadcasts .seniority "c" [3]
  have hmissed : (⟨2, 0⟩ : Peer) ∉ (board.broadcastVia board.hub.peers "c" [3]).1 := by decide
  exact ⟨hconserved, by decide,
    hdelivered.missed ⟨2, 0⟩ (by decide) (by decide) hmissed⟩

end Lifeline.Switchboard
