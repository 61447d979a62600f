import Lifeline.Proofs.Hub.Calls
import Mathlib.Data.List.Induction
import Mathlib.Data.List.Nodup

/-!
# The register of the hub

The hub counts the handles that it gives out.  A peer is in the register from
the call that registers it until the first call that removes its handle
(`Stands`), and since no handle comes back, that call is the only one that
returns the peer.  So the counter, the handles that are listed and the handles
that the peers hold tell the same story after any calls (`register_kept`).
-/

namespace Lifeline.Switchboard

open Hub

/-- What a call about the register is answered. -/
inductive Answer
  | registered (peer : Peer)
  | removed (handle : Nat) (peer : Option Peer)
  deriving DecidableEq

/-- The answer to a call; frames and readers do not concern the register. -/
def answer? (board : Switchboard) : Call → Option Answer
  | .join capacity kept =>
      some (.registered ⟨(board.joinChannel capacity kept).1, board.channels.length⟩)
  | .share channel =>
      if channel < board.channels.length then
        some (.registered ⟨(board.share channel).1, channel⟩)
      else none
  | .remove handle => some (.removed handle (board.remove handle).1)
  | .send _ _ => none
  | .finish _ _ => none
  | .broadcast _ _ _ => none
  | .read _ _ => none
  | .dropReader _ => none

/-- A call with its answer. -/
def attend (call : Call) : Transition Switchboard Answer :=
  fun board => ((step call board).1, (board.answer? call).toList)

/-- The switchboard after some calls, and all answers. -/
def attendAll (calls : List Call) : Switchboard × List Answer :=
  Transition.run attend calls empty

/-- The peers that were registered, in the order of the calls. -/
def registered (history : List Answer) : List Peer :=
  history.filterMap fun
    | .registered peer => some peer
    | .removed _ _ => none

/-- The handles that were given out, in the order of the calls. -/
def given (history : List Answer) : List Nat := (registered history).map Peer.handle

/-- The handles of the peers that a removal returned. -/
def returned (history : List Answer) : List Nat :=
  history.filterMap fun
    | .registered _ => none
    | .removed _ peer => peer.map Peer.handle

/-- The peer was registered, and its handle has not been removed since. -/
def Stands (history : List Answer) (peer : Peer) : Prop :=
  ∃ earlier later, history = earlier ++ .registered peer :: later ∧
    ∀ result, .removed peer.handle result ∉ later

/-! ## Histories -/

theorem given_append (earlier later : List Answer) :
    given (earlier ++ later) = given earlier ++ given later := by
  rw [given, registered, List.filterMap_append, List.map_append]
  rfl

theorem returned_append (earlier later : List Answer) :
    returned (earlier ++ later) = returned earlier ++ returned later :=
  List.filterMap_append

theorem not_stands_nil (peer : Peer) : ¬ Stands [] peer := by
  rintro ⟨earlier, later, hsplit, -⟩
  simp at hsplit

/-- With one more answer a peer stands that it registers, or that stood and is not removed. -/
theorem stands_concat {history : List Answer} {answer : Answer} {peer : Peer} :
    Stands (history ++ [answer]) peer ↔
      answer = .registered peer ∨
        Stands history peer ∧ ∀ result, answer ≠ .removed peer.handle result := by
  constructor
  · rintro ⟨earlier, later, hsplit, hlater⟩
    rcases List.eq_nil_or_concat' later with rfl | ⟨between, last, rfl⟩
    · exact .inl (List.singleton_inj.1 (List.append_inj' hsplit rfl).2)
    · rw [← List.cons_append, ← List.append_assoc] at hsplit
      obtain ⟨rfl, hlast⟩ := List.append_inj' hsplit rfl
      obtain rfl := List.singleton_inj.1 hlast
      refine .inr ⟨⟨earlier, between, rfl, fun result hmember => ?_⟩, fun result heq => ?_⟩
      · exact hlater result (List.mem_append_left _ hmember)
      · exact hlater result (List.mem_append_right _ (List.mem_singleton.2 heq.symm))
  · rintro (rfl | ⟨⟨earlier, later, rfl, hlater⟩, hanswer⟩)
    · exact ⟨history, [], rfl, fun _ => List.not_mem_nil⟩
    · refine ⟨earlier, later ++ [answer], by simp, fun result hmember => ?_⟩
      rcases List.mem_append.1 hmember with hold | hnew
      · exact hlater result hold
      · exact hanswer result (List.mem_singleton.1 hnew).symm

/-! ## Looking up a handle -/

theorem isSome_getPeer_iff {hub : Hub} {handle : Nat} :
    (hub.getPeer handle).isSome = true ↔ handle ∈ hub.handles := by
  rw [getPeer, List.find?_isSome, handles, List.mem_map]
  simp

theorem handle_of_getPeer {hub : Hub} {handle : Nat} {peer : Peer}
    (hfound : hub.getPeer handle = some peer) : peer.handle = handle := by
  simpa using List.find?_some hfound

theorem getPeer_eq_some_iff {hub : Hub} (hdistinct : hub.handles.Nodup) {handle : Nat}
    {peer : Peer} :
    hub.getPeer handle = some peer ↔ peer ∈ hub.peers ∧ peer.handle = handle := by
  constructor
  · intro hfound
    exact ⟨List.mem_of_find?_eq_some hfound, handle_of_getPeer hfound⟩
  · rintro ⟨hmember, rfl⟩
    have hlisted : peer.handle ∈ hub.handles := List.mem_map_of_mem hmember
    obtain ⟨found, hfound⟩ := Option.isSome_iff_exists.1 (isSome_getPeer_iff.2 hlisted)
    have hsame : found = peer :=
      List.inj_on_of_nodup_map hdistinct (List.mem_of_find?_eq_some hfound) hmember
        (handle_of_getPeer hfound)
    rw [hfound, hsame]

/-! ## One call -/

/-- What an answer says of the hub before and after its call. -/
def Answer.Turns (answer : Answer) (before after : Hub) : Prop :=
  match answer with
  | .registered peer =>
      peer.handle = before.allocated + 1 ∧ after = ⟨peer.handle, before.peers ++ [peer]⟩
  | .removed handle result => before.removePeer handle = (result, after)

/-- A call turns the hub as its answer says; without an answer it leaves the hub as it is. -/
theorem hub_step (call : Call) (board : Switchboard) :
    (∃ answer, board.answer? call = some answer ∧ answer.Turns board.hub (step call board).1.hub) ∨
      board.answer? call = none ∧ (step call board).1.hub = board.hub := by
  cases call with
  | join capacity kept => exact .inl ⟨_, rfl, rfl, rfl⟩
  | share channel =>
      by_cases hchannel : channel < board.channels.length
      · refine .inl ⟨_, if_pos hchannel, rfl, ?_⟩
        simp only [step, Transition.silently, if_pos hchannel]
        rfl
      · refine .inr ⟨if_neg hchannel, ?_⟩
        simp only [step, Transition.silently, if_neg hchannel]
  | remove handle => exact .inl ⟨_, rfl, rfl⟩
  | send handle text =>
      rw [step_send]
      exact .inr ⟨rfl, hub_offerAll board text _⟩
  | finish peer text => exact .inr ⟨rfl, hub_offer board text peer⟩
  | broadcast visit text excluded => exact .inr ⟨rfl, hub_offerAll board text _⟩
  | read channel limit =>
      refine .inr ⟨rfl, ?_⟩
      rcases read_cases board channel limit with ⟨_, _, _, -, -, hread⟩ | hread
      · simp only [step, hread]
        rfl
      · simp only [step, hread]
  | dropReader channel =>
      refine .inr ⟨rfl, ?_⟩
      simp only [step, Transition.silently, dropReader]
      split <;> rfl

/-- The counter, the peers and the answers agree. -/
structure Kept (hub : Hub) (history : List Answer) : Prop where
  numbered : given history = List.range' 1 hub.allocated
  ascending : hub.handles.Pairwise (· < ·)
  mem_peers_iff : ∀ peer, peer ∈ hub.peers ↔ Stands history peer
  returned_once : ∀ handle, (returned history).count handle =
    if handle ∈ given history ∧ handle ∉ hub.handles then 1 else 0

namespace Kept

variable {hub next : Hub} {history : List Answer} (hkept : Kept hub history)

include hkept

theorem mem_given_iff {handle : Nat} :
    handle ∈ given history ↔ 1 ≤ handle ∧ handle ≤ hub.allocated := by
  rw [hkept.numbered, List.mem_range'_1]
  omega

theorem mem_handles_iff {handle : Nat} :
    handle ∈ hub.handles ↔ ∃ peer, Stands history peer ∧ peer.handle = handle := by
  simp only [handles, List.mem_map, hkept.mem_peers_iff]

theorem mem_given_of_mem_handles {handle : Nat} (hlisted : handle ∈ hub.handles) :
    handle ∈ given history := by
  obtain ⟨peer, ⟨earlier, later, rfl, -⟩, rfl⟩ := hkept.mem_handles_iff.1 hlisted
  rw [given_append]
  exact List.mem_append_right _ (by simp [given, registered])

theorem registered {peer : Peer} (hturns : (Answer.registered peer).Turns hub next) :
    Kept next (history ++ [.registered peer]) := by
  obtain ⟨hnew, rfl⟩ := hturns
  have hgiven : given (history ++ [.registered peer]) = given history ++ [peer.handle] :=
    given_append history [.registered peer]
  have hhandles :
      Hub.handles ⟨peer.handle, hub.peers ++ [peer]⟩ = hub.handles ++ [peer.handle] := by
    simp [handles]
  have hfresh : peer.handle ∉ given history := by
    rw [hkept.mem_given_iff]
    omega
  refine ⟨?_, ?_, fun other => ?_, fun handle => ?_⟩
  · rw [hgiven, hkept.numbered, hnew, List.range'_1_concat, Nat.add_comm 1]
  · rw [hhandles, List.pairwise_append]
    refine ⟨hkept.ascending, List.pairwise_singleton _ _, fun old hold added hadded => ?_⟩
    have hbound := (hkept.mem_given_iff.1 (hkept.mem_given_of_mem_handles hold)).2
    rw [List.mem_singleton.1 hadded]
    omega
  · rw [List.mem_append, List.mem_singleton, hkept.mem_peers_iff, stands_concat]
    simp [or_comm, eq_comm]
  · rw [returned_append, hgiven, hhandles]
    have hold := hkept.returned_once handle
    by_cases hsame : handle = peer.handle
    · subst hsame
      simpa [hfresh, returned] using hold
    · simpa [hsame, returned] using hold

theorem removed {handle : Nat} {result : Option Peer}
    (hturns : (Answer.removed handle result).Turns hub next) :
    Kept next (history ++ [.removed handle result]) := by
  obtain ⟨rfl, rfl⟩ := Prod.ext_iff.1 hturns
  have hgiven : given (history ++ [.removed handle (hub.removePeer handle).1]) = given history := by
    rw [given_append]
    exact List.append_nil _
  have hhandles := handles_removePeer hub handle
  refine ⟨hgiven.trans hkept.numbered, ?_, fun other => ?_, fun other => ?_⟩
  · rw [hhandles]
    exact hkept.ascending.filter _
  · have hspared : (∀ kept, Answer.removed handle (hub.removePeer handle).1 ≠
        .removed other.handle kept) ↔ other.handle ≠ handle := by
      simp only [ne_eq, Answer.removed.injEq, not_and]
      exact ⟨fun hspared heq => hspared _ heq.symm rfl, fun hne _ heq => absurd heq.symm hne⟩
    rw [stands_concat, ← hkept.mem_peers_iff, hspared]
    simp [removePeer]
  · have hreturned : returned [.removed handle (hub.removePeer handle).1] =
        if handle ∈ hub.handles then [handle] else [] := by
      split
      · next hlisted =>
          obtain ⟨peer, hfound⟩ := Option.isSome_iff_exists.1 (isSome_getPeer_iff.2 hlisted)
          simp [returned, removePeer, hfound, handle_of_getPeer hfound]
      · next hgone =>
          have hnone : hub.getPeer handle = none :=
            Option.not_isSome_iff_eq_none.1 (mt isSome_getPeer_iff.1 hgone)
          simp [returned, removePeer, hnone]
    rw [returned_append, List.count_append, hkept.returned_once other, hgiven, hhandles, hreturned]
    by_cases hlisted : handle ∈ hub.handles
    · have hknown := hkept.mem_given_of_mem_handles hlisted
      by_cases hsame : other = handle
      · subst hsame
        simp [hlisted, hknown]
      · simp [hlisted, hsame, Ne.symm hsame]
    · by_cases hsame : other = handle
      · subst hsame
        simp [hlisted]
      · simp [hlisted, hsame]

theorem turns {answer : Answer} (hturns : answer.Turns hub next) :
    Kept next (history ++ [answer]) := by
  cases answer with
  | registered peer => exact hkept.registered hturns
  | removed handle result => exact hkept.removed hturns

end Kept

theorem kept_empty : Kept Hub.empty [] where
  numbered := rfl
  ascending := List.Pairwise.nil
  mem_peers_iff peer := by simp [Hub.empty, not_stands_nil]
  returned_once handle := by simp [returned, given, registered]

theorem attendAll_concat (calls : List Call) (call : Call) :
    attendAll (calls ++ [call]) =
      ((step call (attendAll calls).1).1,
        (attendAll calls).2 ++ ((attendAll calls).1.answer? call).toList) :=
  Transition.run_concat attend calls call empty

theorem attendAll_kept (calls : List Call) :
    Kept (attendAll calls).1.hub (attendAll calls).2 := by
  induction calls using List.reverseRecOn with
  | nil => exact kept_empty
  | append_singleton calls call ih =>
      rw [attendAll_concat]
      rcases hub_step call (attendAll calls).1 with ⟨answer, hanswer, hturns⟩ | ⟨hanswer, hhub⟩
      · rw [hanswer]
        exact ih.turns hturns
      · rw [hanswer, hhub]
        simpa using ih

/-! ## The register -/

/-- What holds of the hub after the calls that were answered so. -/
structure Registers (hub : Hub) (history : List Answer) : Prop where
  /-- The n-th registration gives out the handle n. -/
  numbered : given history = List.range' 1 (given history).length
  /-- No handle is given out twice. -/
  distinct : (given history).Nodup
  ascending : hub.handles.Pairwise (· < ·)
  /-- The handles that are listed were given out and not removed since. -/
  listed_iff : ∀ handle, handle ∈ hub.handles ↔ ∃ peer, Stands history peer ∧ peer.handle = handle
  size : hub.size = hub.handles.length
  isEmpty_iff : hub.isEmpty = true ↔ hub.handles = []
  found_iff : ∀ handle, (hub.getPeer handle).isSome = true ↔ handle ∈ hub.handles
  /-- Under a handle the hub finds the peer that was registered with it. -/
  getPeer_iff : ∀ handle peer,
    hub.getPeer handle = some peer ↔ Stands history peer ∧ peer.handle = handle
  /-- A removal returns the peer that the hub finds, and takes the handle off the list. -/
  removePeer : ∀ handle, (hub.removePeer handle).1 = hub.getPeer handle ∧
    handle ∉ (hub.removePeer handle).2.handles
  /-- A handle that was given out and is not listed any more was returned once, any other never. -/
  returned_once : ∀ handle, (returned history).count handle =
    if handle ∈ given history ∧ handle ∉ hub.handles then 1 else 0

/-- After any calls the register lists what was registered and not removed since, under handles
that count the registrations and never come back. -/
theorem register_kept (calls : List Call) :
    Registers (attendAll calls).1.hub (attendAll calls).2 := by
  have hkept := attendAll_kept calls
  have hlength := congrArg List.length hkept.numbered
  rw [List.length_range'] at hlength
  have hdistinct : (attendAll calls).1.hub.handles.Nodup :=
    hkept.ascending.imp fun hless => Nat.ne_of_lt hless
  exact {
    numbered := by rw [hlength, hkept.numbered]
    distinct := by
      rw [hkept.numbered]
      exact List.nodup_range'
    ascending := hkept.ascending
    listed_iff := fun handle => hkept.mem_handles_iff
    size := (List.length_map _).symm
    isEmpty_iff := by simp [Hub.isEmpty, handles]
    found_iff := fun handle => isSome_getPeer_iff
    getPeer_iff := by
      intro handle peer
      rw [getPeer_eq_some_iff hdistinct, hkept.mem_peers_iff]
    removePeer := by
      intro handle
      refine ⟨rfl, ?_⟩
      rw [handles_removePeer]
      simp
    returned_once := hkept.returned_once }

/-- A handle does not come back with the peer that is registered after its removal. -/
example : (attendAll [.join 4 false, .share 0, .remove 1, .remove 1, .share 0]).2 =
    [.registered ⟨1, 0⟩, .registered ⟨2, 0⟩, .removed 1 (some ⟨1, 0⟩), .removed 1 none,
      .registered ⟨3, 0⟩] := by
  decide

end Lifeline.Switchboard
