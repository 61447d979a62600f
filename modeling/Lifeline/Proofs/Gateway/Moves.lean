import Lifeline.Proofs.Gateway.Standing

/-!
# Moves of the gateway

In a gateway that agrees with the phases each input leads to one of a few moves
(`step_move`): a socket is registered, greeted or taken off the list, a frame is
offered to all peers, or one queue moves on.  Each move keeps the agreement, so
every run has it (`standing`).
-/

namespace Lifeline.Gateway

open Hub (Channel)

/-! ## Moves -/

/-- The gateway with the socket greeted. -/
def marked (gateway : Gateway) (handle : Nat) : Gateway :=
  { gateway with
    sockets := gateway.sockets.map fun other =>
      if other.handle = handle then { other with greeted := true } else other }

/-- The gateway without the socket and its peer. -/
def without (gateway : Gateway) (handle : Nat) : Gateway :=
  { board := (gateway.board.remove handle).2
    sockets := gateway.sockets.filter (·.handle != handle) }

/-- On one channel some frames are written to the socket and others are queued for it. -/
def shift (handle : Nat) (channel : Channel) (count : Nat) (added : List String) : Step :=
  fun gateway =>
    ({ gateway with
        board := gateway.board.setChannel (handle - 1)
          { channel with queue := channel.queue.drop count ++ added } },
      (channel.queue.take count).map (.written handle) ++ added.map (.queued handle))

/-- What an input leads to in a gateway that agrees with the phases. -/
inductive Move (past : List Input) (gateway : Gateway) : Input → Gateway × List Effect → Prop
  | connected : Move past gateway .connect (connect gateway)
  | greeted (handle : Nat) (input : Input) (hact : act? past input = some (.greeted handle)) :
      Move past gateway input
        (gateway.marked handle, [.written handle (initMessage handle).toJson])
  | departed (handle : Nat) (input : Input) (hact : act? past input = some (.departed handle)) :
      Move past gateway input (broadcast (closeMessage handle).toJson (gateway.without handle))
  | relayed (sender : Nat) (envelope : Envelope) (input : Input)
      (hact : act? past input = some (.relayed sender envelope)) :
      Move past gateway input (broadcast (attributed sender envelope).toJson gateway)
  | answered (handle count : Nat) (channel : Channel) (input : Input)
      (hact : act? past input = some (.answered handle))
      (hchannel : gateway.board.channel? (handle - 1) = some channel)
      (hroom : (channel.queue.drop count).length < channel.capacity) :
      Move past gateway input (shift handle channel count [pongText] gateway)
  | wrote (handle : Nat) (channel : Channel) (hlive : phase handle past = .live)
      (hchannel : gateway.board.channel? (handle - 1) = some channel) :
      Move past gateway (.write handle) (shift handle channel 1 [] gateway)
  | ignored (input : Input) (hinput : input ≠ .connect) (hact : act? past input = none) :
      Move past gateway input (gateway, [])

theorem broadcast_fst (text : String) (gateway : Gateway) :
    (broadcast text gateway).1 =
      { gateway with board := (gateway.board.offerAll text gateway.board.hub.peers).2 } := by
  rw [broadcast, Switchboard.broadcast_eq]

section

variable {past : List Input} {gateway : Gateway} (hstanding : Standing past gateway)

include hstanding

theorem live?_eq (handle : Nat) :
    gateway.live? handle =
      if phase handle past = .live then some ⟨handle, handle - 1, true⟩ else none := by
  rw [live?, hstanding.socket?]
  cases phase handle past <;> rfl

theorem unread?_eq (handle : Nat) :
    (gateway.socket? handle).filter (!·.greeted) =
      if phase handle past = .waiting then some ⟨handle, handle - 1, false⟩ else none := by
  rw [hstanding.socket?]
  cases phase handle past <;> rfl

theorem depart_eq (handle : Nat) (hregistered : (phase handle past).Registered) :
    depart handle gateway = broadcast (closeMessage handle).toJson (gateway.without handle) := by
  have hpeer : (gateway.board.hub.getPeer handle).isSome = true := by
    obtain ⟨peer, hpeer, rfl⟩ := List.mem_map.1 (hstanding.mem_handles_iff.2 hregistered)
    exact List.find?_isSome.2 ⟨peer, hpeer, beq_self_eq_true _⟩
  obtain ⟨peer, hpeer⟩ := Option.isSome_iff_exists.1 hpeer
  simp only [depart, Switchboard.remove, Hub.removePeer, hpeer]
  rfl

theorem write_eq {handle : Nat} {channel : Channel} {greeted : Bool}
    (hchannel : gateway.board.channel? (handle - 1) = some channel) :
    write ⟨handle, handle - 1, greeted⟩ gateway = shift handle channel 1 [] gateway := by
  have hserves := hstanding.serves channel (List.mem_of_getElem? hchannel)
  simp [write, Switchboard.read, hchannel, hserves.listening, Channel.take, shift]

/-- A pong finds room, if need be after one frame has left the queue. -/
theorem answerPing_eq {handle : Nat} {channel : Channel} (greeted : Bool)
    (hchannel : gateway.board.channel? (handle - 1) = some channel) :
    ∃ count, (channel.queue.drop count).length < channel.capacity ∧
      answerPing ⟨handle, handle - 1, greeted⟩ gateway =
        shift handle channel count [pongText] gateway := by
  have hserves := hstanding.serves channel (List.mem_of_getElem? hchannel)
  have hverdict : gateway.board.verdictOf ⟨handle, handle - 1⟩ = channel.verdict := by
    simp [Switchboard.verdictOf, hchannel]
  by_cases hroom : channel.queue.length < channel.capacity
  · have haccepted := Channel.verdict_eq_accepted_iff.2 ⟨hserves.listening, hroom⟩
    have hoffer := Switchboard.offer_eq_of_room ⟨handle, handle - 1⟩ pongText hchannel
      hserves.listening hroom
    refine ⟨0, by rwa [List.drop_zero], ?_⟩
    simp [answerPing, hverdict, haccepted, hoffer, shift, Channel.push]
  · have hfull : channel.verdict = .full := by
      have hlong : channel.queue.length ≥ channel.capacity := Nat.not_lt.1 hroom
      simp [Channel.verdict, Channel.isFull, hserves.listening, hlong]
    -- the queue is not longer than the channel allows, so one frame less leaves room
    have hfreed : (channel.queue.drop 1).length < channel.capacity := by
      have hbounded := hserves.bounded
      have hcapacity : channel.capacity = 100 := hserves.capacity
      rw [List.length_drop]
      omega
    have hindex : handle - 1 < gateway.board.channels.length :=
      (List.getElem?_eq_some_iff.1 hchannel).1
    have hmoved : (gateway.board.setChannel (handle - 1)
        { channel with queue := channel.queue.drop 1 }).channel? (handle - 1) =
          some { channel with queue := channel.queue.drop 1 } := by
      rw [Switchboard.channel?_setChannel, if_pos rfl, hchannel, Option.map_some]
    have hoffer := Switchboard.offer_eq_of_room ⟨handle, handle - 1⟩ pongText hmoved
      hserves.listening hfreed
    refine ⟨1, hfreed, ?_⟩
    simp only [answerPing, hverdict, hfull, if_true, write_eq hstanding hchannel, shift,
      List.append_nil, hoffer]
    simp [Switchboard.setChannel, Channel.push]

theorem step_move (input : Input) : Move past gateway input (step input gateway) := by
  cases input with
  | connect => exact .connected
  | greet handle delivered =>
      simp only [step, unread?_eq hstanding]
      by_cases hwaiting : phase handle past = .waiting
      · rw [if_pos hwaiting]
        cases delivered with
        | true => exact .greeted handle _ (act?_eq_some_iff.2 ⟨rfl, hwaiting⟩)
        | false =>
            have hdepart := depart_eq hstanding handle (.inl hwaiting)
            simp only [greet, Bool.false_eq_true, if_false, hdepart]
            exact .departed handle _ (act?_eq_some_iff.2 (.inl ⟨rfl, hwaiting⟩))
      · rw [if_neg hwaiting]
        exact .ignored _ (by simp) (if_neg hwaiting)
  | text handle text =>
      simp only [step, whenLive, live?_eq hstanding]
      by_cases hlive : phase handle past = .live
      · rw [if_pos hlive]
        by_cases hping : text = pingText
        · subst hping
          obtain ⟨channel, hchannel, -⟩ := hstanding.exists_channel handle (.inr hlive)
          obtain ⟨count, hroom, hanswer⟩ := answerPing_eq hstanding true hchannel
          simp only [receive, if_true, hanswer]
          exact .answered handle count channel _ (act?_eq_some_iff.2 ⟨rfl, hlive⟩) hchannel hroom
        · simp only [receive, if_neg hping]
          cases hjson : Envelope.ofJson text with
          | ok envelope =>
              exact .relayed handle envelope _
                (act?_eq_some_iff.2 ⟨text, rfl, hlive, hping, hjson⟩)
          | error error =>
              exact .ignored _ (by simp) (by simp [act?, hping, hjson, Except.toOption])
      · rw [if_neg hlive]
        exact .ignored _ (by simp) (if_neg hlive)
  | leave handle =>
      simp only [step, whenLive, live?_eq hstanding]
      by_cases hlive : phase handle past = .live
      · have hdepart := depart_eq hstanding handle (.inr hlive)
        simp only [if_pos hlive, hdepart]
        exact .departed handle _ (act?_eq_some_iff.2 (.inr ⟨rfl, hlive⟩))
      · rw [if_neg hlive]
        exact .ignored _ (by simp) (if_neg hlive)
  | write handle =>
      simp only [step, whenLive, live?_eq hstanding]
      by_cases hlive : phase handle past = .live
      · obtain ⟨channel, hchannel, -⟩ := hstanding.exists_channel handle (.inr hlive)
        simp only [if_pos hlive, write_eq hstanding hchannel]
        exact .wrote handle channel hlive hchannel
      · rw [if_neg hlive]
        exact .ignored _ (by simp) rfl

/-! ## The agreement along a run -/

theorem Standing.connect : Standing (past ++ [.connect]) (connect gateway).1 where
  allocated := by
    rw [connects_concat, if_pos rfl, ← hstanding.allocated]
    rfl
  channels := by
    rw [connects_concat, if_pos rfl, ← hstanding.channels]
    exact List.length_append
  serves := by
    intro channel hchannel
    rcases List.mem_append.1 hchannel with hold | hnew
    · exact hstanding.serves channel hold
    · obtain rfl := List.mem_singleton.1 hnew
      exact ⟨rfl, rfl, Nat.zero_le _⟩
  peers := by
    have hpeers := hstanding.peers
    simp only [Gateway.connect, Switchboard.joinChannel, Hub.addPeer, List.map_append, hpeers]
    rfl
  ascending := by
    simp only [Gateway.connect, List.map_append]
    refine List.pairwise_append.2 ⟨hstanding.ascending, List.pairwise_singleton _ _, ?_⟩
    intro earlier hearlier latest hlatest
    obtain rfl := List.mem_singleton.1 hlatest
    have hregistered : (phase earlier past).Registered := by
      rwa [← hstanding.mem_handles_iff, hstanding.handles]
    have hknown := known_of_registered hregistered
    simp only [Switchboard.joinChannel, Hub.addPeer, hstanding.allocated]
    omega
  mem_sockets_iff := by
    intro socket
    have hold := hstanding.mem_sockets_iff socket
    have hnew : phase (connects past + 1) past = .unknown :=
      phase_eq_unknown_iff.2 (.inr (by omega))
    simp only [Gateway.connect, Switchboard.joinChannel, Hub.addPeer, hstanding.allocated,
      hstanding.channels, List.mem_append, List.mem_singleton, hold, phase_concat, true_and, act?,
      reduceCtorEq, if_false]
    by_cases hhandle : connects past + 1 = socket.handle
    · rw [if_pos hhandle, ← hhandle, hnew, Phase.socket?_eq_some_iff]
      obtain ⟨handle, channel, greeted⟩ := socket
      simp [Phase.socket?, eq_comm]
    · have hother : socket ≠ ⟨connects past + 1, connects past, false⟩ := by
        rintro rfl
        exact hhandle rfl
      rw [if_neg hhandle, or_iff_left hother]

theorem Standing.marked {handle : Nat} {input : Input}
    (hact : act? past input = some (.greeted handle)) :
    Standing (past ++ [input]) (gateway.marked handle) := by
  obtain ⟨rfl, hwaiting⟩ := act?_eq_some_iff.1 hact
  have hconnects : connects (past ++ [.greet handle true]) = connects past := by
    rw [connects_concat, if_neg (by simp), Nat.add_zero]
  have hphase := phase_concat_of_greeted hact
  have hpeer (socket : Socket) :
      (if socket.handle = handle then { socket with greeted := true } else socket).peer =
        socket.peer := by
    split <;> rfl
  have hhandle (socket : Socket) :
      (if socket.handle = handle then { socket with greeted := true } else socket).handle =
        socket.handle := by
    split <;> rfl
  refine ⟨hstanding.allocated.trans hconnects.symm, hstanding.channels.trans hconnects.symm,
    hstanding.serves, ?_, ?_, ?_⟩
  · rw [Gateway.marked, List.map_map]
    exact hstanding.peers.trans (List.map_congr_left fun socket _ => (hpeer socket).symm)
  · rw [Gateway.marked, List.map_map]
    have hsame := List.map_congr_left (l := gateway.sockets) fun socket _ => hhandle socket
    exact hsame ▸ hstanding.ascending
  · intro socket
    rw [Gateway.marked, List.mem_map, hphase]
    constructor
    · rintro ⟨old, hold, rfl⟩
      rw [hstanding.mem_sockets_iff] at hold
      rw [hhandle]
      by_cases hsame : old.handle = handle
      · rw [hsame, hwaiting, Phase.socket?_eq_some_iff] at hold
        rw [if_pos hsame.symm, if_pos hsame, Phase.socket?_eq_some_iff]
        exact ⟨rfl, hsame ▸ hold.2.1, .inr ⟨rfl, rfl⟩⟩
      · rwa [if_neg (Ne.symm hsame), if_neg hsame]
    · intro hsocket
      by_cases hsame : handle = socket.handle
      · rw [if_pos hsame, Phase.socket?_eq_some_iff] at hsocket
        have hwaited : phase socket.handle past = .waiting := hsame ▸ hwaiting
        refine ⟨⟨socket.handle, socket.channel, false⟩, ?_, ?_⟩
        · rw [hstanding.mem_sockets_iff, hwaited, Phase.socket?_eq_some_iff]
          exact ⟨rfl, hsocket.2.1, .inl ⟨rfl, rfl⟩⟩
        · obtain ⟨own, channel, greeted⟩ := socket
          simp_all
      · rw [if_neg hsame] at hsocket
        exact ⟨socket, (hstanding.mem_sockets_iff socket).2 hsocket, if_neg (Ne.symm hsame)⟩

theorem Standing.without {handle : Nat} {input : Input}
    (hact : act? past input = some (.departed handle)) :
    Standing (past ++ [input]) (gateway.without handle) := by
  have hconnects : connects (past ++ [input]) = connects past := by
    rw [connects_concat, if_neg (ne_connect_of_act hact), Nat.add_zero]
  have hphase := phase_concat_of_departed hact
  refine ⟨hstanding.allocated.trans hconnects.symm, hstanding.channels.trans hconnects.symm,
    hstanding.serves, ?_, ?_, ?_⟩
  · have hpeers := congrArg (List.filter (·.handle != handle)) hstanding.peers
    rw [List.filter_map] at hpeers
    exact hpeers
  · exact hstanding.ascending.sublist (List.filter_sublist.map Socket.handle)
  · intro socket
    have hold := hstanding.mem_sockets_iff socket
    rw [Gateway.without, List.mem_filter, hold, hphase]
    by_cases hsame : handle = socket.handle
    · simp [hsame, Phase.socket?]
    · rw [if_neg hsame]
      simp [Ne.symm hsame]

omit hstanding in
/-- The agreement does not depend on inputs that move no phase. -/
theorem Standing.of_quiet {input : Input} (hconnect : input ≠ .connect)
    (hgreeted : ∀ handle, act? past input ≠ some (.greeted handle))
    (hdeparted : ∀ handle, act? past input ≠ some (.departed handle))
    (hstanding : Standing past gateway) : Standing (past ++ [input]) gateway := by
  have hconnects : connects (past ++ [input]) = connects past := by
    rw [connects_concat, if_neg hconnect, Nat.add_zero]
  refine ⟨hstanding.allocated.trans hconnects.symm, hstanding.channels.trans hconnects.symm,
    hstanding.serves, hstanding.peers, hstanding.ascending, fun socket => ?_⟩
  rw [phase_concat_of_quiet hconnect hgreeted hdeparted]
  exact hstanding.mem_sockets_iff socket

theorem Standing.shift {handle count : Nat} {channel : Channel} (added : List String)
    (hchannel : gateway.board.channel? (handle - 1) = some channel)
    (hroom : (channel.queue.drop count).length + added.length ≤ channel.capacity) :
    Standing past (shift handle channel count added gateway).1 := by
  have hserves := hstanding.serves channel (List.mem_of_getElem? hchannel)
  refine hstanding.shifted ⟨hserves.listening, hserves.capacity, ?_⟩
  rw [List.length_append]
  exact hroom

theorem Move.standing {input : Input} {outcome : Gateway × List Effect}
    (hmove : Move past gateway input outcome) : Standing (past ++ [input]) outcome.1 := by
  cases hmove with
  | connected => exact hstanding.connect
  | greeted handle _ hact => exact hstanding.marked hact
  | departed handle _ hact =>
      rw [broadcast_fst]
      exact (hstanding.without hact).offered _ _
  | relayed sender envelope _ hact =>
      rw [broadcast_fst]
      exact (hstanding.offered _ _).of_quiet (ne_connect_of_act hact) (by simp [hact])
        (by simp [hact])
  | answered handle count channel _ hact hchannel hroom =>
      exact (hstanding.shift [pongText] hchannel hroom).of_quiet (ne_connect_of_act hact)
        (by simp [hact]) (by simp [hact])
  | wrote handle channel _ hchannel =>
      have hbounded := (hstanding.serves channel (List.mem_of_getElem? hchannel)).bounded
      refine (hstanding.shift [] hchannel ?_).of_quiet (by simp) (by simp [act?]) (by simp [act?])
      rw [List.length_drop]
      simp only [List.length_nil]
      omega
  | ignored _ hconnect hact => exact hstanding.of_quiet hconnect (by simp [hact]) (by simp [hact])

end

theorem standing_empty : Standing [] empty where
  allocated := rfl
  channels := rfl
  serves := List.forall_mem_nil _
  peers := rfl
  ascending := List.Pairwise.nil
  mem_sockets_iff socket := by
    have hunknown : phase socket.handle [] = .unknown := rfl
    simp [empty, hunknown, Phase.socket?]

/-- Every run agrees with its phases. -/
theorem standing (inputs : List Input) : Standing inputs (after inputs) := by
  induction inputs using List.reverseRecOn with
  | nil => exact standing_empty
  | append_singleton past input ih =>
      rw [after_concat]
      exact (step_move ih input).standing ih

theorem mem_handles_after_iff {inputs : List Input} {handle : Nat} :
    handle ∈ (after inputs).board.hub.handles ↔ (phase handle inputs).Registered :=
  (standing inputs).mem_handles_iff

end Lifeline.Gateway
