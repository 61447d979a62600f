import Lifeline.Proofs.Gateway.Moves

/-!
# Frames on their way

Every frame that a step queues is the frame of the act that the step performs
(`queuedFor_step`), and every frame that is written to a socket was queued for
it, its greeting apart.  So what was written to a socket and what still waits for
it is its greeting and what was queued for it, in order (`Ledger`).
-/

namespace Lifeline.Gateway

open Hub (Peer Channel)

/-- The frames that were queued for a socket. -/
def queuedFor (handle : Nat) (effects : List Effect) : List String :=
  effects.filterMap fun
    | .queued other text => if other = handle then some text else none
    | .written _ _ => none

/-- The frames that were written to a socket. -/
def writtenTo (handle : Nat) (effects : List Effect) : List String :=
  effects.filterMap fun
    | .written other text => if other = handle then some text else none
    | .queued _ _ => none

/-- The frames that wait for a socket. -/
def backlog (gateway : Gateway) : Nat → List String
  | 0 => []
  | index + 1 => ((gateway.board.channel? index).map Channel.queue).getD []

def HasRoom (gateway : Gateway) (handle : Nat) : Prop :=
  (gateway.backlog handle).length < bufferSize

instance (gateway : Gateway) (handle : Nat) : Decidable (gateway.HasRoom handle) :=
  inferInstanceAs (Decidable (_ < _))

theorem queuedFor_append (handle : Nat) (earlier later : List Effect) :
    queuedFor handle (earlier ++ later) = queuedFor handle earlier ++ queuedFor handle later :=
  List.filterMap_append

theorem writtenTo_append (handle : Nat) (earlier later : List Effect) :
    writtenTo handle (earlier ++ later) = writtenTo handle earlier ++ writtenTo handle later :=
  List.filterMap_append

theorem mem_queuedFor_iff {handle : Nat} {effects : List Effect} {text : String} :
    text ∈ queuedFor handle effects ↔ .queued handle text ∈ effects := by
  rw [queuedFor, List.mem_filterMap]
  constructor
  · rintro ⟨effect, heffect, htext⟩
    cases effect with
    | queued other written =>
        obtain ⟨rfl, hsame⟩ := Option.ite_none_right_eq_some.1 htext
        obtain rfl := Option.some.inj hsame
        exact heffect
    | written => contradiction
  · exact fun heffect => ⟨_, heffect, if_pos rfl⟩

theorem queuedFor_map_queued (handle other : Nat) (texts : List String) :
    queuedFor other (texts.map (.queued handle)) = if handle = other then texts else [] := by
  split
  · next heq => simp [queuedFor, heq, List.filterMap_map]
  · next hne => simp [queuedFor, hne]

theorem writtenTo_map_written (handle other : Nat) (texts : List String) :
    writtenTo other (texts.map (.written handle)) = if handle = other then texts else [] := by
  split
  · next heq => simp [writtenTo, heq, List.filterMap_map]
  · next hne => simp [writtenTo, hne]

theorem queuedFor_map_written (handle other : Nat) (texts : List String) :
    queuedFor other (texts.map (.written handle)) = [] := by
  simp [queuedFor]

theorem writtenTo_map_queued (handle other : Nat) (texts : List String) :
    writtenTo other (texts.map (.queued handle)) = [] := by
  simp [writtenTo]

/-! ## Broadcasts -/

/-- A text queued for some peers, each on the channel of its own number. -/
theorem queuedFor_peers {peers : List Peer}
    (hpeers : ∀ peer ∈ peers, peer.handle = peer.channel + 1) (index : Nat) (text : String) :
    queuedFor (index + 1) (peers.map fun peer => .queued peer.handle text) =
      List.replicate (Switchboard.countOn peers index) text := by
  induction peers with
  | nil => rfl
  | cons peer peers ih =>
      obtain ⟨hpeer, hlater⟩ := List.forall_mem_cons.1 hpeers
      rw [List.map_cons, Switchboard.countOn, List.countP_cons, ← Switchboard.countOn]
      by_cases hchannel : peer.channel = index
      · simpa [queuedFor, hpeer, hchannel, List.replicate_succ] using ih hlater
      · simpa [queuedFor, hpeer, hchannel] using ih hlater

theorem broadcast_snd (text : String) (gateway : Gateway) :
    (broadcast text gateway).2 =
      (gateway.board.offerAll text gateway.board.hub.peers).1.map fun peer =>
        .queued peer.handle text := by
  rw [broadcast, Switchboard.broadcast_eq]

section

variable {past : List Input} {gateway : Gateway} (hstanding : Standing past gateway)

include hstanding

theorem queuedFor_broadcast_succ (text : String) (index : Nat) :
    queuedFor (index + 1) (broadcast text gateway).2 = List.replicate
      (Switchboard.countOn (gateway.board.offerAll text gateway.board.hub.peers).1 index) text := by
  rw [broadcast_snd]
  apply queuedFor_peers
  intro peer hpeer
  exact (hstanding.mem_peers_iff.1 ((Switchboard.offerAll_sublist _ _ _).subset hpeer)).1

theorem queuedFor_broadcast_zero (text : String) :
    queuedFor 0 (broadcast text gateway).2 = [] := by
  rw [List.eq_nil_iff_forall_not_mem]
  intro frame hframe
  rw [mem_queuedFor_iff, broadcast_snd, List.mem_map] at hframe
  obtain ⟨peer, hpeer, hqueued⟩ := hframe
  have hhandle := (hstanding.mem_peers_iff.1 ((Switchboard.offerAll_sublist _ _ _).subset hpeer)).1
  have hzero : peer.handle = 0 := (Effect.queued.inj hqueued).1
  omega

/-- What a broadcast queues for a socket comes behind what waits for it. -/
theorem backlog_broadcast (text : String) (handle : Nat) :
    (broadcast text gateway).1.backlog handle =
      gateway.backlog handle ++ queuedFor handle (broadcast text gateway).2 := by
  cases handle with
  | zero => rw [queuedFor_broadcast_zero hstanding text]; rfl
  | succ index =>
      rw [queuedFor_broadcast_succ hstanding, broadcast_fst, backlog, backlog,
        Switchboard.channel?_offerAll]
      cases hchannel : gateway.board.channel? index with
      | some channel => rfl
      | none =>
          have hnone : Switchboard.countOn
              (gateway.board.offerAll text gateway.board.hub.peers).1 index = 0 := by
            refine Switchboard.countOn_eq_zero fun peer hpeer heq => ?_
            have hless := Switchboard.channel_lt_of_mem_offerAll hpeer
            rw [heq] at hless
            exact absurd (List.getElem?_eq_none_iff.1 hchannel) (Nat.not_le_of_lt hless)
          rw [hnone]
          rfl

/-- A broadcast reaches the registered sockets that have room, each once. -/
theorem queuedFor_broadcast (text : String) (handle : Nat) :
    queuedFor handle (broadcast text gateway).2 =
      if handle ∈ gateway.board.hub.handles ∧ gateway.HasRoom handle then [text] else [] := by
  cases handle with
  | zero =>
      have hzero : 0 ∉ gateway.board.hub.handles := fun hregistered =>
        Nat.lt_irrefl 0 (known_of_registered (hstanding.mem_handles_iff.1 hregistered)).1
      rw [queuedFor_broadcast_zero hstanding, if_neg fun hboth => hzero hboth.1]
  | succ index =>
      rw [queuedFor_broadcast_succ hstanding]
      by_cases hregistered : index + 1 ∈ gateway.board.hub.handles
      · have hphase := hstanding.mem_handles_iff.1 hregistered
        obtain ⟨channel, hchannel, hserves⟩ := hstanding.exists_channel _ hphase
        have hpeer : (⟨index + 1, index⟩ : Peer) ∈ gateway.board.hub.peers :=
          hstanding.mem_peers_iff.2 ⟨rfl, hphase⟩
        have hcount := Switchboard.countOn_offerAll_of_nodup gateway.board text
          hstanding.channels_distinct hpeer
        have hroom : gateway.board.verdictOf ⟨index + 1, index⟩ = .accepted ↔
            gateway.HasRoom (index + 1) := by
          have hfound : gateway.board.channel? index = some channel := hchannel
          simp [Switchboard.verdictOf_eq_accepted_iff, HasRoom, backlog, hfound, hserves.listening,
            hserves.capacity]
        rw [hcount]
        by_cases hfits : gateway.HasRoom (index + 1)
        · rw [if_pos (hroom.2 hfits), if_pos ⟨hregistered, hfits⟩]
          rfl
        · rw [if_neg fun haccepted => hfits (hroom.1 haccepted), if_neg fun hboth => hfits hboth.2]
          rfl
      · have hnone : Switchboard.countOn
            (gateway.board.offerAll text gateway.board.hub.peers).1 index = 0 := by
          refine Switchboard.countOn_eq_zero fun peer hpeer heq => hregistered ?_
          have hmember := (Switchboard.offerAll_sublist _ _ _).subset hpeer
          rw [← heq, ← (hstanding.mem_peers_iff.1 hmember).1]
          exact List.mem_map_of_mem hmember
        rw [hnone, if_neg fun hboth => hregistered hboth.1]
        rfl

end

theorem writtenTo_broadcast (text : String) (gateway : Gateway) (handle : Nat) :
    writtenTo handle (broadcast text gateway).2 = [] := by
  simp [broadcast_snd, writtenTo]

/-! ## The frames of one step -/

/-- Whether an act queues its frame for a socket.  A pong goes to the socket that asked and
always finds room; other frames go to the sockets that are registered and have room. -/
def Act.QueuedFor (gateway : Gateway) (handle : Nat) : Act → Prop
  | .greeted _ => False
  | .answered other => other = handle
  | .relayed _ _ => handle ∈ gateway.board.hub.handles ∧ gateway.HasRoom handle
  | .departed other =>
      (handle ∈ gateway.board.hub.handles ∧ handle ≠ other) ∧ gateway.HasRoom handle

instance (gateway : Gateway) (handle : Nat) : (act : Act) → Decidable (act.QueuedFor gateway handle)
  | .greeted _ => inferInstanceAs (Decidable False)
  | .answered _ => inferInstanceAs (Decidable (_ = _))
  | .relayed _ _ => inferInstanceAs (Decidable (_ ∧ _))
  | .departed _ => inferInstanceAs (Decidable (_ ∧ _))

/-- The frame that an act queues for a socket, if it queues one. -/
def Act.queued (gateway : Gateway) (handle : Nat) (act : Act) : List String :=
  if act.QueuedFor gateway handle then [act.frame] else []

theorem backlog_of_channels {gateway other : Gateway}
    (hchannels : other.board.channels = gateway.board.channels) (handle : Nat) :
    other.backlog handle = gateway.backlog handle := by
  cases handle with
  | zero => rfl
  | succ index => simp only [backlog, Switchboard.channel?, hchannels]

theorem backlog_connect (gateway : Gateway) (handle : Nat) :
    (connect gateway).1.backlog handle = gateway.backlog handle := by
  cases handle with
  | zero => rfl
  | succ index =>
      simp only [connect, backlog, Switchboard.channel?_joinChannel]
      split
      · next hnew =>
          have hnone : gateway.board.channel? index = none :=
            List.getElem?_eq_none (Nat.le_of_eq hnew.symm)
          rw [hnone]
          rfl
      · rfl

section

variable {gateway : Gateway} {handle : Nat} {channel : Channel} (hpositive : 0 < handle)
  (hchannel : gateway.board.channel? (handle - 1) = some channel)

include hpositive hchannel

theorem backlog_eq : gateway.backlog handle = channel.queue := by
  obtain ⟨own, rfl⟩ := Nat.exists_eq_add_one.2 hpositive
  have hfound : gateway.board.channel? own = some channel := hchannel
  rw [backlog, hfound]
  rfl

theorem backlog_shift (count : Nat) (added : List String) (other : Nat) :
    (shift handle channel count added gateway).1.backlog other =
      if handle = other then channel.queue.drop count ++ added else gateway.backlog other := by
  obtain ⟨own, rfl⟩ := Nat.exists_eq_add_one.2 hpositive
  cases other with
  | zero => rw [if_neg (Nat.succ_ne_zero own)]; rfl
  | succ index =>
      simp only [shift, backlog, Nat.add_sub_cancel, Switchboard.channel?_setChannel]
      by_cases hsame : own = index
      · subst hsame
        have hfound : gateway.board.channel? own = some channel := hchannel
        simp [hfound]
      · rw [if_neg hsame, if_neg fun heq => hsame (Nat.succ.inj heq)]

/-- Where one queue moves on, the frames that leave it go to its socket. -/
theorem shift_flow (count : Nat) (added : List String) (other : Nat) :
    ∃ taken, writtenTo other (shift handle channel count added gateway).2 = taken ∧
      queuedFor other (shift handle channel count added gateway).2 =
        (if handle = other then added else []) ∧
      gateway.backlog other ++ queuedFor other (shift handle channel count added gateway).2 =
        taken ++ (shift handle channel count added gateway).1.backlog other ∧
      (taken ≠ [] → handle = other) := by
  have hqueued : queuedFor other (shift handle channel count added gateway).2 =
      if handle = other then added else [] := by
    rw [shift, queuedFor_append, queuedFor_map_written, queuedFor_map_queued, List.nil_append]
  have hwritten : writtenTo other (shift handle channel count added gateway).2 =
      if handle = other then channel.queue.take count else [] := by
    rw [shift, writtenTo_append, writtenTo_map_written, writtenTo_map_queued, List.append_nil]
  refine ⟨_, hwritten, hqueued, ?_, ?_⟩
  · rw [hqueued, backlog_shift hpositive hchannel]
    split
    · next heq =>
        rw [← heq, backlog_eq hpositive hchannel, ← List.append_assoc, List.take_append_drop]
    · rw [List.append_nil, List.nil_append]
  · intro hsome
    by_contra hne
    exact hsome (if_neg hne)

end

section

variable {past : List Input} {gateway : Gateway} {input : Input}
  {outcome : Gateway × List Effect} (hstanding : Standing past gateway)
  (hmove : Move past gateway input outcome)

include hstanding hmove

/-- Each step queues the frame of its act, for the sockets that the act is for, and nothing else. -/
theorem Move.queuedFor_eq (handle : Nat) :
    queuedFor handle outcome.2 = (act? past input).elim [] (Act.queued gateway handle) := by
  cases hmove with
  | connected => rfl
  | greeted other _ hact => simp [hact, Act.queued, Act.QueuedFor, queuedFor]
  | departed other _ hact =>
      rw [queuedFor_broadcast (hstanding.without hact), hact]
      have hbacklog : (gateway.without other).backlog handle = gateway.backlog handle :=
        backlog_of_channels rfl handle
      have hhandles : (gateway.without other).board.hub.handles =
          gateway.board.hub.handles.filter (· != other) :=
        Hub.handles_removePeer gateway.board.hub other
      refine if_congr ?_ rfl rfl
      simp [Act.QueuedFor, HasRoom, hbacklog, hhandles]
  | relayed sender envelope _ hact =>
      rw [queuedFor_broadcast hstanding, hact]
      rfl
  | answered other count channel _ hact hchannel =>
      have hlive := (act?_eq_some_iff.1 hact).2
      obtain ⟨_, -, hqueued, -⟩ :=
        shift_flow (known_of_registered (.inr hlive)).1 hchannel count [pongText] handle
      rw [hqueued, hact]
      rfl
  | wrote other channel hlive hchannel =>
      obtain ⟨_, -, hqueued, -⟩ :=
        shift_flow (known_of_registered (.inr hlive)).1 hchannel 1 [] handle
      rw [hqueued, ite_self]
      rfl
  | ignored _ _ hact =>
      rw [hact]
      rfl

/-- What leaves the queue of a socket is written to it, and only a greeting is written past it. -/
theorem Move.flow (handle : Nat) :
    ∃ taken,
      writtenTo handle outcome.2 =
          (if act? past input = some (.greeted handle) then
            [(initMessage handle).toJson] else []) ++ taken ∧
        gateway.backlog handle ++ queuedFor handle outcome.2 =
          taken ++ outcome.1.backlog handle ∧
        (taken ≠ [] → phase handle past = .live) := by
  cases hmove with
  | connected =>
      refine ⟨[], rfl, ?_, fun hsome => absurd rfl hsome⟩
      rw [backlog_connect, List.nil_append]
      exact List.append_nil _
  | greeted other _ hact =>
      refine ⟨[], ?_, ?_, fun hsome => absurd rfl hsome⟩
      · by_cases hsame : other = handle
        · simp [writtenTo, hact, hsame]
        · simp [writtenTo, hact, hsame]
      · exact (List.append_nil _).trans (backlog_of_channels rfl handle).symm
  | departed other _ hact =>
      refine ⟨[], by simp [writtenTo_broadcast, hact], ?_, fun hsome => absurd rfl hsome⟩
      rw [backlog_broadcast (hstanding.without hact), List.nil_append]
      rw [show (gateway.without other).backlog handle = gateway.backlog handle from
        backlog_of_channels rfl handle]
  | relayed sender envelope _ hact =>
      refine ⟨[], by simp [writtenTo_broadcast, hact], ?_, fun hsome => absurd rfl hsome⟩
      rw [backlog_broadcast hstanding, List.nil_append]
  | answered other count channel _ hact hchannel =>
      have hlive := (act?_eq_some_iff.1 hact).2
      obtain ⟨taken, hwritten, -, hbacklog, hown⟩ :=
        shift_flow (known_of_registered (.inr hlive)).1 hchannel count [pongText] handle
      refine ⟨taken, by simp [hact, hwritten], hbacklog, fun hsome => ?_⟩
      exact hown hsome ▸ hlive
  | wrote other channel hlive hchannel =>
      obtain ⟨taken, hwritten, -, hbacklog, hown⟩ :=
        shift_flow (known_of_registered (.inr hlive)).1 hchannel 1 [] handle
      refine ⟨taken, by simp [act?, hwritten], hbacklog, fun hsome => ?_⟩
      exact hown hsome ▸ hlive
  | ignored _ _ hact =>
      exact ⟨[], by simp [hact, writtenTo], List.append_nil _, fun hsome => absurd rfl hsome⟩

end

/-- Each step of a run queues the frame of its act. -/
theorem queuedFor_step (past : List Input) (input : Input) (handle : Nat) :
    queuedFor handle (step input (after past)).2 =
      (act? past input).elim [] (Act.queued (after past) handle) :=
  (step_move (standing past) input).queuedFor_eq (standing past) handle

/-! ## The frames of a run -/

/-- What was written to a socket and what waits for it, against what was queued for it. -/
inductive Ledger (inputs : List Input) (handle : Nat) : Prop
  | ungreeted (hphase : phase handle inputs ≠ .live)
      (hwritten : writtenTo handle (effectsAfter inputs) = [])
      (hqueued : queuedFor handle (effectsAfter inputs) = (after inputs).backlog handle)
  | greeted (drained : List String)
      (hact : .greeted handle ∈ acts inputs)
      (hphase : phase handle inputs = .live ∨ phase handle inputs = .ended)
      (hwritten : writtenTo handle (effectsAfter inputs) = (initMessage handle).toJson :: drained)
      (hqueued : queuedFor handle (effectsAfter inputs) =
        drained ++ (after inputs).backlog handle)

theorem ledger (inputs : List Input) (handle : Nat) : Ledger inputs handle := by
  induction inputs using List.reverseRecOn with
  | nil =>
      refine .ungreeted (by simp [phase, tracked]) rfl ?_
      cases handle <;> rfl
  | append_singleton past input ih =>
      obtain ⟨taken, hwrittenNow, hflow, hlive⟩ :=
        (step_move (standing past) input).flow (standing past) handle
      have hphase := phase_concat handle past input
      cases ih with
      | ungreeted hnotLive hwritten hqueued =>
          have htaken : taken = [] := by
            by_contra hsome
            exact hnotLive (hlive hsome)
          subst htaken
          have hnext : queuedFor handle (effectsAfter (past ++ [input])) =
              (after (past ++ [input])).backlog handle := by
            rw [effectsAfter_concat, queuedFor_append, hqueued, hflow, after_concat,
              List.nil_append]
          by_cases hact : act? past input = some (.greeted handle)
          · have hnow := phase_concat_of_greeted hact handle
            rw [if_pos rfl] at hnow
            refine .greeted [] (by simp [acts_concat, hact]) (.inl hnow) ?_ hnext
            rw [effectsAfter_concat, writtenTo_append, hwritten, hwrittenNow, if_pos hact]
            rfl
          · refine .ungreeted ?_ ?_ hnext
            · rw [hphase, if_neg hact]
              split
              · exact Phase.noConfusion
              · split
                · exact Phase.noConfusion
                · exact hnotLive
            · rw [effectsAfter_concat, writtenTo_append, hwritten, hwrittenNow, if_neg hact]
              rfl
      | greeted drained hbefore hgreeted hwritten hqueued =>
          have hbounds : 0 < handle ∧ handle ≤ connects past :=
            bounds_of_known (by rcases hgreeted with hphase | hphase <;> simp [hphase])
          have hact : act? past input ≠ some (.greeted handle) := by
            intro hact
            have hwaiting := (act?_eq_some_iff.1 hact).2
            rcases hgreeted with hphase | hphase <;> simp [hphase] at hwaiting
          refine .greeted (drained ++ taken) (by simp [acts_concat, hbefore]) ?_ ?_ ?_
          · rw [hphase, if_neg (by omega), if_neg hact]
            split
            · exact .inr rfl
            · exact hgreeted
          · rw [effectsAfter_concat, writtenTo_append, hwritten, hwrittenNow, if_neg hact]
            rfl
          · rw [effectsAfter_concat, queuedFor_append, hqueued, List.append_assoc, hflow,
              after_concat, List.append_assoc]

/-- Nothing is written to a socket but its greeting and then what was queued for it, in order. -/
theorem greeting_then_queued (inputs : List Input) (handle : Nat) :
    writtenTo handle (effectsAfter inputs) <+:
      (initMessage handle).toJson :: queuedFor handle (effectsAfter inputs) := by
  cases ledger inputs handle with
  | ungreeted _ hwritten _ =>
      rw [hwritten]
      exact List.nil_prefix
  | greeted drained _ _ hwritten hqueued =>
      rw [hwritten, hqueued]
      exact List.cons_prefix_cons.2 ⟨rfl, List.prefix_append _ _⟩

/-- Every queued frame is that of an act. -/
theorem exists_act_of_queued {inputs : List Input} {handle : Nat} {frame : String}
    (hframe : frame ∈ queuedFor handle (effectsAfter inputs)) :
    ∃ past input later act, inputs = past ++ input :: later ∧ act? past input = some act ∧
      act.QueuedFor (after past) handle ∧ frame = act.frame := by
  induction inputs using List.reverseRecOn with
  | nil => contradiction
  | append_singleton past input ih =>
      rw [effectsAfter_concat, queuedFor_append, List.mem_append, queuedFor_step] at hframe
      rcases hframe with hearlier | hnow
      · obtain ⟨before, other, later, act, rfl, hact, hfor, rfl⟩ := ih hearlier
        exact ⟨before, other, later ++ [input], act, by simp, hact, hfor, rfl⟩
      · cases hact : act? past input with
        | none =>
            rw [hact] at hnow
            contradiction
        | some act =>
            rw [hact, Option.elim_some, Act.queued] at hnow
            split at hnow
            · next hfor => exact ⟨past, input, [], act, rfl, hact, hfor, List.mem_singleton.1 hnow⟩
            · contradiction

end Lifeline.Gateway
