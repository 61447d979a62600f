import Lifeline.Connection.Step

/-!
# Moves of a connection

A running connection has a small number of moves, and each step is one of them
(`step_move`).  A move says which input it answers, under which condition, and
gives the next state and the effects as data.  Two transitions occur in several
moves and are spelled out first: a fresh attempt (`connect_eq`), and a fresh
attempt after the loss of the connection was announced (`giveUp_eq`).
-/

namespace Lifeline.Connection

open Transition (emit)

variable {H : Type}

/-! ## The parts of a transition -/

theorem setLink_fst (link : Link) (state : State) :
    (setLink (H := H) link state).1 = { state with link := link } := by
  unfold setLink
  split
  · next hsame => rw [← hsame]
  · rfl

theorem setLink_snd (link : Link) (state : State) :
    (setLink (H := H) link state).2 = if state.link = link then [] else [.publish link] := by
  unfold setLink
  split <;> rfl

theorem mem_setLink {link : Link} {state : State} {effect : Effect H}
    (heffect : effect ∈ (setLink link state).2) : effect = .publish link := by
  unfold setLink at heffect
  split at heffect
  · simp at heffect
  · simpa using heffect

theorem hangUp_fst (state : State) :
    (hangUp (H := H) state).1 = { state with transport := none } := by
  unfold hangUp
  split
  · rfl
  · next hnone => rw [← hnone]

theorem hangUp_snd (state : State) :
    (hangUp (H := H) state).2 = (state.transport.map Effect.hangUp).toList := by
  unfold hangUp
  split <;> simp [*]

theorem release_fst (state : State) :
    (release (H := H) state).1 = { state with transport := none } := by
  unfold release
  split
  · rfl
  · next hnone => rw [← hnone]

theorem release_snd (state : State) :
    (release (H := H) state).2 = (state.transport.map Effect.release).toList := by
  unfold release
  split <;> simp [*]

/-- What a delivered text leads to: reports of danger, which have a wording of their own, and
calls of handlers. -/
theorem mem_deliver {setup : Setup H} {now : Nat} {text : String} {effect : Effect H}
    (heffect : effect ∈ deliver setup now text) :
    (∃ rest, effect = .status (.set ("Socket " ++ rest) .danger false)) ∨
      ∃ handler envelope, effect = .handle handler envelope := by
  revert heffect
  unfold deliver
  cases Envelope.ofJson text with
  | error error =>
      intro heffect
      refine .inl ⟨"message rejected: " ++ error.message, ?_⟩
      rw [List.mem_singleton.mp heffect, StatusCall.logError, ← String.append_assoc]
      rfl
  | ok envelope =>
      have hfailed : ∀ error : HandlerError,
          StatusCall.logError ("Socket action " ++ envelope.action ++ " failed") error.message
              .danger =
            .set ("Socket " ++ ("action " ++ envelope.action ++ " failed: " ++ error.message))
              .danger false := by
        intro error
        rw [StatusCall.logError]
        simp only [String.append_assoc]
        rfl
      dsimp only
      cases setup.registry.get? envelope.action <;>
        cases setup.registry.dispatch (setup.respond.answer now) envelope <;>
        simp +contextual [hfailed, or_imp]

/-- The reports of a delivery do not begin like the connection's own messages. -/
theorem socket_ne {message : String} (hhead : message.toList.head? ≠ some 'S') (rest : String) :
    "Socket " ++ rest ≠ message := by
  intro hsame
  apply hhead
  rw [← hsame, String.toList_append]
  rfl

/-! ## Fresh attempts -/

/-- The state after a fresh attempt, which is verified at the deadline. -/
def State.redialed (state : State) (deadline : Nat) : State :=
  { state with
    generation := state.generation + 1
    transport := some (state.generation + 1)
    outstanding := none
    link := .connecting
    pending := state.pending ++ [⟨.verify (state.generation + 1), deadline⟩] }

theorem State.mem_redialed {state : State} {deadline : Nat} {timer : PendingTimer}
    (htimer : timer ∈ (state.redialed deadline).pending) :
    timer ∈ state.pending ∨ timer = ⟨.verify (state.generation + 1), deadline⟩ := by
  rcases List.mem_append.mp htimer with hold | hnew
  · exact .inl hold
  · exact .inr (List.mem_singleton.mp hnew)

theorem connect_eq (setup : Setup H) (now : Nat) (state : State) :
    connect setup now state =
      (state.redialed (now + setup.liveness.reconnectDelay.toNat),
        (state.transport.map Effect.hangUp).toList ++
          .dial (state.generation + 1) :: (setLink .connecting state).2) := by
  simp only [connect, Transition.andThen, Transition.silently, dialNext, setLink_fst, hangUp_fst,
    hangUp_snd]
  simp [State.schedule, State.redialed, setLink]
  split <;> rfl

/-- Announces the loss of the connection and starts a fresh attempt. -/
def giveUp (setup : Setup H) (now : Nat) : Step H :=
  ((setLink .suspectedDead).andThen
    (emit [.status (.set StatusCall.lostMessage .danger false)])).andThen
    (connect setup now)

theorem giveUp_eq (setup : Setup H) (now : Nat) (state : State) :
    giveUp setup now state =
      (state.redialed (now + setup.liveness.reconnectDelay.toNat),
        (setLink .suspectedDead state).2 ++
          .status (.set StatusCall.lostMessage .danger false) ::
            ((state.transport.map Effect.hangUp).toList ++
              [.dial (state.generation + 1), .publish .connecting])) := by
  simp only [giveUp, Transition.andThen, emit, connect_eq, setLink_fst]
  simp [State.redialed, setLink]

theorem mem_connect {setup : Setup H} {now : Nat} {state : State} {effect : Effect H}
    (heffect : effect ∈ (connect setup now state).2) :
    (∃ generation, state.transport = some generation ∧ effect = .hangUp generation) ∨
      effect = .dial (state.generation + 1) ∨ effect = .publish .connecting := by
  rw [connect_eq] at heffect
  rcases List.mem_append.mp heffect with hheld | hfresh
  · obtain ⟨generation, htransport, hhangUp⟩ : ∃ generation,
        state.transport = some generation ∧ .hangUp generation = effect := by
      simpa using hheld
    exact .inl ⟨generation, htransport, hhangUp.symm⟩
  · rcases List.mem_cons.mp hfresh with hdial | hpublish
    · exact .inr (.inl hdial)
    · exact .inr (.inr (mem_setLink hpublish))

theorem mem_giveUp {setup : Setup H} {now : Nat} {state : State} {effect : Effect H}
    (heffect : effect ∈ (giveUp setup now state).2) :
    effect = .publish .suspectedDead ∨
      effect = .status (.set StatusCall.lostMessage .danger false) ∨
      effect ∈ (connect setup now (setLink (H := H) .suspectedDead state).1).2 := by
  rcases List.mem_append.mp heffect with hannounced | hconnect
  · rcases List.mem_append.mp hannounced with hlink | hstatus
    · exact .inl (mem_setLink hlink)
    · exact .inr (.inl (List.mem_singleton.mp hstatus))
  · exact .inr (.inr hconnect)

/-! ## What is read off the effects

Whatever is collected from effects passes over those that it does not concern. -/

section Reading

variable {Reading : Type} {read : Effect H → Option Reading}

theorem filterMap_setLink (hpublish : ∀ link, read (.publish link) = none) (link : Link)
    (state : State) : (setLink link state).2.filterMap read = [] := by
  rw [setLink_snd]
  split
  · rfl
  · exact List.filterMap_cons_none (hpublish link)

theorem filterMap_hangUp (hhangUp : ∀ generation, read (.hangUp generation) = none)
    (transport : Option Nat) :
    (transport.map Effect.hangUp).toList.filterMap read = [] := by
  cases transport with
  | none => rfl
  | some generation => exact List.filterMap_cons_none (hhangUp generation)

theorem filterMap_release (hrelease : ∀ generation, read (.release generation) = none)
    (transport : Option Nat) :
    (transport.map Effect.release).toList.filterMap read = [] := by
  cases transport with
  | none => rfl
  | some generation => exact List.filterMap_cons_none (hrelease generation)

theorem filterMap_deliver
    (hset : ∀ rest, read (.status (.set ("Socket " ++ rest) .danger false)) = none)
    (hhandle : ∀ handler envelope, read (.handle handler envelope) = none) (setup : Setup H)
    (now : Nat) (text : String) : (deliver setup now text).filterMap read = [] := by
  rw [List.filterMap_eq_nil_iff]
  intro effect heffect
  rcases mem_deliver heffect with ⟨rest, rfl⟩ | ⟨handler, envelope, rfl⟩
  · exact hset rest
  · exact hhandle handler envelope

theorem filterMap_connect (hhangUp : ∀ generation, read (.hangUp generation) = none)
    (hpublish : ∀ link, read (.publish link) = none) (setup : Setup H) (now : Nat)
    (state : State) :
    (connect setup now state).2.filterMap read =
      (read (.dial (state.generation + 1))).toList := by
  rw [connect_eq, List.filterMap_append, filterMap_hangUp hhangUp, List.filterMap_cons,
    filterMap_setLink hpublish]
  cases read (.dial (state.generation + 1)) <;> rfl

theorem filterMap_giveUp (hhangUp : ∀ generation, read (.hangUp generation) = none)
    (hpublish : ∀ link, read (.publish link) = none) (setup : Setup H) (now : Nat)
    (state : State) :
    (giveUp setup now state).2.filterMap read =
      (read (.status (.set StatusCall.lostMessage .danger false))).toList ++
        (read (.dial (state.generation + 1))).toList := by
  rw [giveUp, Transition.andThen, Transition.andThen, List.filterMap_append,
    filterMap_connect hhangUp hpublish, List.filterMap_append, filterMap_setLink hpublish,
    setLink_fst]
  dsimp only [emit, List.filterMap_cons, List.filterMap_nil, List.nil_append]
  cases read (.status (.set StatusCall.lostMessage .danger false)) <;> rfl

end Reading

/-! ## Moves -/

/-- The pending timers without one that fired. -/
def State.without (state : State) (fired : PendingTimer) : State :=
  { state with pending := state.pending.erase fired }

/-- What a timer must find when it fires, or it does nothing. -/
def State.Heeds (state : State) : Timer → Prop
  | .verify generation => generation = state.generation
  | .retry generation => generation = state.generation
  | .pong generation number =>
      state.outstanding = some number ∧ generation = state.generation

/-- The state after a ping was queued, whose answer is waited for until the deadline. -/
def State.pinged (state : State) (deadline : Nat) : State :=
  { state with
    pingsSent := state.pingsSent + 1
    outstanding := some (state.outstanding.getD (state.pingsSent + 1))
    pending := state.pending ++
      [⟨.pong state.generation (state.pingsSent + 1), deadline⟩] }

/-- The state of a connection that was closed. -/
def State.shut (state : State) : State :=
  { state with
    transport := none
    outstanding := none
    link := .closed
    pending := []
    stopped := true }

/-- The moves of a running connection, by input. -/
inductive Move (setup : Setup H) (now : Nat) (accepting : Bool) (state : State) :
    Input → State × List (Effect H) → Prop
  /-- A report of another attempt is passed over. -/
  | foreign (report : Report) (hother : report.generation ≠ state.generation) :
      Move setup now accepting state (.report report) (state, [])
  | opened :
      Move setup now accepting state (.report ⟨state.generation, .opened⟩)
        ({ state with link := .opened }, (setLink .opened state).2)
  | answered :
      Move setup now accepting state (.report ⟨state.generation, .message pongText⟩)
        ({ state with outstanding := none },
          [.status (.clearIfEqual StatusCall.lostMessage)])
  | delivered (text : String) (htext : text ≠ pongText) :
      Move setup now accepting state (.report ⟨state.generation, .message text⟩)
        (state, deliver setup now text)
  | ended (reason : Option String) :
      Move setup now accepting state (.report ⟨state.generation, .closed reason⟩)
        ({ state with transport := none, link := .disconnected },
          (state.transport.map Effect.release).toList ++ (setLink .disconnected state).2)
  /-- Only what is pending fires. -/
  | absent (fired : PendingTimer) (habsent : fired ∉ state.pending) :
      Move setup now accepting state (.fire fired) (state, [])
  | outdated (fired : PendingTimer) (hpending : fired ∈ state.pending)
      (hheeds : ¬ state.Heeds fired.timer) :
      Move setup now accepting state (.fire fired) (state.without fired, [])
  | confirmed (deadline : Nat) (hpending : ⟨.verify state.generation, deadline⟩ ∈ state.pending)
      (hopen : state.isOpen = true) :
      Move setup now accepting state (.fire ⟨.verify state.generation, deadline⟩)
        (state.without ⟨.verify state.generation, deadline⟩,
          [.status (.clearIfEqual StatusCall.connectingMessage),
            .status (.clearIfEqual StatusCall.lostMessage)])
  | unconfirmed (deadline : Nat)
      (hpending : ⟨.verify state.generation, deadline⟩ ∈ state.pending)
      (hopen : state.isOpen = false) :
      Move setup now accepting state (.fire ⟨.verify state.generation, deadline⟩)
        ((state.without ⟨.verify state.generation, deadline⟩).schedule
            (now + setup.liveness.reconnectDelay.toNat) (.retry state.generation),
          [.status (.set StatusCall.connectingMessage .warning false)])
  | retried (deadline : Nat)
      (hpending : ⟨.retry state.generation, deadline⟩ ∈ state.pending) :
      Move setup now accepting state (.fire ⟨.retry state.generation, deadline⟩)
        (connect setup now (state.without ⟨.retry state.generation, deadline⟩))
  | timedOut (number deadline : Nat)
      (hpending : ⟨.pong state.generation number, deadline⟩ ∈ state.pending)
      (hawaited : state.outstanding = some number) :
      Move setup now accepting state (.fire ⟨.pong state.generation number, deadline⟩)
        (giveUp setup now (state.without ⟨.pong state.generation number, deadline⟩))
  | pinged (generation : Nat) (htransport : state.transport = some generation)
      (hlink : state.link = .opened) (haccepting : accepting = true) :
      Move setup now accepting state .tick
        (state.pinged (now + setup.liveness.pongTimeout.toNat), [.frame generation pingText])
  /-- A ping that cannot be queued still takes a number. -/
  | unpinged (hunsent : ¬ (state.isOpen = true ∧ accepting = true)) :
      Move setup now accepting state .tick
        (giveUp setup now { state with pingsSent := state.pingsSent + 1 })
  | sent (payload : Payload) (generation : Nat) (htransport : state.transport = some generation)
      (hlink : state.link = .opened) (haccepting : accepting = true) :
      Move setup now accepting state (.send payload)
        (state, [.frame generation payload.frame])
  | dropped (payload : Payload) (hunsent : ¬ (state.isOpen = true ∧ accepting = true)) :
      Move setup now accepting state (.send payload) (state, [])
  | reconnected :
      Move setup now accepting state .reconnect (connect setup now state)
  | shut (input : Input) (hinput : input = .close ∨ input = .abandon) :
      Move setup now accepting state input
        (state.shut, (state.transport.map Effect.hangUp).toList ++ (setLink .closed state).2)

theorem State.isOpen_of_opened {state : State} {holder : Nat}
    (htransport : state.transport = some holder) (hlink : state.link = .opened) :
    state.isOpen = true := by
  rw [State.isOpen, htransport, hlink]
  rfl

/-- A frame is written exactly if the link is open and the transport takes it. -/
theorem write_cases (accepting : Bool) (text : String) (state : State) :
    (∃ generation, state.transport = some generation ∧ state.link = .opened ∧
        accepting = true ∧
        write (H := H) accepting text state = (true, [.frame generation text])) ∨
      (¬ (state.isOpen = true ∧ accepting = true) ∧
        write (H := H) accepting text state = (false, [])) := by
  unfold write State.isOpen
  cases htransport : state.transport with
  | none => simp
  | some generation =>
      by_cases hready : (state.link.isOpen && accepting) = true
      · have hlink : state.link = .opened ∧ accepting = true := by
          simpa [Link.isOpen] using hready
        exact .inl ⟨generation, rfl, hlink.1, hlink.2, by simp [hready]⟩
      · exact .inr ⟨by simpa using hready, by simp [hready]⟩

private theorem report_move (setup : Setup H) (now : Nat) (accepting : Bool) (report : Report)
    (state : State) :
    Move setup now accepting state (.report report) (onReport setup now report state) := by
  by_cases hcurrent : report.generation = state.generation
  · rcases report with ⟨generation, event⟩
    change generation = state.generation at hcurrent
    subst hcurrent
    rw [onReport, if_pos rfl]
    cases event with
    | opened =>
        have houtcome : setLink (H := H) .opened state =
            ({ state with link := .opened }, (setLink .opened state).2) :=
          Prod.ext (setLink_fst .opened state) rfl
        change Move setup now accepting state _ (setLink .opened state)
        rw [houtcome]
        exact .opened
    | message text =>
        change Move setup now accepting state _ (onMessage setup now text state)
        by_cases htext : text = pongText
        · rw [htext, onMessage, if_pos rfl]
          exact .answered
        · rw [onMessage, if_neg htext]
          exact .delivered text htext
    | closed reason =>
        have houtcome : release.andThen (setLink (H := H) .disconnected) state =
            ({ state with transport := none, link := .disconnected },
              (state.transport.map Effect.release).toList ++
                (setLink .disconnected state).2) := by
          simp only [Transition.andThen, setLink_fst, setLink_snd, release_fst, release_snd]
        change Move setup now accepting state _
          (release.andThen (setLink .disconnected) state)
        rw [houtcome]
        exact .ended reason
  · rw [onReport, if_neg hcurrent]
    exact .foreign report hcurrent

private theorem timer_move (setup : Setup H) (now : Nat) (accepting : Bool)
    (fired : PendingTimer) (state : State) :
    Move setup now accepting state (.fire fired) (onTimer setup now fired state) := by
  by_cases hpending : fired ∈ state.pending
  · rw [onTimer, if_pos hpending]
    rcases fired with ⟨timer, deadline⟩
    by_cases hheeds : state.Heeds timer
    · cases timer with
      | verify generation =>
          change generation = state.generation at hheeds
          subst hheeds
          change Move setup now accepting state _
            (if _ = state.generation then verify setup now (state.without _) else _)
          rw [if_pos rfl, verify]
          cases hopen : state.isOpen with
          | true =>
              rw [if_pos (show (state.without _).isOpen = true from hopen)]
              exact .confirmed deadline hpending hopen
          | false =>
              rw [if_neg (show ¬ (state.without _).isOpen = true from ne_true_of_eq_false hopen)]
              exact .unconfirmed deadline hpending hopen
      | retry generation =>
          change generation = state.generation at hheeds
          subst hheeds
          change Move setup now accepting state _
            (if _ = state.generation then connect setup now (state.without _) else _)
          rw [if_pos rfl]
          exact .retried deadline hpending
      | pong generation number =>
          rcases hheeds with ⟨hawaited, rfl⟩
          change Move setup now accepting state _
            (pongTimeout setup now state.generation number (state.without _))
          rw [pongTimeout, if_pos ⟨hawaited, rfl⟩]
          exact .timedOut number deadline hpending hawaited
    · have hidle : ∀ outcome : State × List (Effect H),
          outcome = (state.without ⟨timer, deadline⟩, []) →
            Move setup now accepting state (.fire ⟨timer, deadline⟩) outcome := by
        rintro _ rfl
        exact .outdated _ hpending hheeds
      apply hidle
      cases timer with
      | verify generation => exact if_neg hheeds
      | retry generation => exact if_neg hheeds
      | pong generation number => exact if_neg hheeds
  · rw [onTimer, if_neg hpending]
    exact .absent fired hpending

private theorem ping_move (setup : Setup H) (now : Nat) (accepting : Bool) (state : State) :
    Move setup now accepting state .tick (ping setup now accepting state) := by
  rcases write_cases (H := H) accepting pingText { state with
      pingsSent := state.pingsSent + 1
      outstanding := some (state.outstanding.getD (state.pingsSent + 1)) } with
    ⟨generation, htransport, hlink, haccepting, hwrite⟩ | ⟨hunsent, hwrite⟩
  · rw [ping, hwrite]
    exact .pinged generation htransport hlink haccepting
  · have houtcome : ping setup now accepting state =
        giveUp setup now { state with pingsSent := state.pingsSent + 1 } := by
      rw [ping, hwrite]
      dsimp only
      rw [pongTimeout, if_pos ⟨rfl, rfl⟩]
      change giveUp setup now _ = _
      rw [giveUp_eq, giveUp_eq]
      simp [State.redialed, setLink_snd]
    rw [houtcome]
    exact .unpinged hunsent

private theorem send_move (setup : Setup H) (now : Nat) (accepting : Bool) (payload : Payload)
    (state : State) :
    Move setup now accepting state (.send payload) (send accepting payload state) := by
  rcases write_cases (H := H) accepting payload.frame state with
    ⟨generation, htransport, hlink, haccepting, hwrite⟩ | ⟨hunsent, hwrite⟩
  · rw [send, hwrite]
    exact .sent payload generation htransport hlink haccepting
  · rw [send, hwrite]
    exact .dropped payload hunsent

theorem shutdown_eq (state : State) :
    shutdown (H := H) state =
      (state.shut, (state.transport.map Effect.hangUp).toList ++ (setLink .closed state).2) := by
  simp only [shutdown, Transition.andThen, Transition.silently, setLink_fst, setLink_snd,
    hangUp_fst, hangUp_snd]
  simp [State.shut]

/-- Every step of a running connection is a move. -/
theorem step_move (setup : Setup H) (stimulus : Stimulus) {state : State}
    (hrunning : state.stopped = false) :
    Move setup stimulus.now stimulus.accepting state stimulus.input
      (step setup stimulus state) := by
  rcases stimulus with ⟨now, accepting, input⟩
  rw [step, if_neg (by simp [hrunning])]
  cases input with
  | tick => exact ping_move setup now accepting state
  | report report => exact report_move setup now accepting report state
  | fire fired => exact timer_move setup now accepting fired state
  | send payload => exact send_move setup now accepting payload state
  | reconnect => exact .reconnected
  | close =>
      change Move setup now accepting state .close (shutdown state)
      rw [shutdown_eq]
      exact .shut .close (.inl rfl)
  | abandon =>
      change Move setup now accepting state .abandon (shutdown state)
      rw [shutdown_eq]
      exact .shut .abandon (.inr rfl)

/-- A running connection delivers a text that is no pong, and leaves its state alone. -/
theorem step_message (setup : Setup H) {state : State} (hrunning : state.stopped = false)
    (now : Nat) (accepting : Bool) {text : String} (htext : text ≠ pongText) :
    step setup ⟨now, accepting, .report ⟨state.generation, .message text⟩⟩ state =
      (state, deliver setup now text) := by
  simp [step, hrunning, onReport, onMessage, htext]

theorem step_stopped (setup : Setup H) (stimulus : Stimulus) {state : State}
    (hstopped : state.stopped = true) : step setup stimulus state = (state, []) := by
  rw [step, if_pos hstopped]

/-! ## What moves do to the counters and the timers -/

variable {setup : Setup H} {now : Nat} {accepting : Bool} {state : State} {input : Input}
  {outcome : State × List (Effect H)}

theorem Move.pingsSent_le (hmove : Move setup now accepting state input outcome) :
    state.pingsSent ≤ outcome.1.pingsSent := by
  cases hmove with
  | retried | reconnected => simp [connect_eq, State.redialed, State.without]
  | timedOut | unpinged => simp [giveUp_eq, State.redialed, State.without]
  | pinged => simp [State.pinged]
  | _ => exact Nat.le_refl _

/-- A timer that is pending after a move was pending before or is the one that the move set:
the check of a fresh attempt, the retry of an attempt whose check has just fired, or the timer of
a ping just counted. -/
theorem Move.mem_pending (hmove : Move setup now accepting state input outcome)
    {timer : PendingTimer} (htimer : timer ∈ outcome.1.pending) :
    timer ∈ state.pending ∨
      outcome.1.generation = state.generation + 1 ∧
        timer = ⟨.verify (state.generation + 1), now + setup.liveness.reconnectDelay.toNat⟩ ∨
      (∃ deadline, ⟨.verify state.generation, deadline⟩ ∈ state.pending ∧
        input = .fire ⟨.verify state.generation, deadline⟩ ∧
        outcome.1.generation = state.generation ∧
        timer = ⟨.retry state.generation, now + setup.liveness.reconnectDelay.toNat⟩) ∨
      outcome.1.generation = state.generation ∧
        timer = ⟨.pong state.generation outcome.1.pingsSent,
          now + setup.liveness.pongTimeout.toNat⟩ := by
  have hkept : ∀ fired, timer ∈ (state.without fired).pending → timer ∈ state.pending :=
    fun _ hmem => List.mem_of_mem_erase hmem
  cases hmove with
  | outdated fired => exact .inl (hkept fired htimer)
  | confirmed => exact .inl (hkept _ htimer)
  | unconfirmed deadline hpending =>
      rcases List.mem_append.mp htimer with hold | hnew
      · exact .inl (hkept _ hold)
      · exact .inr (.inr (.inl ⟨deadline, hpending, rfl, rfl, List.mem_singleton.mp hnew⟩))
  | retried =>
      rw [connect_eq] at htimer ⊢
      exact (State.mem_redialed htimer).imp (hkept _) fun hnew => .inl ⟨rfl, hnew⟩
  | reconnected =>
      rw [connect_eq] at htimer ⊢
      exact (State.mem_redialed htimer).imp_right fun hnew => .inl ⟨rfl, hnew⟩
  | timedOut =>
      rw [giveUp_eq] at htimer ⊢
      exact (State.mem_redialed htimer).imp (hkept _) fun hnew => .inl ⟨rfl, hnew⟩
  | unpinged =>
      rw [giveUp_eq] at htimer ⊢
      exact (State.mem_redialed htimer).imp_right fun hnew => .inl ⟨rfl, hnew⟩
  | pinged =>
      rcases List.mem_append.mp htimer with hold | hnew
      · exact .inl hold
      · exact .inr (.inr (.inr ⟨rfl, List.mem_singleton.mp hnew⟩))
  | shut => simp [State.shut] at htimer
  | _ => exact .inl htimer

end Lifeline.Connection
