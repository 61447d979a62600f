import Lifeline.Proofs.Connection.Retention

/-!
# Accounting of attempts

A running connection dials for four reasons: it is asked to, the retry of its
attempt fires, the ping that is waited for was not answered in time, or a ping
cannot be sent.  The last two are the loss of the connection and are announced,
once; nothing else announces it.  Timers of older attempts stay pending, but
they are never heeded, and of the current attempt at most one check or retry is
pending, so there is never a second chain of retries.
-/

namespace Lifeline.Connection

variable {H : Type}

/-! ## Reasons for an attempt -/

/-- A fresh attempt is asked for, by a user or by the retry that is pending for the attempt. -/
inductive Asked (state : State) : Stimulus → Prop
  | reconnect (now : Nat) (accepting : Bool) : Asked state ⟨now, accepting, .reconnect⟩
  | retry (now : Nat) (accepting : Bool) (deadline : Nat)
      (hpending : ⟨.retry state.generation, deadline⟩ ∈ state.pending) :
      Asked state ⟨now, accepting, .fire ⟨.retry state.generation, deadline⟩⟩

/-- The connection is lost: the time is up for the outstanding ping of the attempt, or a ping
finds the link not open or the transport not taking it. -/
inductive Lost (state : State) : Stimulus → Prop
  | unanswered (now : Nat) (accepting : Bool) (number deadline : Nat)
      (hpending : ⟨.pong state.generation number, deadline⟩ ∈ state.pending)
      (hawaited : state.outstanding = some number) :
      Lost state ⟨now, accepting, .fire ⟨.pong state.generation number, deadline⟩⟩
  | unsent (now : Nat) (accepting : Bool)
      (hunsent : ¬ (state.isOpen = true ∧ accepting = true)) :
      Lost state ⟨now, accepting, .tick⟩

/-- How a message is set by an effect: its severity, and whether it is rich text. -/
def Effect.setOf? (message : String) : Effect H → Option (Severity × Bool)
  | .status (.set text severity richText) =>
      if text = message then some (severity, richText) else none
  | _ => none

/-- No text from the far end makes a delivery announce the loss of the connection. -/
theorem setOf_deliver (setup : Setup H) (now : Nat) (text : String) :
    (deliver setup now text).filterMap (Effect.setOf? StatusCall.lostMessage) = [] := by
  refine filterMap_deliver ?_ (fun _ _ => rfl) setup now text
  intro rest
  have hother : "Socket " ++ rest ≠ StatusCall.lostMessage := socket_ne (by decide) rest
  simp [Effect.setOf?, hother]

theorem setOf_giveUp (setup : Setup H) (now : Nat) (state : State) :
    (giveUp setup now state).2.filterMap (Effect.setOf? StatusCall.lostMessage) =
      [(.danger, false)] := by
  rw [filterMap_giveUp (fun _ => rfl) (fun _ => rfl)]
  simp [Effect.setOf?]

section Moves

variable {setup : Setup H} {now : Nat} {accepting : Bool} {state : State} {input : Input}
  {outcome : State × List (Effect H)}

theorem Move.eq_connect (hmove : Move setup now accepting state input outcome)
    (hasked : Asked state ⟨now, accepting, input⟩) :
    ∃ found, found.generation = state.generation ∧ outcome = connect setup now found := by
  cases hasked with
  | reconnect =>
      cases hmove with
      | reconnected => exact ⟨state, rfl, rfl⟩
      | shut _ hinput => simp at hinput
  | retry _ _ deadline hpending =>
      cases hmove with
      | absent _ habsent => exact absurd hpending habsent
      | outdated _ _ hheeds => exact absurd rfl hheeds
      | retried => exact ⟨state.without _, rfl, rfl⟩
      | shut _ hinput => simp at hinput

theorem Move.eq_giveUp (hmove : Move setup now accepting state input outcome)
    (hlost : Lost state ⟨now, accepting, input⟩) :
    ∃ found, found.generation = state.generation ∧ outcome = giveUp setup now found := by
  cases hlost with
  | unanswered _ _ number deadline hpending hawaited =>
      cases hmove with
      | absent _ habsent => exact absurd hpending habsent
      | outdated _ _ hheeds => exact absurd ⟨hawaited, rfl⟩ hheeds
      | timedOut => exact ⟨state.without _, rfl, rfl⟩
      | shut _ hinput => simp at hinput
  | unsent _ _ hunsent =>
      cases hmove with
      | pinged generation htransport hlink haccepting =>
          exact absurd ⟨State.isOpen_of_opened htransport hlink, haccepting⟩ hunsent
      | unpinged => exact ⟨{ state with pingsSent := state.pingsSent + 1 }, rfl, rfl⟩
      | shut _ hinput => simp at hinput

/-- Without a reason the attempt stays and no loss is announced. -/
theorem Move.stays (hmove : Move setup now accepting state input outcome)
    (hasked : ¬ Asked state ⟨now, accepting, input⟩)
    (hlost : ¬ Lost state ⟨now, accepting, input⟩) :
    outcome.1.generation = state.generation ∧
      outcome.2.filterMap (Effect.setOf? StatusCall.lostMessage) = [] := by
  cases hmove with
  | opened => exact ⟨rfl, filterMap_setLink (fun _ => rfl) _ _⟩
  | delivered text => exact ⟨rfl, setOf_deliver setup now text⟩
  | ended =>
      refine ⟨rfl, ?_⟩
      rw [List.filterMap_append, filterMap_release fun _ => rfl, filterMap_setLink fun _ => rfl,
        List.append_nil]
  | shut =>
      refine ⟨rfl, ?_⟩
      rw [List.filterMap_append, filterMap_hangUp fun _ => rfl, filterMap_setLink fun _ => rfl,
        List.append_nil]
  | retried deadline hpending => exact absurd (.retry now accepting deadline hpending) hasked
  | reconnected => exact absurd (.reconnect now accepting) hasked
  | timedOut number deadline hpending hawaited =>
      exact absurd (.unanswered now accepting number deadline hpending hawaited) hlost
  | unpinged hunsent => exact absurd (.unsent now accepting hunsent) hlost
  | _ => exact ⟨rfl, rfl⟩

theorem Move.generation_next (hmove : Move setup now accepting state input outcome)
    (hreason : Asked state ⟨now, accepting, input⟩ ∨ Lost state ⟨now, accepting, input⟩) :
    outcome.1.generation = state.generation + 1 := by
  rcases hreason with hasked | hlost
  · obtain ⟨found, hfound, rfl⟩ := hmove.eq_connect hasked
    rw [connect_eq, ← hfound]
    rfl
  · obtain ⟨found, hfound, rfl⟩ := hmove.eq_giveUp hlost
    rw [giveUp_eq, ← hfound]
    rfl

/-- An attempt is numbered next after the one before it. -/
theorem Move.generation_eq (hmove : Move setup now accepting state input outcome) :
    outcome.1.generation = state.generation ∨
      outcome.1.generation = state.generation + 1 := by
  by_cases hreason : Asked state ⟨now, accepting, input⟩ ∨ Lost state ⟨now, accepting, input⟩
  · exact .inr (hmove.generation_next hreason)
  · obtain ⟨hasked, hlost⟩ := not_or.mp hreason
    exact .inl (hmove.stays hasked hlost).1

/-- A move dials once if the attempt is a new one, and else not at all. -/
theorem Move.dialed_eq (hmove : Move setup now accepting state input outcome) :
    outcome.2.filterMap Effect.dialed? =
      List.range' (state.generation + 1) (outcome.1.generation - state.generation) :=
  hmove.orderly.dialed_eq.2

end Moves

/-! ## The check and the retry of an attempt -/

def Timer.generation : Timer → Nat
  | .verify generation => generation
  | .retry generation => generation
  | .pong generation _ => generation

/-- The pending timers that could lead to a retry of the current attempt: its check, or the
retry that the check has set. -/
def State.checks (state : State) : List PendingTimer :=
  state.pending.filter fun pending =>
    pending.timer = .verify state.generation ∨ pending.timer = .retry state.generation

theorem checks_without (state : State) (fired : PendingTimer) :
    (state.without fired).checks = state.checks.erase fired :=
  List.erase_filter.symm

theorem checks_schedule_retry (state : State) (deadline generation : Nat)
    (hcurrent : generation = state.generation) :
    (state.schedule deadline (.retry generation)).checks =
      state.checks ++ [⟨.retry generation, deadline⟩] := by
  unfold State.checks State.schedule
  rw [List.filter_append, hcurrent]
  simp

theorem checks_pinged (state : State) (deadline : Nat) :
    (state.pinged deadline).checks = state.checks := by
  unfold State.checks State.pinged
  rw [List.filter_append]
  simp

/-- A fresh attempt begins with its own check and nothing else of its kind. -/
theorem checks_redialed {state : State} (deadline : Nat)
    (hle : ∀ pending ∈ state.pending, pending.timer.generation ≤ state.generation) :
    (state.redialed deadline).checks = [⟨.verify (state.generation + 1), deadline⟩] := by
  have hold : (state.pending.filter fun pending =>
      decide (pending.timer = .verify (state.generation + 1) ∨
        pending.timer = .retry (state.generation + 1))) = [] := by
    rw [List.filter_eq_nil_iff]
    intro pending hpending hchecks
    have hbefore := hle pending hpending
    rcases of_decide_eq_true hchecks with htimer | htimer <;>
      · rw [htimer, Timer.generation] at hbefore
        omega
  unfold State.checks State.redialed
  rw [List.filter_append, hold]
  simp

/-- What a connection keeps of its timers: none belongs to an attempt yet to come, and at most
one could lead to a retry of the current attempt. -/
structure Watched (state : State) : Prop where
  generation_le : ∀ pending ∈ state.pending, pending.timer.generation ≤ state.generation
  one : state.checks.length ≤ 1

theorem Watched.generation_le_of_move {setup : Setup H} {now : Nat} {accepting : Bool}
    {state : State} {input : Input} {outcome : State × List (Effect H)}
    (hwatched : Watched state) (hmove : Move setup now accepting state input outcome) :
    ∀ pending ∈ outcome.1.pending, pending.timer.generation ≤ outcome.1.generation := by
  intro pending hpending
  have hgrows := hmove.generation_le
  rcases hmove.mem_pending hpending with hold | ⟨hnext, rfl⟩ | ⟨_, _, _, _, rfl⟩ | ⟨_, rfl⟩
  · exact Nat.le_trans (hwatched.generation_le pending hold) hgrows
  · exact Nat.le_of_eq hnext.symm
  · exact hgrows
  · exact hgrows

theorem Watched.one_of_move {setup : Setup H} {now : Nat} {accepting : Bool} {state : State}
    {input : Input} {outcome : State × List (Effect H)} (hwatched : Watched state)
    (hmove : Move setup now accepting state input outcome) : outcome.1.checks.length ≤ 1 := by
  have hwithout : ∀ fired, ∀ pending ∈ (state.without fired).pending,
      pending.timer.generation ≤ (state.without fired).generation :=
    fun _ pending hmem => hwatched.generation_le pending (List.mem_of_mem_erase hmem)
  cases hmove with
  | outdated | confirmed =>
      rw [checks_without]
      exact Nat.le_trans List.length_erase_le hwatched.one
  | unconfirmed deadline hpending =>
      -- The retry takes the place of the check that fired.
      have hcheck : ⟨.verify state.generation, deadline⟩ ∈ state.checks :=
        List.mem_filter.mpr ⟨hpending, by simp⟩
      have hone := hwatched.one
      have hchecks := checks_schedule_retry (state.without ⟨.verify state.generation, deadline⟩)
        (now + setup.liveness.reconnectDelay.toNat) state.generation rfl
      rw [hchecks, checks_without, List.length_append, List.length_erase_of_mem hcheck,
        List.length_singleton]
      omega
  | retried =>
      rw [connect_eq, checks_redialed _ (hwithout _)]
      exact Nat.le_refl 1
  | timedOut =>
      rw [giveUp_eq, checks_redialed _ (hwithout _)]
      exact Nat.le_refl 1
  | reconnected =>
      rw [connect_eq, checks_redialed _ hwatched.generation_le]
      exact Nat.le_refl 1
  | unpinged =>
      rw [giveUp_eq, checks_redialed]
      · exact Nat.le_refl 1
      · exact hwatched.generation_le
  | pinged =>
      rw [checks_pinged]
      exact hwatched.one
  | shut => exact Nat.zero_le 1
  | _ => exact hwatched.one

theorem Watched.of_move {setup : Setup H} {now : Nat} {accepting : Bool} {state : State}
    {input : Input} {outcome : State × List (Effect H)} (hwatched : Watched state)
    (hmove : Move setup now accepting state input outcome) : Watched outcome.1 :=
  ⟨hwatched.generation_le_of_move hmove, hwatched.one_of_move hmove⟩

theorem watched (setup : Setup H) (began : Nat) (stimuli : List Stimulus) :
    Watched (stateAfter setup began stimuli) := by
  refine life_induction (motive := fun _ state => Watched state) ?_ ?_ ?_ stimuli
  · rw [start_eq]
    constructor <;> split <;>
      simp [State.redialed, State.collapsed, State.initial, Timer.generation, State.checks]
  · exact fun _ _ _ _ _ _ _ _ hwatched hmove => hwatched.of_move hmove
  · exact fun _ _ _ _ hwatched => hwatched

/-! ## When a retry comes -/

/-- The attempt began at the time: it is the first one, or it was dialed at that moment. -/
def StartedAt (began : Nat) (past : List (Moment H)) (generation time : Nat) : Prop :=
  generation = 1 ∧ time = began ∨
    ∃ moment ∈ past, .dial generation ∈ moment.outcome.2 ∧ moment.stimulus.now = time

theorem startedAt_concat (began : Nat) (past : List (Moment H)) (moment : Moment H)
    (generation time : Nat) :
    StartedAt began (past ++ [moment]) generation time ↔
      StartedAt began past generation time ∨
        .dial generation ∈ moment.outcome.2 ∧ moment.stimulus.now = time := by
  unfold StartedAt
  simp only [List.mem_append, List.mem_singleton, or_and_right, exists_or, exists_eq_left]
  rw [or_assoc]

/-- Timers fire at their deadlines. -/
def OnTime (stimuli : List Stimulus) : Prop :=
  ∀ stimulus ∈ stimuli, ∀ fired, stimulus.input = .fire fired → stimulus.now = fired.deadline

/-- When the checks and the retries that are pending are due, counted from the beginning of
their attempts. -/
structure Timetable (setup : Setup H) (began : Nat) (past : List (Moment H)) (state : State) :
    Prop extends Watched state where
  started : ∃ time, StartedAt began past state.generation time
  started_le : ∀ generation time, StartedAt began past generation time →
    generation ≤ state.generation
  verify_due : ∀ generation deadline time, ⟨.verify generation, deadline⟩ ∈ state.pending →
    StartedAt began past generation time →
      deadline = time + setup.liveness.reconnectDelay.toNat
  retry_due : ∀ generation deadline time, ⟨.retry generation, deadline⟩ ∈ state.pending →
    StartedAt began past generation time →
      deadline = time + 2 * setup.liveness.reconnectDelay.toNat

section Timetable

variable {setup : Setup H} {began now : Nat} {past : List (Moment H)} {accepting : Bool}
  {state : State} {input : Input} {outcome : State × List (Effect H)}

/-- What a move dials is the attempt that follows, which then is the current one. -/
theorem Move.eq_of_mem_dialed (hmove : Move setup now accepting state input outcome)
    {generation : Nat} (hdial : .dial generation ∈ outcome.2) :
    generation = state.generation + 1 ∧ outcome.1.generation = state.generation + 1 := by
  have hmem : generation ∈ outcome.2.filterMap Effect.dialed? :=
    List.mem_filterMap.mpr ⟨_, hdial, rfl⟩
  rw [hmove.dialed_eq, List.mem_range'_1] at hmem
  have hnext := hmove.generation_eq
  omega

theorem Move.dial_mem (hmove : Move setup now accepting state input outcome)
    (hnext : outcome.1.generation = state.generation + 1) :
    .dial (state.generation + 1) ∈ outcome.2 := by
  have hdialed : outcome.2.filterMap Effect.dialed? = [state.generation + 1] := by
    rw [hmove.dialed_eq, hnext]
    simp
  have hmem : state.generation + 1 ∈ outcome.2.filterMap Effect.dialed? := by simp [hdialed]
  obtain ⟨effect, heffect, hdial⟩ := List.mem_filterMap.mp hmem
  cases effect with
  | dial generation =>
      have hsame : generation = state.generation + 1 := Option.some.inj hdial
      rwa [← hsame]
  | _ => simp [Effect.dialed?] at hdial

/-- An attempt made before a move began when it began. -/
private theorem Timetable.startedAt_of_le
    (hmove : Move setup now accepting state input outcome) {generation time : Nat}
    (hstarted : StartedAt began (past ++ [⟨state, ⟨now, accepting, input⟩, outcome⟩])
      generation time) (hle : generation ≤ state.generation) :
    StartedAt began past generation time := by
  rcases (startedAt_concat began past _ generation time).mp hstarted with hold | ⟨hdial, -⟩
  · exact hold
  · have hnew := (hmove.eq_of_mem_dialed hdial).1
    omega

private theorem Timetable.started_of_move (htable : Timetable setup began past state)
    (hmove : Move setup now accepting state input outcome) :
    ∃ time, StartedAt began (past ++ [⟨state, ⟨now, accepting, input⟩, outcome⟩])
      outcome.1.generation time := by
  rcases hmove.generation_eq with hsame | hnext
  · obtain ⟨time, hstarted⟩ := htable.started
    rw [hsame]
    exact ⟨time, (startedAt_concat _ _ _ _ _).mpr (.inl hstarted)⟩
  · rw [hnext]
    exact ⟨now, (startedAt_concat _ _ _ _ _).mpr (.inr ⟨hmove.dial_mem hnext, rfl⟩)⟩

private theorem Timetable.started_le_of_move (htable : Timetable setup began past state)
    (hmove : Move setup now accepting state input outcome) {generation time : Nat}
    (hstarted : StartedAt began (past ++ [⟨state, ⟨now, accepting, input⟩, outcome⟩])
      generation time) : generation ≤ outcome.1.generation := by
  rcases (startedAt_concat began past _ generation time).mp hstarted with hold | ⟨hdial, -⟩
  · exact Nat.le_trans (htable.started_le generation time hold) hmove.generation_le
  · have hnew := hmove.eq_of_mem_dialed hdial
    omega

private theorem Timetable.verify_due_of_move (htable : Timetable setup began past state)
    (hmove : Move setup now accepting state input outcome) {generation deadline time : Nat}
    (hpending : ⟨.verify generation, deadline⟩ ∈ outcome.1.pending)
    (hstarted : StartedAt began (past ++ [⟨state, ⟨now, accepting, input⟩, outcome⟩])
      generation time) : deadline = time + setup.liveness.reconnectDelay.toNat := by
  rcases hmove.mem_pending hpending with hold | ⟨-, hnew⟩ | ⟨_, _, _, _, hnew⟩ | ⟨-, hnew⟩
  · have hle : generation ≤ state.generation := htable.generation_le _ hold
    exact htable.verify_due generation deadline time hold
      (Timetable.startedAt_of_le hmove hstarted hle)
  · simp only [PendingTimer.mk.injEq, Timer.verify.injEq] at hnew
    rcases (startedAt_concat began past _ generation time).mp hstarted with hearly | ⟨-, hnow⟩
    · have hle := htable.started_le generation time hearly
      omega
    · rw [hnew.2, ← hnow]
  · simp at hnew
  · simp at hnew

private theorem Timetable.retry_due_of_move (htable : Timetable setup began past state)
    (hontime : ∀ fired, input = .fire fired → now = fired.deadline)
    (hmove : Move setup now accepting state input outcome) {generation deadline time : Nat}
    (hpending : ⟨.retry generation, deadline⟩ ∈ outcome.1.pending)
    (hstarted : StartedAt began (past ++ [⟨state, ⟨now, accepting, input⟩, outcome⟩])
      generation time) : deadline = time + 2 * setup.liveness.reconnectDelay.toNat := by
  rcases hmove.mem_pending hpending with hold | ⟨-, hnew⟩ | ⟨due, hcheck, hinput, -, hnew⟩ |
    ⟨-, hnew⟩
  · have hle : generation ≤ state.generation := htable.generation_le _ hold
    exact htable.retry_due generation deadline time hold
      (Timetable.startedAt_of_le hmove hstarted hle)
  · simp at hnew
  · -- The check fired when it was due, one delay after the attempt began.
    simp only [PendingTimer.mk.injEq, Timer.retry.injEq] at hnew
    obtain ⟨rfl, rfl⟩ := hnew
    have hearly := Timetable.startedAt_of_le hmove hstarted (Nat.le_refl _)
    have hdue := htable.verify_due _ due time hcheck hearly
    have hnow : now = due := hontime _ hinput
    omega
  · simp at hnew

end Timetable

theorem timetable (setup : Setup H) (began : Nat) (stimuli : List Stimulus)
    (hontime : OnTime stimuli) :
    Timetable setup began (moments setup began stimuli) (stateAfter setup began stimuli) := by
  rw [← moments_stimuli setup began stimuli] at hontime
  revert hontime
  refine life_induction (motive := fun past state => OnTime (past.map (·.stimulus)) →
    Timetable setup began past state) ?_ ?_ ?_ stimuli
  · intro _
    have hstarted : ∀ generation time, StartedAt (H := H) began [] generation time ↔
        generation = 1 ∧ time = began := by
      simp [StartedAt]
    refine ⟨watched setup began [], ?_, ?_, ?_, ?_⟩ <;> rw [start_eq] <;> split <;>
      simp +contextual [hstarted, State.redialed, State.collapsed, State.initial]
  · intro past state now accepting input outcome _ _ hpast hmove hontime
    have hbefore : OnTime (past.map (·.stimulus)) := by
      intro stimulus hmem
      apply hontime stimulus
      rw [List.map_append]
      exact List.mem_append_left _ hmem
    have hfires : ∀ fired, input = .fire fired → now = fired.deadline :=
      hontime ⟨now, accepting, input⟩ (by simp)
    have htable := hpast hbefore
    exact ⟨htable.of_move hmove, htable.started_of_move hmove,
      fun _ _ hstarted => htable.started_le_of_move hmove hstarted,
      fun _ _ _ hpending hstarted => htable.verify_due_of_move hmove hpending hstarted,
      fun _ _ _ hpending hstarted => htable.retry_due_of_move hfires hmove hpending hstarted⟩
  · intro past state stimulus _ hpast hontime
    have hidle : ∀ generation time,
        StartedAt began (past ++ [⟨state, stimulus, (state, [])⟩]) generation time ↔
          StartedAt began past generation time := by
      intro generation time
      rw [startedAt_concat]
      simp
    have htable := hpast fun earlier hmem => hontime earlier (by
      rw [List.map_append]
      exact List.mem_append_left _ hmem)
    refine ⟨htable.toWatched, ?_, ?_, ?_, ?_⟩ <;> simp only [hidle]
    · exact htable.started
    · exact htable.started_le
    · exact htable.verify_due
    · exact htable.retry_due

/-- Every attempt and every announced loss has its reason.  A step dials once where an attempt is
asked for or the connection is lost, and never else; it announces the loss, as a danger and once,
exactly where the connection is lost.  At most one check or retry is pending for the current
attempt, and where timers fire on time the retry comes two reconnect delays after the attempt
began. -/
theorem attempts_have_reasons (setup : Setup H) (began : Nat) (stimuli : List Stimulus)
    (stimulus : Stimulus) (hrunning : (stateAfter setup began stimuli).stopped = false) :
    let state := stateAfter setup began stimuli
    let effects := (step setup stimulus state).2
    let dialed := effects.filterMap Effect.dialed?
    let announced := effects.filterMap (Effect.setOf? StatusCall.lostMessage)
    (Asked state stimulus ∨ Lost state stimulus → dialed = [state.generation + 1]) ∧
      (¬ (Asked state stimulus ∨ Lost state stimulus) → dialed = []) ∧
      (Lost state stimulus → announced = [(.danger, false)]) ∧
      (¬ Lost state stimulus → announced = []) ∧
      state.checks.length ≤ 1 ∧
      (Retried state stimulus → OnTime (stimuli ++ [stimulus]) → ∀ time,
        StartedAt began (moments setup began stimuli) state.generation time ↔
          stimulus.now = time + 2 * setup.liveness.reconnectDelay.toNat) := by
  intro state effects dialed announced
  have hmove := step_move setup stimulus hrunning
  have hdialed : dialed = List.range' (state.generation + 1)
      ((step setup stimulus state).1.generation - state.generation) := hmove.dialed_eq
  refine ⟨?_, ?_, ?_, ?_, (watched setup began stimuli).one, ?_⟩
  · intro hreason
    have hnext : (step setup stimulus state).1.generation = state.generation + 1 :=
      hmove.generation_next hreason
    rw [hdialed, hnext]
    simp
  · intro hreason
    obtain ⟨hasked, hlost⟩ := not_or.mp hreason
    have hsame : (step setup stimulus state).1.generation = state.generation :=
      (hmove.stays hasked hlost).1
    rw [hdialed, hsame, Nat.sub_self]
    rfl
  · intro hlost
    obtain ⟨found, -, houtcome⟩ := hmove.eq_giveUp hlost
    have hannounced : announced = (giveUp setup stimulus.now found).2.filterMap
        (Effect.setOf? StatusCall.lostMessage) := by rw [← houtcome]
    rw [hannounced, setOf_giveUp]
  · intro hlost
    by_cases hasked : Asked state stimulus
    · obtain ⟨found, -, houtcome⟩ := hmove.eq_connect hasked
      have hannounced : announced = (connect setup stimulus.now found).2.filterMap
          (Effect.setOf? StatusCall.lostMessage) := by rw [← houtcome]
      rw [hannounced, filterMap_connect (fun _ => rfl) (fun _ => rfl)]
      rfl
    · exact (hmove.stays hasked hlost).2
  · rintro ⟨deadline, hpending, hinput⟩ hontime time
    have htable := timetable setup began stimuli fun earlier hmem =>
      hontime earlier (List.mem_append_left _ hmem)
    have hnow : stimulus.now = deadline := hontime stimulus (by simp) _ hinput
    constructor
    · intro hstarted
      rw [hnow, htable.retry_due state.generation deadline time hpending hstarted]
    · intro hdue
      obtain ⟨start, hstarted⟩ := htable.started
      have hstart := htable.retry_due state.generation deadline start hpending hstarted
      have hsame : time = start := by omega
      rw [hsame]
      exact hstarted

/-- The first attempt is not answered, and its retry comes after ten seconds. -/
theorem first_attempt_retried_after_two_delays :
    let setup := Setup.bare ⟨25000, 5000, 2000⟩
    let stimuli : List Stimulus := [⟨5000, true, .fire ⟨.verify 1, 5000⟩⟩]
    let stimulus : Stimulus := ⟨10000, true, .fire ⟨.retry 1, 10000⟩⟩
    let state := stateAfter setup 0 stimuli
    state.stopped = false ∧ Asked state stimulus ∧
      (step setup stimulus state).2.filterMap Effect.dialed? = [2] ∧
      StartedAt 0 (moments setup 0 stimuli) 1 0 := by
  intro setup stimuli stimulus state
  have hrunning : state.stopped = false := by decide
  have hpending : ⟨.retry 1, 10000⟩ ∈ state.pending := by decide
  have hasked : Asked state stimulus := .retry 10000 true 10000 hpending
  have hontime : OnTime (stimuli ++ [stimulus]) := by
    simp [OnTime, stimuli, stimulus]
  obtain ⟨hdials, -, -, -, -, hretry⟩ := attempts_have_reasons setup 0 stimuli stimulus hrunning
  exact ⟨hrunning, hasked, hdials (.inl hasked),
    (hretry ⟨10000, hpending, rfl⟩ hontime 0).mpr (by decide)⟩

end Lifeline.Connection
