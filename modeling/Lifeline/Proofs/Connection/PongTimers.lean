import Lifeline.Proofs.Connection.Silence

/-!
# Pong timers

Every ping that is queued sets a timer of its own, and none is taken back.  One
of them acts exactly if its ping is the silent one of the current attempt, and
the silent ping always has its timer, set for one pong timeout after that ping:
later pings neither move it nor replace it.
-/

namespace Lifeline.Connection

variable {H : Type}

/-- A pong timer that is heeded gives the attempt up, any other one is just gone. -/
theorem step_fire_pong (setup : Setup H) (now : Nat) (accepting : Bool) {state : State}
    (hrunning : state.stopped = false) {generation number deadline : Nat}
    (hpending : ⟨.pong generation number, deadline⟩ ∈ state.pending) :
    let fired : PendingTimer := ⟨.pong generation number, deadline⟩
    let outcome := step setup ⟨now, accepting, .fire fired⟩ state
    (state.Heeds fired.timer → outcome = giveUp setup now (state.without fired)) ∧
      (¬ state.Heeds fired.timer → outcome = (state.without fired, [])) := by
  have hmove := step_move setup
    ⟨now, accepting, .fire ⟨.pong generation number, deadline⟩⟩ hrunning
  dsimp only at hmove ⊢
  generalize step setup _ state = outcome at hmove ⊢
  cases hmove with
  | absent _ habsent => exact absurd hpending habsent
  | outdated _ _ hheeds => exact ⟨fun hheeded => absurd hheeded hheeds, fun _ => rfl⟩
  | timedOut _ _ _ hawaited =>
      exact ⟨fun _ => rfl, fun hheeds => absurd ⟨hawaited, rfl⟩ hheeds⟩
  | shut _ hinput => simp at hinput

/-- A pong timer announces the loss of the connection and starts a fresh attempt exactly if it
belongs to the current attempt and its ping is silent; otherwise it is gone and nothing else
changes. -/
theorem pongTimer_acts_iff_silent (setup : Setup H) (began : Nat) (stimuli : List Stimulus)
    (now : Nat) (accepting : Bool) (generation number deadline : Nat)
    (hpending : ⟨.pong generation number, deadline⟩ ∈
      (stateAfter setup began stimuli).pending) :
    let state := stateAfter setup began stimuli
    let fired : PendingTimer := ⟨.pong generation number, deadline⟩
    let outcome := step setup ⟨now, accepting, .fire fired⟩ state
    let blamed := generation = state.generation ∧
      Silent (history setup began stimuli) generation number
    (.status (.set StatusCall.lostMessage .danger false) ∈ outcome.2 ∧
        .dial (state.generation + 1) ∈ outcome.2 ∧
        outcome.1.generation = state.generation + 1 ↔ blamed) ∧
      (¬ blamed → outcome = (state.without fired, [])) := by
  intro state fired outcome blamed
  have hrunning : state.stopped = false := running_of_pending hpending
  have hheeds : state.Heeds fired.timer ↔ blamed := by
    constructor
    · rintro ⟨hslot, hgeneration⟩
      refine ⟨hgeneration, ?_⟩
      rw [outstanding_eq_some_iff setup began stimuli hrunning, ← hgeneration] at hslot
      exact hslot
    · rintro ⟨hgeneration, hsilent⟩
      refine ⟨?_, hgeneration⟩
      rw [outstanding_eq_some_iff setup began stimuli hrunning, ← hgeneration]
      exact hsilent
  obtain ⟨hacts, hidles⟩ := step_fire_pong setup now accepting hrunning hpending
  rw [← hheeds]
  refine ⟨⟨?_, ?_⟩, hidles⟩
  · rintro ⟨hlost, -⟩
    by_contra hunheeded
    have hidle : outcome = (state.without fired, []) := hidles hunheeded
    simp [hidle] at hlost
  · intro hheeded
    have hgiven : outcome = giveUp setup now (state.without fired) := hacts hheeded
    simp [hgiven, giveUp_eq, State.without, State.redialed]

/-- Ping windows that overlap: the first ping is answered, the second is not, and the third goes
out while the second is still waited for. -/
def overlapping : List Stimulus :=
  [⟨10, true, .report ⟨1, .opened⟩⟩, ⟨1000, true, .tick⟩,
    ⟨1600, true, .report ⟨1, .message pongText⟩⟩, ⟨2000, true, .tick⟩, ⟨3000, true, .tick⟩]

theorem second_ping_blamed_for_silence :
    let setup := Setup.bare ⟨1000, 60000, 2500⟩
    let state := stateAfter setup 0 overlapping
    ⟨.pong 1 2, 4500⟩ ∈ state.pending ∧
      .dial 2 ∈ (step setup ⟨4500, true, .fire ⟨.pong 1 2, 4500⟩⟩ state).2 := by
  intro setup state
  have hpending : ⟨.pong 1 2, 4500⟩ ∈ state.pending := by decide
  have hsilent : Silent (history setup 0 overlapping) 1 2 :=
    ⟨[.attempt 1, .ping 1 1 1000], .pong 1, [], 2000, [.ping 1 3 3000], by decide, rfl,
      by simp, by simp [Mark.resets]⟩
  have hacts := (pongTimer_acts_iff_silent setup 0 overlapping 4500 true 1 2 4500 hpending).1
  exact ⟨hpending, (hacts.mpr ⟨by decide, hsilent⟩).2.1⟩

/-! ## The timer of the outstanding ping -/

/-- The pending timers for the pong of a ping in the current attempt. -/
def State.timersFor (state : State) (number : Nat) : List PendingTimer :=
  state.pending.filter fun pending => pending.timer = .pong state.generation number

theorem timersFor_without (state : State) {fired : PendingTimer} {number : Nat}
    (hfired : fired.timer ≠ .pong state.generation number) :
    (state.without fired).timersFor number = state.timersFor number := by
  have hmem : fired ∉ state.timersFor number := by
    intro hmem
    exact hfired (by simpa using (List.mem_filter.mp hmem).2)
  calc
    (state.without fired).timersFor number = (state.timersFor number).erase fired :=
      List.erase_filter.symm
    _ = state.timersFor number := List.erase_of_not_mem hmem

theorem timersFor_schedule (state : State) (deadline : Nat) {timer : Timer} {number : Nat}
    (htimer : timer ≠ .pong state.generation number) :
    (state.schedule deadline timer).timersFor number = state.timersFor number := by
  unfold State.timersFor State.schedule
  rw [List.filter_append]
  simp [htimer]

theorem timersFor_schedule_pong (state : State) (deadline number : Nat) :
    (state.schedule deadline (.pong state.generation number)).timersFor number =
      state.timersFor number ++ [⟨.pong state.generation number, deadline⟩] := by
  unfold State.timersFor State.schedule
  rw [List.filter_append]
  simp

/-- Where the slot keeps its ping over a move, the attempt and the timers for it stay. -/
theorem Move.timersFor_eq {setup : Setup H} {now : Nat} {accepting : Bool} {state : State}
    {input : Input} {outcome : State × List (Effect H)} {number : Nat}
    (hmove : Move setup now accepting state input outcome)
    (hslot : outcome.1.outstanding = some number) (hold : number ≤ state.pingsSent) :
    state.outstanding = some number ∧ outcome.1.generation = state.generation ∧
      outcome.1.timersFor number = state.timersFor number := by
  cases hmove with
  | answered | shut => simp [State.shut] at hslot
  | retried | reconnected => simp [connect_eq, State.redialed] at hslot
  | timedOut | unpinged => simp [giveUp_eq, State.redialed] at hslot
  | outdated fired _ hheeds =>
      refine ⟨hslot, rfl, timersFor_without state ?_⟩
      intro hfired
      exact hheeds (by rw [hfired]; exact ⟨hslot, rfl⟩)
  | confirmed => exact ⟨hslot, rfl, timersFor_without state (by simp)⟩
  | unconfirmed deadline =>
      refine ⟨hslot, rfl, ?_⟩
      rw [timersFor_schedule _ _ (by simp), timersFor_without state (by simp)]
  | pinged =>
      have hslot' : state.outstanding.getD (state.pingsSent + 1) = number := by
        simpa [State.pinged] using hslot
      have hsome : state.outstanding = some number := by
        cases hcase : state.outstanding with
        | none =>
            rw [hcase, Option.getD_none] at hslot'
            omega
        | some first => simpa [hcase] using hslot'
      refine ⟨hsome, rfl, ?_⟩
      exact timersFor_schedule state _ (by simp; omega)
  | _ => exact ⟨hslot, rfl, rfl⟩

/-- At the moment a tick queued the ping on the transport of the attempt. -/
def Moment.Pings (moment : Moment H) (generation number : Nat) : Prop :=
  moment.stimulus.input = .tick ∧ moment.outcome.1.pingsSent = number ∧
    .frame generation pingText ∈ moment.outcome.2

/-- What a life keeps of its pong timers: their numbers were given out, and the ping in the slot
was queued in the current attempt and has the one timer that was set then. -/
structure Timed (setup : Setup H) (past : List (Moment H)) (state : State) : Prop where
  number_le : ∀ generation number deadline,
    ⟨.pong generation number, deadline⟩ ∈ state.pending → number ≤ state.pingsSent
  slot : ∀ number, state.outstanding = some number →
    1 ≤ number ∧ number ≤ state.pingsSent ∧
      ∃ moment ∈ past, moment.Pings state.generation number ∧
        state.timersFor number = [⟨.pong state.generation number,
          moment.stimulus.now + setup.liveness.pongTimeout.toNat⟩]

private theorem Timed.number_le_of_move {setup : Setup H} {past : List (Moment H)} {now : Nat}
    {accepting : Bool} {state : State} {input : Input} {outcome : State × List (Effect H)}
    (htimed : Timed setup past state) (hmove : Move setup now accepting state input outcome)
    {generation number deadline : Nat}
    (hmem : ⟨.pong generation number, deadline⟩ ∈ outcome.1.pending) :
    number ≤ outcome.1.pingsSent := by
  rcases hmove.mem_pending hmem with hold | hverify | hretry | hpong
  · exact Nat.le_trans (htimed.number_le generation number deadline hold) hmove.pingsSent_le
  · simp at hverify
  · simp at hretry
  · simp only [PendingTimer.mk.injEq, Timer.pong.injEq] at hpong
    exact Nat.le_of_eq hpong.2.1.2

/-- No timer is pending for a number that has not been given out. -/
private theorem Timed.timersFor_next {setup : Setup H} {past : List (Moment H)} {state : State}
    (htimed : Timed setup past state) : state.timersFor (state.pingsSent + 1) = [] := by
  unfold State.timersFor
  rw [List.filter_eq_nil_iff]
  rintro ⟨timer, deadline⟩ hpending htimer
  have htimer' : timer = .pong state.generation (state.pingsSent + 1) := by simpa using htimer
  rw [htimer'] at hpending
  exact Nat.not_succ_le_self _ (htimed.number_le _ _ _ hpending)

/-- A number that a move puts into the slot is that of a ping queued by the move. -/
private theorem Timed.fresh_slot {setup : Setup H} {past : List (Moment H)} {now : Nat}
    {accepting : Bool} {state : State} {input : Input} {outcome : State × List (Effect H)}
    {number : Nat} (htimed : Timed setup past state) (hholds : state.HoldsCurrent)
    (hmove : Move setup now accepting state input outcome)
    (hslot : outcome.1.outstanding = some number) (hfresh : ¬ number ≤ state.pingsSent) :
    number = state.pingsSent + 1 ∧ outcome.1.pingsSent = state.pingsSent + 1 ∧
      Moment.Pings ⟨state, ⟨now, accepting, input⟩, outcome⟩ outcome.1.generation number ∧
      outcome.1.timersFor number = [⟨.pong outcome.1.generation number,
        now + setup.liveness.pongTimeout.toNat⟩] := by
  cases hmove with
  | answered | shut => simp [State.shut] at hslot
  | retried | reconnected => simp [connect_eq, State.redialed] at hslot
  | timedOut | unpinged => simp [giveUp_eq, State.redialed] at hslot
  | pinged generation htransport =>
      have hnumber : state.outstanding.getD (state.pingsSent + 1) = number := by
        simpa [State.pinged] using hslot
      have hnone : state.outstanding = none := by
        cases hcase : state.outstanding with
        | none => rfl
        | some first =>
            rw [hcase, Option.getD_some] at hnumber
            exact absurd (hnumber ▸ (htimed.slot first hcase).2.1) hfresh
      rw [hnone, Option.getD_none] at hnumber
      subst hnumber
      rw [hholds generation htransport]
      refine ⟨rfl, rfl, ⟨rfl, rfl, List.mem_singleton.mpr rfl⟩, ?_⟩
      have hone := timersFor_schedule_pong state (now + setup.liveness.pongTimeout.toNat)
        (state.pingsSent + 1)
      rw [htimed.timersFor_next] at hone
      exact hone
  | _ => exact absurd (htimed.slot number hslot).2.1 hfresh

theorem timed (setup : Setup H) (began : Nat) (stimuli : List Stimulus) :
    Timed setup (moments setup began stimuli) (stateAfter setup began stimuli) := by
  refine life_induction (motive := Timed setup) ?_ ?_ ?_ stimuli
  · rw [start_eq]
    constructor <;> split <;> simp [State.redialed, State.collapsed, State.initial]
  · intro past state now accepting input outcome _ hholds htimed hmove
    refine ⟨fun _ _ _ hmem => htimed.number_le_of_move hmove hmem, ?_⟩
    intro number hslot
    by_cases hold : number ≤ state.pingsSent
    · obtain ⟨hbefore, hgeneration, htimers⟩ := hmove.timersFor_eq hslot hold
      obtain ⟨hpositive, _, moment, hmoment, hpings, hone⟩ := htimed.slot number hbefore
      refine ⟨hpositive, Nat.le_trans hold hmove.pingsSent_le, moment, by simp [hmoment], ?_, ?_⟩
      · rwa [hgeneration]
      · rw [htimers, hone, hgeneration]
    · obtain ⟨hnumber, hcount, hpings, hone⟩ := htimed.fresh_slot hholds hmove hslot hold
      exact ⟨by omega, by omega, _, by simp, hpings, hone⟩
  · intro past state stimulus _ htimed
    refine ⟨htimed.number_le, ?_⟩
    intro number hslot
    obtain ⟨hpositive, hle, moment, hmoment, hrest⟩ := htimed.slot number hslot
    exact ⟨hpositive, hle, moment, by simp [hmoment], hrest⟩

/-- Pings are never counted back. -/
theorem pingsSent_le (setup : Setup H) (began : Nat) (earlier later : List Stimulus) :
    (stateAfter setup began earlier).pingsSent ≤
      (stateAfter setup began (earlier ++ later)).pingsSent := by
  induction later using List.reverseRecOn with
  | nil => simp
  | append_singleton later stimulus ih =>
      rw [← List.append_assoc, stateAfter_concat]
      cases hstop : (stateAfter setup began (earlier ++ later)).stopped with
      | false => exact Nat.le_trans ih (step_move setup stimulus hstop).pingsSent_le
      | true => rwa [step_stopped setup stimulus hstop]

/-- As long as a ping stays in the slot its attempt and its timer stay. -/
theorem timersFor_append (setup : Setup H) (began : Nat) (earlier later : List Stimulus)
    {number : Nat} (hslot : (stateAfter setup began earlier).outstanding = some number)
    (hlater : (stateAfter setup began (earlier ++ later)).outstanding = some number) :
    (stateAfter setup began (earlier ++ later)).generation =
        (stateAfter setup began earlier).generation ∧
      (stateAfter setup began (earlier ++ later)).timersFor number =
        (stateAfter setup began earlier).timersFor number := by
  induction later using List.reverseRecOn with
  | nil => simp
  | append_singleton later stimulus ih =>
      have hold : number ≤ (stateAfter setup began (earlier ++ later)).pingsSent :=
        Nat.le_trans ((timed setup began earlier).slot number hslot).2.1
          (pingsSent_le setup began earlier later)
      rw [← List.append_assoc, stateAfter_concat] at hlater ⊢
      cases hstop : (stateAfter setup began (earlier ++ later)).stopped with
      | false =>
          obtain ⟨hbefore, hgeneration, htimers⟩ :=
            (step_move setup stimulus hstop).timersFor_eq hlater hold
          rw [hgeneration, htimers]
          exact ih hbefore
      | true =>
          rw [step_stopped setup stimulus hstop] at hlater ⊢
          exact ih hlater

/-- A ping in the slot was queued in the current attempt, and exactly one timer is pending for
its pong, set for one pong timeout after that ping; whatever comes later, the timer is the same
as long as the ping is in the slot. -/
theorem outstanding_has_one_timer (setup : Setup H) (began : Nat) (stimuli : List Stimulus)
    (number : Nat) (hslot : (stateAfter setup began stimuli).outstanding = some number) :
    let state := stateAfter setup began stimuli
    let forPing := fun pending : PendingTimer =>
      decide (pending.timer = .pong state.generation number)
    1 ≤ number ∧ number ≤ state.pingsSent ∧
      ∃ moment ∈ moments setup began stimuli,
        let timer : PendingTimer := ⟨.pong state.generation number,
          moment.stimulus.now + setup.liveness.pongTimeout.toNat⟩
        moment.stimulus.input = .tick ∧ moment.outcome.1.pingsSent = number ∧
          .frame state.generation pingText ∈ moment.outcome.2 ∧
          state.pending.filter forPing = [timer] ∧
          ∀ later, (stateAfter setup began (stimuli ++ later)).outstanding = some number →
            (stateAfter setup began (stimuli ++ later)).generation = state.generation ∧
              (stateAfter setup began (stimuli ++ later)).pending.filter forPing =
                [timer] := by
  intro state forPing
  obtain ⟨hpositive, hle, moment, hmoment, ⟨htick, hnumber, hframe⟩, hone⟩ :=
    (timed setup began stimuli).slot number hslot
  refine ⟨hpositive, hle, moment, hmoment, htick, hnumber, hframe, hone, ?_⟩
  intro later hlater
  obtain ⟨hgeneration, htimers⟩ := timersFor_append setup began stimuli later hslot hlater
  refine ⟨hgeneration, ?_⟩
  have hsame := htimers.trans hone
  rwa [State.timersFor, hgeneration] at hsame

theorem second_ping_keeps_its_timer :
    let setup := Setup.bare ⟨1000, 60000, 2500⟩
    (stateAfter setup 0 overlapping).outstanding = some 2 ∧
      (stateAfter setup 0 (overlapping ++ [⟨4000, true, .tick⟩])).pending.filter
          (fun pending => decide (pending.timer = .pong 1 2)) =
        [⟨.pong 1 2, 4500⟩] := by
  intro setup
  have hslot : (stateAfter setup 0 overlapping).outstanding = some 2 := by decide
  obtain ⟨-, -, moment, -, -, -, -, hone, hlater⟩ :=
    outstanding_has_one_timer setup 0 overlapping 2 hslot
  refine ⟨hslot, ?_⟩
  have hkept := (hlater [⟨4000, true, .tick⟩] (by decide)).2
  have hnow : (stateAfter setup 0 overlapping).pending.filter
      (fun pending => decide (pending.timer = .pong 1 2)) = [⟨.pong 1 2, 4500⟩] := by decide
  exact hkept.trans (hone.symm.trans hnow)

end Lifeline.Connection
