import Lifeline.Proofs.Connection.Moves
import Mathlib.Data.List.Induction

/-!
# Lives of a connection

The life of a connection is its first attempt and then one moment for each
stimulus.  A moment keeps the state that was found, the stimulus, and what came
of it, so whatever a statement needs of the past can be read off the moments.
What the first attempt establishes and every move keeps holds throughout
(`life_induction`).
-/

namespace Lifeline.Connection

variable {H : Type}

/-- A stimulus in the state that it found, with the outcome of the step. -/
structure Moment (H : Type) where
  before : State
  stimulus : Stimulus
  outcome : State × List (Effect H)

/-- The moments of a run from a state. -/
def momentsFrom (setup : Setup H) : State → List Stimulus → List (Moment H)
  | _, [] => []
  | state, stimulus :: stimuli =>
      ⟨state, stimulus, step setup stimulus state⟩ ::
        momentsFrom setup (step setup stimulus state).1 stimuli

/-- The moments of a connection that began at a time. -/
def moments (setup : Setup H) (began : Nat) (stimuli : List Stimulus) : List (Moment H) :=
  momentsFrom setup (start setup began).1 stimuli

/-- The state of a connection after some stimuli. -/
def stateAfter (setup : Setup H) (began : Nat) (stimuli : List Stimulus) : State :=
  (run setup stimuli (start setup began).1).1

/-- A setup without handlers, for lives in which only the liveness matters. -/
def Setup.bare (liveness : Liveness) : Setup Empty where
  url := "ws://example.test:8080/ws/feed"
  liveness := liveness
  registry := .empty
  respond := ⟨fun _ _ _ => .ok ()⟩

/-- All effects of a connection so far, those of its first attempt included. -/
def effectsAfter (setup : Setup H) (began : Nat) (stimuli : List Stimulus) :
    List (Effect H) :=
  (start setup began).2 ++ (run setup stimuli (start setup began).1).2

theorem run_singleton (setup : Setup H) (stimulus : Stimulus) (state : State) :
    run setup [stimulus] state = step setup stimulus state := by
  change (step setup stimulus).andThen Transition.idle state = _
  simp [Transition.andThen, Transition.idle]

theorem run_concat_fst (setup : Setup H) (stimuli : List Stimulus) (stimulus : Stimulus)
    (state : State) :
    (run setup (stimuli ++ [stimulus]) state).1 =
      (step setup stimulus (run setup stimuli state).1).1 := by
  rw [run, Transition.run_append]
  rfl

theorem stateAfter_concat (setup : Setup H) (began : Nat) (stimuli : List Stimulus)
    (stimulus : Stimulus) :
    stateAfter setup began (stimuli ++ [stimulus]) =
      (step setup stimulus (stateAfter setup began stimuli)).1 :=
  run_concat_fst setup stimuli stimulus _

theorem momentsFrom_append (setup : Setup H) (earlier later : List Stimulus) (state : State) :
    momentsFrom setup state (earlier ++ later) =
      momentsFrom setup state earlier ++
        momentsFrom setup (run setup earlier state).1 later := by
  induction earlier generalizing state with
  | nil => rfl
  | cons stimulus stimuli ih =>
      rw [List.cons_append, momentsFrom, momentsFrom, ih]
      rfl

theorem moments_append (setup : Setup H) (began : Nat) (earlier later : List Stimulus) :
    moments setup began (earlier ++ later) =
      moments setup began earlier ++
        momentsFrom setup (stateAfter setup began earlier) later :=
  momentsFrom_append setup earlier later _

theorem moments_concat (setup : Setup H) (began : Nat) (stimuli : List Stimulus)
    (stimulus : Stimulus) :
    moments setup began (stimuli ++ [stimulus]) =
      moments setup began stimuli ++
        [⟨stateAfter setup began stimuli, stimulus,
          step setup stimulus (stateAfter setup began stimuli)⟩] :=
  moments_append setup began stimuli [stimulus]

theorem momentsFrom_stimuli (setup : Setup H) (state : State) (stimuli : List Stimulus) :
    (momentsFrom setup state stimuli).map (·.stimulus) = stimuli := by
  induction stimuli generalizing state with
  | nil => rfl
  | cons stimulus stimuli ih => rw [momentsFrom, List.map_cons, ih]

theorem moments_stimuli (setup : Setup H) (began : Nat) (stimuli : List Stimulus) :
    (moments setup began stimuli).map (·.stimulus) = stimuli :=
  momentsFrom_stimuli setup _ stimuli

theorem run_snd (setup : Setup H) (stimuli : List Stimulus) (state : State) :
    (run setup stimuli state).2 =
      (momentsFrom setup state stimuli).flatMap (·.outcome.2) := by
  induction stimuli generalizing state with
  | nil => rfl
  | cons stimulus stimuli ih =>
      rw [momentsFrom, List.flatMap_cons, ← ih]
      rfl

theorem effectsAfter_eq (setup : Setup H) (began : Nat) (stimuli : List Stimulus) :
    effectsAfter setup began stimuli =
      (start setup began).2 ++ (moments setup began stimuli).flatMap (·.outcome.2) := by
  rw [effectsAfter, run_snd, moments]

theorem effectsAfter_append (setup : Setup H) (began : Nat) (earlier later : List Stimulus) :
    effectsAfter setup began (earlier ++ later) =
      effectsAfter setup began earlier ++
        (run setup later (stateAfter setup began earlier)).2 := by
  rw [effectsAfter, run, Transition.run_append, effectsAfter, List.append_assoc]
  rfl

theorem effectsAfter_concat (setup : Setup H) (began : Nat) (stimuli : List Stimulus)
    (stimulus : Stimulus) :
    effectsAfter setup began (stimuli ++ [stimulus]) =
      effectsAfter setup began stimuli ++
        (step setup stimulus (stateAfter setup began stimuli)).2 := by
  rw [effectsAfter_append, run_singleton]

/-! ## The first attempt -/

/-- The state in which a connection without a ping interval stops at once. -/
def State.collapsed (state : State) : State :=
  { state with transport := none, pending := [], stopped := true }

theorem start_eq (setup : Setup H) (began : Nat) :
    start setup began =
      let first := State.initial.redialed (began + setup.liveness.reconnectDelay.toNat)
      if setup.liveness.pingInterval = 0 then
        (first.collapsed, [.dial 1, .publish .connecting, .release 1])
      else (first, [.dial 1, .publish .connecting]) := by
  have hfirst : connect setup began .initial =
      (State.initial.redialed (began + setup.liveness.reconnectDelay.toNat),
        [.dial 1, .publish .connecting]) := connect_eq setup began .initial
  unfold start
  split
  · simp only [Transition.andThen, hfirst]
    rfl
  · exact hfirst

/-! ## The transport that is held -/

/-- A transport that is held is that of the current attempt. -/
def State.HoldsCurrent (state : State) : Prop :=
  ∀ generation, state.transport = some generation → generation = state.generation

theorem State.HoldsCurrent.of_isOpen {state : State} (hholds : state.HoldsCurrent)
    (hopen : state.isOpen = true) :
    state.transport = some state.generation ∧ state.link = .opened := by
  unfold State.isOpen at hopen
  obtain ⟨hsome, hlink⟩ := Bool.and_eq_true_iff.mp hopen
  obtain ⟨generation, htransport⟩ := Option.isSome_iff_exists.mp hsome
  refine ⟨?_, by simpa [Link.isOpen] using hlink⟩
  rw [htransport, hholds generation htransport]

theorem Move.holdsCurrent {setup : Setup H} {now : Nat} {accepting : Bool} {state : State}
    {input : Input} {outcome : State × List (Effect H)} (hstate : state.HoldsCurrent)
    (hmove : Move setup now accepting state input outcome) : outcome.1.HoldsCurrent := by
  cases hmove with
  | ended | shut => simp [State.HoldsCurrent, State.shut]
  | retried | reconnected => simp [State.HoldsCurrent, connect_eq, State.redialed, eq_comm]
  | timedOut | unpinged => simp [State.HoldsCurrent, giveUp_eq, State.redialed, eq_comm]
  | _ => exact hstate

theorem holdsCurrent (setup : Setup H) (began : Nat) (stimuli : List Stimulus) :
    (stateAfter setup began stimuli).HoldsCurrent := by
  induction stimuli using List.reverseRecOn with
  | nil =>
      change (start setup began).1.HoldsCurrent
      rw [start_eq]
      split <;> simp [State.HoldsCurrent, State.redialed, State.collapsed, eq_comm]
  | append_singleton stimuli stimulus ih =>
      rw [stateAfter_concat]
      cases hstop : (stateAfter setup began stimuli).stopped with
      | false => exact (step_move setup stimulus hstop).holdsCurrent ih
      | true => simpa [step_stopped setup stimulus hstop] using ih

/-! ## Induction over a life -/

/-- What the first attempt establishes, every move of a running connection keeps, and a
stopped one keeps by doing nothing, holds of every life. -/
theorem life_induction {setup : Setup H} {began : Nat}
    {motive : List (Moment H) → State → Prop} (hstart : motive [] (start setup began).1)
    (hmove : ∀ past state now accepting input outcome, state.stopped = false →
      state.HoldsCurrent → motive past state → Move setup now accepting state input outcome →
        motive (past ++ [⟨state, ⟨now, accepting, input⟩, outcome⟩]) outcome.1)
    (hstopped : ∀ past state stimulus, state.stopped = true → motive past state →
      motive (past ++ [⟨state, stimulus, (state, [])⟩]) state)
    (stimuli : List Stimulus) :
    motive (moments setup began stimuli) (stateAfter setup began stimuli) := by
  induction stimuli using List.reverseRecOn with
  | nil => exact hstart
  | append_singleton stimuli stimulus ih =>
      rw [moments_concat, stateAfter_concat]
      cases hstop : (stateAfter setup began stimuli).stopped with
      | false =>
          exact hmove _ _ _ _ _ _ hstop (holdsCurrent setup began stimuli) ih
            (step_move setup stimulus hstop)
      | true =>
          rw [step_stopped setup stimulus hstop]
          exact hstopped _ _ _ hstop ih

/-- What every moment of a running connection and every moment of a stopped one has in common
holds of all moments. -/
theorem forall_moments {setup : Setup H} {began : Nat} {P : Moment H → Prop}
    (hmove : ∀ state now accepting input outcome, state.HoldsCurrent →
      Move setup now accepting state input outcome →
        P ⟨state, ⟨now, accepting, input⟩, outcome⟩)
    (hstopped : ∀ state stimulus, P ⟨state, stimulus, (state, [])⟩)
    (stimuli : List Stimulus) : ∀ moment ∈ moments setup began stimuli, P moment := by
  refine life_induction (motive := fun past _ => ∀ moment ∈ past, P moment) ?_ ?_ ?_ stimuli
  · simp
  · intro past state now accepting input outcome _ hholds hpast hmoved
    simpa [or_imp, forall_and] using ⟨hpast, hmove state now accepting input outcome hholds hmoved⟩
  · intro past state stimulus _ hpast
    simpa [or_imp, forall_and] using ⟨hpast, hstopped state stimulus⟩

/-- A connection that stopped waits for nothing. -/
theorem quiet_of_stopped (setup : Setup H) (began : Nat) (stimuli : List Stimulus) :
    (stateAfter setup began stimuli).stopped = true →
      (stateAfter setup began stimuli).transport = none ∧
        (stateAfter setup began stimuli).outstanding = none ∧
        (stateAfter setup began stimuli).pending = [] := by
  refine life_induction (motive := fun _ state => state.stopped = true →
    state.transport = none ∧ state.outstanding = none ∧ state.pending = []) ?_ ?_ ?_ stimuli
  · rw [start_eq]
    split <;> simp [State.redialed, State.collapsed, State.initial]
  · intro _ state now accepting input outcome hrunning _ _ hmove
    cases hmove with
    | shut => simp [State.shut]
    | retried | reconnected => simp [connect_eq, State.redialed, State.without, hrunning]
    | timedOut | unpinged => simp [giveUp_eq, State.redialed, State.without, hrunning]
    | _ => simp [State.without, State.pinged, State.schedule, hrunning]
  · exact fun _ _ _ _ hstate => hstate

/-- Where a timer is pending the connection has not stopped. -/
theorem running_of_pending {setup : Setup H} {began : Nat} {stimuli : List Stimulus}
    {timer : PendingTimer} (htimer : timer ∈ (stateAfter setup began stimuli).pending) :
    (stateAfter setup began stimuli).stopped = false := by
  by_contra hstop
  have hquiet := quiet_of_stopped setup began stimuli (by simpa using hstop)
  simp [hquiet.2.2] at htimer

/-- Where a transport is held the connection has not stopped. -/
theorem running_of_transport {setup : Setup H} {began : Nat} {stimuli : List Stimulus}
    {generation : Nat}
    (htransport : (stateAfter setup began stimuli).transport = some generation) :
    (stateAfter setup began stimuli).stopped = false := by
  by_contra hstop
  have hquiet := quiet_of_stopped setup began stimuli (by simpa using hstop)
  simp [hquiet.1] at htransport

end Lifeline.Connection
