import Lifeline.Proofs.Connection.Custody
import Lifeline.Proofs.Connection.PongTimers

/-!
# Keeping an open transport

A connection lets an open transport go because it is told to, because the
transport reported its own end, because a ping went unanswered, or because a
ping could not be queued.  There is one more occasion.  The check of an attempt
that is not open yet sets a retry; when the transport opens before the retry
fires, the retry, which looks at the number of the attempt and not at the link,
replaces it all the same.  So an open transport is safe from its own connection
exactly if the check of its attempt did not come too early.
-/

namespace Lifeline.Connection

variable {H : Type}

/-! ## Retries -/

/-- What a running connection keeps of its retries: they belong to attempts made so far, and one
of the current attempt is pending exactly if its check found it not open. -/
structure Retries (past : List Mark) (state : State) : Prop where
  retry_le : ∀ generation deadline, ⟨.retry generation, deadline⟩ ∈ state.pending →
    generation ≤ state.generation
  unconfirmed_le : ∀ generation, .unconfirmed generation ∈ past → generation ≤ state.generation
  willRetry_iff : state.WillRetry ↔ .unconfirmed state.generation ∈ past

/-- A retry that is pending after a move belongs to an attempt made before the move. -/
private theorem Retries.retry_le_of_move {setup : Setup H} {past : List Mark} {now : Nat}
    {accepting : Bool} {state : State} {input : Input} {outcome : State × List (Effect H)}
    (hretries : Retries past state) (hmove : Move setup now accepting state input outcome)
    {generation deadline : Nat} (hmem : ⟨.retry generation, deadline⟩ ∈ outcome.1.pending) :
    generation ≤ state.generation := by
  rcases hmove.mem_pending hmem with hold | hverify | hretry | hpong
  · exact hretries.retry_le generation deadline hold
  · simp at hverify
  · obtain ⟨_, _, _, _, hnew⟩ := hretry
    simp only [PendingTimer.mk.injEq, Timer.retry.injEq] at hnew
    exact Nat.le_of_eq hnew.1
  · simp at hpong

private theorem Turn.unconfirmed_eq {now : Nat} {state next : State} {marks : List Mark}
    (hturn : Turn now state next marks) {generation : Nat}
    (hmem : .unconfirmed generation ∈ marks) : generation = state.generation := by
  cases hturn with
  | unconfirmed => simpa using hmem
  | _ => simp at hmem

private theorem Turn.generation_le {now : Nat} {state next : State} {marks : List Mark}
    (hturn : Turn now state next marks) (hgoes : next.stopped = false) :
    state.generation ≤ next.generation := by
  cases hturn with
  | stopped hstop => simp [hstop] at hgoes
  | overheard _ _ hsame => exact Nat.le_of_eq (congrArg State.generation hsame).symm
  | attempted hgeneration => omega
  | quiet hgeneration | pinged hgeneration | answered hgeneration | unconfirmed hgeneration =>
      exact Nat.le_of_eq hgeneration.symm

private theorem Retries.willRetry_iff_of_turn {setup : Setup H} {past marks : List Mark}
    {now : Nat} {accepting : Bool} {state : State} {input : Input}
    {outcome : State × List (Effect H)} (hretries : Retries past state)
    (hmove : Move setup now accepting state input outcome)
    (hturn : Turn now state outcome.1 marks) (hgoes : outcome.1.stopped = false) :
    outcome.1.WillRetry ↔ .unconfirmed outcome.1.generation ∈ past ++ marks := by
  cases hturn with
  | stopped hstop => simp [hstop] at hgoes
  | quiet hgeneration _ _ hretry | pinged hgeneration _ _ hretry
  | answered hgeneration _ _ hretry =>
      rw [hretry, hretries.willRetry_iff, hgeneration]
      simp
  | overheard _ _ hsame =>
      rw [hsame, hretries.willRetry_iff]
      simp
  | unconfirmed hgeneration _ _ hretry => simp [hgeneration, hretry]
  | attempted hgeneration =>
      -- Neither a retry nor a mark can be about an attempt that has only just begun.
      have hnone : ¬ outcome.1.WillRetry := by
        rintro ⟨deadline, hmem⟩
        have hle := hretries.retry_le_of_move hmove hmem
        omega
      have hunmarked : .unconfirmed outcome.1.generation ∉ past := by
        intro hmem
        have hle := hretries.unconfirmed_le _ hmem
        omega
      simp [hnone, hunmarked]

theorem retries (setup : Setup H) (began : Nat) (stimuli : List Stimulus) :
    (stateAfter setup began stimuli).stopped = false →
      Retries (history setup began stimuli) (stateAfter setup began stimuli) := by
  refine history_induction
    (motive := fun past state => state.stopped = false → Retries past state) ?_ ?_ ?_ stimuli
  · intro hrunning
    rw [start_eq]
    constructor <;> split <;>
      simp [State.WillRetry, State.redialed, State.collapsed, State.initial]
  · intro past marks state now accepting input outcome hrunning hpast hmove hturn hgoes
    have hretries := hpast hrunning
    have hle := hturn.generation_le hgoes
    refine ⟨?_, ?_, hretries.willRetry_iff_of_turn hmove hturn hgoes⟩
    · intro generation deadline hmem
      exact Nat.le_trans (hretries.retry_le_of_move hmove hmem) hle
    · intro generation hmem
      rcases List.mem_append.mp hmem with hold | hnew
      · exact Nat.le_trans (hretries.unconfirmed_le generation hold) hle
      · rwa [hturn.unconfirmed_eq hnew]
  · intro past state input hstop _ hrunning
    simp [hstop] at hrunning

/-! ## Occasions for parting -/

/-- What may part a connection from an open transport: it is told to, the transport reported its
own end, the silent ping of the attempt timed out, or a ping cannot be queued. -/
inductive Dismissed (past : List Mark) (state : State) : Stimulus → Prop
  | reconnect (now : Nat) (accepting : Bool) : Dismissed past state ⟨now, accepting, .reconnect⟩
  | close (now : Nat) (accepting : Bool) : Dismissed past state ⟨now, accepting, .close⟩
  | abandon (now : Nat) (accepting : Bool) : Dismissed past state ⟨now, accepting, .abandon⟩
  | ended (now : Nat) (accepting : Bool) (reason : Option String) :
      Dismissed past state ⟨now, accepting, .report ⟨state.generation, .closed reason⟩⟩
  | unanswered (now : Nat) (accepting : Bool) (number deadline : Nat)
      (hpending : ⟨.pong state.generation number, deadline⟩ ∈ state.pending)
      (hsilent : Silent past state.generation number) :
      Dismissed past state
        ⟨now, accepting, .fire ⟨.pong state.generation number, deadline⟩⟩
  | unqueued (now : Nat) : Dismissed past state ⟨now, false, .tick⟩

/-- A retry of the current attempt fires. -/
def Retried (state : State) (stimulus : Stimulus) : Prop :=
  ∃ deadline, ⟨.retry state.generation, deadline⟩ ∈ state.pending ∧
    stimulus.input = .fire ⟨.retry state.generation, deadline⟩

/-- The transport that was held is ended and no longer held. -/
structure Parted (state : State) (outcome : State × List (Effect H)) : Prop where
  transport : outcome.1.transport ≠ state.transport
  ended : ∃ effect ∈ outcome.2, effect.Ends state.generation

/-- The transport is neither given up nor ended, and the attempt and the link stay. -/
structure Kept (state : State) (outcome : State × List (Effect H)) : Prop where
  transport : outcome.1.transport = state.transport
  generation : outcome.1.generation = state.generation
  link : outcome.1.link = state.link
  unended : ∀ effect ∈ outcome.2, ¬ effect.Ends state.generation

section Moves

variable {setup : Setup H} {past : List Mark} {now : Nat} {accepting : Bool} {state : State}
  {input : Input} {outcome : State × List (Effect H)}

/-- A move of an open connection that is neither a dismissal nor a retry keeps the transport. -/
theorem Move.kept (hmove : Move setup now accepting state input outcome)
    (hholds : state.HoldsCurrent) (hopen : state.isOpen = true)
    (hslot : ∀ number, state.outstanding = some number → Silent past state.generation number)
    (hdismissed : ¬ Dismissed past state ⟨now, accepting, input⟩)
    (hretried : ¬ Retried state ⟨now, accepting, input⟩) : Kept state outcome := by
  obtain ⟨htransport, hlink⟩ := hholds.of_isOpen hopen
  have hsame : outcome.1.transport = state.transport ∧
      outcome.1.generation = state.generation ∧ outcome.1.link = state.link := by
    cases hmove with
    | opened => exact ⟨rfl, rfl, hlink.symm⟩
    | ended reason => exact absurd (.ended now accepting reason) hdismissed
    | unconfirmed _ _ hclosed => simp [hopen] at hclosed
    | retried deadline hpending => exact absurd ⟨deadline, hpending, rfl⟩ hretried
    | timedOut number deadline hpending hawaited =>
        exact absurd (.unanswered now accepting number deadline hpending (hslot number hawaited))
          hdismissed
    | unpinged hunsent =>
        cases accepting with
        | true => exact absurd ⟨hopen, rfl⟩ hunsent
        | false => exact absurd (.unqueued now) hdismissed
    | reconnected => exact absurd (.reconnect now accepting) hdismissed
    | shut _ hinput =>
        rcases hinput with rfl | rfl
        · exact absurd (.close now accepting) hdismissed
        · exact absurd (.abandon now accepting) hdismissed
    | _ => exact ⟨rfl, rfl, rfl⟩
  refine ⟨hsame.1, hsame.2.1, hsame.2.2, ?_⟩
  exact hmove.orderly.not_ends (Nat.le_refl _) (hsame.1.trans htransport)

theorem Move.parted (hmove : Move setup now accepting state input outcome)
    (htransport : state.transport = some state.generation)
    (hchanged : outcome.1.transport ≠ state.transport) : Parted state outcome := by
  refine ⟨hchanged, hmove.orderly.ends_of_held htransport ?_⟩
  rwa [← htransport]

/-- A dismissal parts the connection from its transport. -/
theorem Move.parted_of_dismissed (hmove : Move setup now accepting state input outcome)
    (htransport : state.transport = some state.generation)
    (hslot : ∀ number, Silent past state.generation number → state.outstanding = some number)
    (hdismissed : Dismissed past state ⟨now, accepting, input⟩) : Parted state outcome := by
  apply hmove.parted htransport
  rw [htransport]
  cases hdismissed with
  | reconnect =>
      cases hmove with
      | reconnected => simp [connect_eq, State.redialed]
      | shut _ hinput => simp at hinput
  | close | abandon =>
      cases hmove with
      | shut => simp [State.shut]
  | ended =>
      cases hmove with
      | foreign _ hother => exact absurd rfl hother
      | ended => simp
      | shut _ hinput => simp at hinput
  | unanswered _ _ number deadline hpending hsilent =>
      cases hmove with
      | absent _ habsent => exact absurd hpending habsent
      | outdated _ _ hheeds => exact absurd ⟨hslot number hsilent, rfl⟩ hheeds
      | timedOut => simp [giveUp_eq, State.redialed, State.without]
      | shut _ hinput => simp at hinput
  | unqueued =>
      cases hmove with
      | pinged _ _ _ haccepting => simp at haccepting
      | unpinged => simp [giveUp_eq, State.redialed]
      | shut _ hinput => simp at hinput

/-- So does a retry of the attempt, which takes no notice of the link. -/
theorem Move.parted_of_retried (hmove : Move setup now accepting state input outcome)
    (htransport : state.transport = some state.generation)
    (hretried : Retried state ⟨now, accepting, input⟩) : Parted state outcome := by
  apply hmove.parted htransport
  rw [htransport]
  obtain ⟨deadline, hpending, hinput⟩ := hretried
  dsimp only at hinput
  subst hinput
  cases hmove with
  | absent _ habsent => exact absurd hpending habsent
  | outdated _ _ hheeds => exact absurd rfl hheeds
  | retried => simp [connect_eq, State.redialed, State.without]
  | shut _ hinput => simp at hinput

end Moves

/-! ## When an open transport is kept -/

/-- An open connection is not parted from its transport on its own account: only a dismissal
changes the transport, and the checks and retries that are pending change nothing of the
transport, the attempt and the link. -/
structure KeepsOpen (setup : Setup H) (past : List Mark) (state : State) : Prop where
  dismissed : ∀ stimulus, (step setup stimulus state).1.transport ≠ state.transport →
    Dismissed past state stimulus
  harmless : ∀ fired ∈ state.pending, ∀ generation,
    fired.timer = .verify generation ∨ fired.timer = .retry generation →
      ∀ now accepting, let next := (step setup ⟨now, accepting, .fire fired⟩ state).1
        next.transport = state.transport ∧ next.generation = state.generation ∧
          next.link = state.link

/-- Where the connection is open, every stimulus either parts it from the transport or leaves
the transport, the attempt and the link alone. -/
theorem parted_or_kept {setup : Setup H} {began : Nat} {stimuli : List Stimulus}
    (hopen : (stateAfter setup began stimuli).isOpen = true) (stimulus : Stimulus) :
    let past := history setup began stimuli
    let state := stateAfter setup began stimuli
    (Dismissed past state stimulus ∨ Retried state stimulus →
        Parted state (step setup stimulus state)) ∧
      (¬ (Dismissed past state stimulus ∨ Retried state stimulus) →
        Kept state (step setup stimulus state)) := by
  intro past state
  have hholds : state.HoldsCurrent := holdsCurrent setup began stimuli
  obtain ⟨htransport, -⟩ := hholds.of_isOpen hopen
  have hrunning : state.stopped = false := running_of_transport htransport
  have hslot : ∀ number, state.outstanding = some number ↔
      Silent past state.generation number :=
    outstanding_eq_some_iff setup began stimuli hrunning
  have hmove := step_move setup stimulus hrunning
  constructor
  · rintro (hdismissed | hretried)
    · exact hmove.parted_of_dismissed htransport (fun number => (hslot number).mpr) hdismissed
    · exact hmove.parted_of_retried htransport hretried
  · intro hoccasion
    obtain ⟨hdismissed, hretried⟩ := not_or.mp hoccasion
    exact hmove.kept hholds hopen (fun number => (hslot number).mp) hdismissed hretried

/-- Nothing but a pending retry of the attempt stands between an open connection and its being
kept. -/
theorem keepsOpen_iff_not_willRetry {setup : Setup H} {began : Nat} {stimuli : List Stimulus}
    (hopen : (stateAfter setup began stimuli).isOpen = true) :
    KeepsOpen setup (history setup began stimuli) (stateAfter setup began stimuli) ↔
      ¬ (stateAfter setup began stimuli).WillRetry := by
  have hoccasion := parted_or_kept hopen
  generalize history setup began stimuli = past at hoccasion ⊢
  generalize stateAfter setup began stimuli = state at hoccasion ⊢
  constructor
  · rintro hkeeps ⟨deadline, hpending⟩
    have hparted := (hoccasion ⟨deadline, true, .fire ⟨.retry state.generation, deadline⟩⟩).1
      (.inr ⟨deadline, hpending, rfl⟩)
    have hsame := hkeeps.harmless _ hpending state.generation (.inr rfl) deadline true
    exact hparted.transport hsame.1
  · intro hnone
    have hunretried : ∀ stimulus, ¬ Retried state stimulus := by
      rintro stimulus ⟨deadline, hpending, -⟩
      exact hnone ⟨deadline, hpending⟩
    constructor
    · intro stimulus hchanged
      by_contra hdismissed
      have hkept := (hoccasion stimulus).2 (not_or.mpr ⟨hdismissed, hunretried stimulus⟩)
      exact hchanged hkept.transport
    · intro fired hpending generation htimer now accepting
      have hdismissed : ¬ Dismissed past state ⟨now, accepting, .fire fired⟩ := by
        intro hdismissed
        cases hdismissed with
        | unanswered => simp at htimer
      have hkept := (hoccasion _).2 (not_or.mpr ⟨hdismissed, hunretried _⟩)
      exact ⟨hkept.transport, hkept.generation, hkept.link⟩

/-- An open transport is parted with at a dismissal and at a retry of its attempt, and kept
whatever else happens.  Only dismissals part it exactly if the check of its attempt has not found
the attempt not open. -/
theorem open_transport_kept_iff (setup : Setup H) (began : Nat) (stimuli : List Stimulus)
    (hopen : (stateAfter setup began stimuli).isOpen = true) :
    let past := history setup began stimuli
    let state := stateAfter setup began stimuli
    (∀ stimulus,
      (Dismissed past state stimulus ∨ Retried state stimulus →
        Parted state (step setup stimulus state)) ∧
      (¬ (Dismissed past state stimulus ∨ Retried state stimulus) →
        Kept state (step setup stimulus state))) ∧
      (KeepsOpen setup past state ↔ .unconfirmed state.generation ∉ past) := by
  intro past state
  refine ⟨parted_or_kept hopen, ?_⟩
  have htransport := ((holdsCurrent setup began stimuli).of_isOpen hopen).1
  have hretries := retries setup began stimuli (running_of_transport htransport)
  rw [← hretries.willRetry_iff]
  exact keepsOpen_iff_not_willRetry hopen

/-- A check that comes while the transport is open leaves nothing behind that could end it. -/
theorem confirmed_connection_keeps_open :
    let setup := Setup.bare ⟨25000, 5000, 2000⟩
    let stimuli : List Stimulus :=
      [⟨10, true, .report ⟨1, .opened⟩⟩, ⟨5000, true, .fire ⟨.verify 1, 5000⟩⟩]
    (stateAfter setup 0 stimuli).isOpen = true ∧
      KeepsOpen setup (history setup 0 stimuli) (stateAfter setup 0 stimuli) := by
  intro setup stimuli
  have hopen : (stateAfter setup 0 stimuli).isOpen = true := by decide
  exact ⟨hopen, (open_transport_kept_iff setup 0 stimuli hopen).2.mpr (by decide)⟩

/-- The transport opens after the check and before the retry, and the retry replaces it. -/
theorem retry_replaces_open_transport :
    let setup := Setup.bare ⟨25000, 5000, 2000⟩
    let stimuli : List Stimulus :=
      [⟨5000, true, .fire ⟨.verify 1, 5000⟩⟩, ⟨6000, true, .report ⟨1, .opened⟩⟩]
    let state := stateAfter setup 0 stimuli
    let outcome := step setup ⟨10000, true, .fire ⟨.retry 1, 10000⟩⟩ state
    state.isOpen = true ∧ ⟨.retry 1, 10000⟩ ∈ state.pending ∧ state.transport = some 1 ∧
      outcome.1.transport = some 2 ∧
      outcome.2 = [.hangUp 1, .dial 2, .publish .connecting] ∧
      ¬ KeepsOpen setup (history setup 0 stimuli) state := by
  intro setup stimuli state outcome
  have hpending : ⟨.retry 1, 10000⟩ ∈ state.pending := by decide
  refine ⟨by decide, hpending, by decide, by decide, rfl, ?_⟩
  intro hkeeps
  have hsame := hkeeps.harmless _ hpending 1 (.inr rfl) 10000 true
  exact absurd hsame.1 (by decide)

end Lifeline.Connection
