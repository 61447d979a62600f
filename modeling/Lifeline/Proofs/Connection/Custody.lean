import Lifeline.Proofs.Connection.Life

/-!
# Custody of transports

Of what a connection does, four effects concern transports: one is dialed, a
frame is queued on it, it is told to close, or its handle is let go.  A list of
effects is orderly if they could come from somebody who holds at most one
transport, numbers them in the order of dialing, uses only the one that is held,
and dials only with empty hands.  All effects of a life are orderly
(`effectsAfter_orderly`), and what is known of transports follows from that.
-/

namespace Lifeline.Connection

variable {H : Type}

/-- The transport that an effect concerns. -/
def Effect.transport? : Effect H → Option Nat
  | .dial generation => some generation
  | .frame generation _ => some generation
  | .hangUp generation => some generation
  | .release generation => some generation
  | _ => none

def Effect.dialed? : Effect H → Option Nat
  | .dial generation => some generation
  | _ => none

/-- The effect ends the custody of a transport: it is told to close, or its handle is let go. -/
def Effect.Ends (effect : Effect H) (generation : Nat) : Prop :=
  effect = .hangUp generation ∨ effect = .release generation

/-- The transport that is held, and how many were dialed. -/
structure Custody where
  held : Option Nat
  dialed : Nat

def State.custody (state : State) : Custody := ⟨state.transport, state.generation⟩

/-- Effects that lead from one custody to another. -/
inductive Orderly : Custody → List (Effect H) → Custody → Prop
  | nil (custody : Custody) : Orderly custody [] custody
  | aside {custody last : Custody} {effect : Effect H} {rest : List (Effect H)}
      (heffect : effect.transport? = none) (hrest : Orderly custody rest last) :
      Orderly custody (effect :: rest) last
  | dial {dialed : Nat} {last : Custody} {rest : List (Effect H)}
      (hrest : Orderly ⟨some (dialed + 1), dialed + 1⟩ rest last) :
      Orderly ⟨none, dialed⟩ (.dial (dialed + 1) :: rest) last
  | frame {generation dialed : Nat} {last : Custody} {rest : List (Effect H)}
      (text : String) (hrest : Orderly ⟨some generation, dialed⟩ rest last) :
      Orderly ⟨some generation, dialed⟩ (.frame generation text :: rest) last
  | ends {generation dialed : Nat} {last : Custody} {effect : Effect H}
      {rest : List (Effect H)} (heffect : effect.Ends generation)
      (hrest : Orderly ⟨none, dialed⟩ rest last) :
      Orderly ⟨some generation, dialed⟩ (effect :: rest) last

theorem dialed?_eq_none {effect : Effect H} (heffect : effect.transport? = none) :
    effect.dialed? = none := by
  cases effect <;> simp_all [Effect.transport?, Effect.dialed?]

namespace Orderly

variable {first middle last : Custody} {effects earlier later : List (Effect H)}

theorem append (hearlier : Orderly first earlier middle) (hlater : Orderly middle later last) :
    Orderly first (earlier ++ later) last := by
  induction hearlier with
  | nil => exact hlater
  | aside heffect _ ih => exact .aside heffect (ih hlater)
  | dial _ ih => exact .dial (ih hlater)
  | frame text _ ih => exact .frame text (ih hlater)
  | ends heffect _ ih => exact .ends heffect (ih hlater)

theorem split (horderly : Orderly first (earlier ++ later) last) :
    ∃ middle, Orderly first earlier middle ∧ Orderly middle later last := by
  induction earlier generalizing first with
  | nil => exact ⟨first, .nil first, horderly⟩
  | cons effect rest ih =>
      cases horderly with
      | aside heffect hrest =>
          obtain ⟨middle, hbefore, hafter⟩ := ih hrest
          exact ⟨middle, .aside heffect hbefore, hafter⟩
      | dial hrest =>
          obtain ⟨middle, hbefore, hafter⟩ := ih hrest
          exact ⟨middle, .dial hbefore, hafter⟩
      | frame text hrest =>
          obtain ⟨middle, hbefore, hafter⟩ := ih hrest
          exact ⟨middle, .frame text hbefore, hafter⟩
      | ends heffect hrest =>
          obtain ⟨middle, hbefore, hafter⟩ := ih hrest
          exact ⟨middle, .ends heffect hbefore, hafter⟩

/-- Effects that concern no transport leave the custody as it is. -/
theorem of_aside (custody : Custody) (haside : ∀ effect ∈ effects, effect.transport? = none) :
    Orderly custody effects custody := by
  induction effects with
  | nil => exact .nil custody
  | cons effect rest ih =>
      refine .aside (haside effect (by simp)) (ih fun other hother => ?_)
      exact haside other (by simp [hother])

/-- Transports are dialed in the order of their numbers, and none is left out. -/
theorem dialed_eq (horderly : Orderly first effects last) :
    first.dialed ≤ last.dialed ∧
      effects.filterMap Effect.dialed? =
        List.range' (first.dialed + 1) (last.dialed - first.dialed) := by
  induction horderly with
  | nil custody => simp
  | aside heffect _ ih => rwa [List.filterMap_cons_none (dialed?_eq_none heffect)]
  | @dial dialed last rest _ ih =>
      obtain ⟨hle, hrest⟩ := ih
      dsimp only at hle hrest ⊢
      have hcount : last.dialed - dialed = last.dialed - (dialed + 1) + 1 := by omega
      refine ⟨by omega, ?_⟩
      change (dialed + 1) :: rest.filterMap Effect.dialed? = _
      rw [hrest, hcount, List.range'_succ]
  | frame text _ ih => exact ih
  | ends heffect _ ih => rcases heffect with rfl | rfl <;> exact ih

/-- A transport that is no longer held was ended in between. -/
theorem ends_of_held (horderly : Orderly first effects last) {generation : Nat}
    (hheld : first.held = some generation) (hlast : last.held ≠ some generation) :
    ∃ effect ∈ effects, effect.Ends generation := by
  induction horderly with
  | nil custody => exact absurd hheld hlast
  | aside _ _ ih =>
      obtain ⟨effect, hmem, hends⟩ := ih hheld hlast
      exact ⟨effect, List.mem_cons_of_mem _ hmem, hends⟩
  | dial _ _ => simp at hheld
  | frame _ _ ih =>
      obtain ⟨effect, hmem, hends⟩ := ih hheld hlast
      exact ⟨effect, List.mem_cons_of_mem _ hmem, hends⟩
  | ends heffect _ _ =>
      obtain rfl : _ = generation := Option.some.inj hheld
      exact ⟨_, List.mem_cons_self, heffect⟩

/-- What is held was dialed. -/
theorem held_le (horderly : Orderly first effects last)
    (hfirst : ∀ generation, first.held = some generation → generation ≤ first.dialed) :
    ∀ generation, last.held = some generation → generation ≤ last.dialed := by
  induction horderly with
  | nil custody => exact hfirst
  | aside _ _ ih => exact ih hfirst
  | dial _ ih => exact ih (by simp [eq_comm])
  | frame _ _ ih => exact ih hfirst
  | ends _ _ ih => exact ih (by simp)

/-- A transport that was dialed and is not held is not concerned by anything that follows. -/
theorem not_concerned (horderly : Orderly first effects last) {generation : Nat}
    (hdialed : generation ≤ first.dialed) (hheld : first.held ≠ some generation) :
    ∀ effect ∈ effects, effect.transport? ≠ some generation := by
  induction horderly with
  | nil custody => simp
  | aside heffect _ ih =>
      rintro effect (_ | ⟨_, hmem⟩)
      · simp [heffect]
      · exact ih hdialed hheld effect hmem
  | dial _ ih =>
      have hother : generation ≠ _ + 1 := Nat.ne_of_lt (Nat.lt_succ_of_le hdialed)
      rintro effect (_ | ⟨_, hmem⟩)
      · simpa [Effect.transport?] using hother.symm
      · exact ih (Nat.le_succ_of_le hdialed) (by simpa using hother.symm) effect hmem
  | frame text _ ih =>
      rintro effect (_ | ⟨_, hmem⟩)
      · exact hheld
      · exact ih hdialed hheld effect hmem
  | ends heffect _ ih =>
      rintro effect (_ | ⟨_, hmem⟩)
      · rcases heffect with rfl | rfl <;> exact hheld
      · exact ih hdialed (by simp) effect hmem

/-- A transport that was dialed and is not held is not taken up again. -/
theorem not_held (horderly : Orderly first effects last) {generation : Nat}
    (hdialed : generation ≤ first.dialed) (hheld : first.held ≠ some generation) :
    last.held ≠ some generation := by
  induction horderly with
  | nil custody => exact hheld
  | aside _ _ ih => exact ih hdialed hheld
  | dial _ ih =>
      apply ih (Nat.le_succ_of_le hdialed)
      simpa using (Nat.ne_of_lt (Nat.lt_succ_of_le hdialed)).symm
  | frame _ _ ih => exact ih hdialed hheld
  | ends _ _ ih => exact ih hdialed (by simp)

/-- Only what is held is ended, and nothing is held then. -/
theorem of_ends {effect : Effect H} {generation : Nat}
    (horderly : Orderly first (effect :: later) last) (hends : effect.Ends generation) :
    first.held = some generation ∧ Orderly ⟨none, first.dialed⟩ later last := by
  rcases hends with rfl | rfl
  · cases horderly with
    | aside heffect _ => simp [Effect.transport?] at heffect
    | ends heffect hrest =>
        rcases heffect with heffect | heffect
        · obtain rfl := Effect.hangUp.inj heffect
          exact ⟨rfl, hrest⟩
        · simp at heffect
  · cases horderly with
    | aside heffect _ => simp [Effect.transport?] at heffect
    | ends heffect hrest =>
        rcases heffect with heffect | heffect
        · simp at heffect
        · obtain rfl := Effect.release.inj heffect
          exact ⟨rfl, hrest⟩

/-- Only empty hands dial, and what is dialed is held. -/
theorem of_dial {generation : Nat}
    (horderly : Orderly first (.dial generation :: later) last) :
    first.held = none ∧ generation = first.dialed + 1 ∧
      Orderly ⟨some generation, generation⟩ later last := by
  cases horderly with
  | aside heffect _ => simp [Effect.transport?] at heffect
  | dial hrest => exact ⟨rfl, rfl, hrest⟩
  | ends heffect _ => rcases heffect with heffect | heffect <;> simp at heffect

/-- Between two dials the transport of the first is ended. -/
theorem ends_between {between : List (Effect H)} {previous next : Nat}
    (horderly : Orderly first
      (earlier ++ .dial previous :: (between ++ .dial next :: later)) last) :
    ∃ effect ∈ between, effect.Ends previous := by
  obtain ⟨_, _, hdial⟩ := horderly.split
  obtain ⟨middle, hbetween, hnext⟩ := hdial.of_dial.2.2.split
  have hempty : middle.held = none := hnext.of_dial.1
  exact hbetween.ends_of_held rfl (by simp [hempty])

/-- A transport that is held before and after was not ended in between. -/
theorem not_ends (horderly : Orderly first effects last) {generation : Nat}
    (hdialed : generation ≤ first.dialed) (hlast : last.held = some generation) :
    ∀ effect ∈ effects, ¬ effect.Ends generation := by
  intro effect hmem hends
  obtain ⟨earlier, later, rfl⟩ := List.append_of_mem hmem
  obtain ⟨middle, hbefore, hafter⟩ := horderly.split
  obtain ⟨-, hlater⟩ := hafter.of_ends hends
  have hgone := hlater.not_held (Nat.le_trans hdialed hbefore.dialed_eq.1) (by simp)
  exact hgone hlast

theorem not_concerned_after {effect : Effect H} {generation : Nat}
    (horderly : Orderly first (earlier ++ effect :: later) last)
    (hfirst : ∀ held, first.held = some held → held ≤ first.dialed)
    (hends : effect.Ends generation) :
    ∀ other ∈ later, other.transport? ≠ some generation := by
  obtain ⟨middle, hbefore, hafter⟩ := horderly.split
  obtain ⟨hheld, hlater⟩ := hafter.of_ends hends
  have hdialed : generation ≤ middle.dialed := hbefore.held_le hfirst generation hheld
  exact hlater.not_concerned hdialed (by simp)

end Orderly

/-! ## Lives are orderly -/

theorem orderly_setLink (custody : Custody) (link : Link) (state : State) :
    Orderly (H := H) custody (setLink link state).2 custody := by
  apply Orderly.of_aside
  intro effect heffect
  rw [mem_setLink heffect]
  rfl

theorem orderly_deliver (custody : Custody) (setup : Setup H) (now : Nat) (text : String) :
    Orderly custody (deliver setup now text) custody := by
  apply Orderly.of_aside
  intro effect heffect
  rcases mem_deliver heffect with ⟨message, rfl⟩ | ⟨handler, envelope, rfl⟩ <;> rfl

/-- Whatever is held is given up before a fresh attempt. -/
theorem orderly_hangUp (transport : Option Nat) (dialed : Nat) :
    Orderly (H := H) ⟨transport, dialed⟩ (transport.map Effect.hangUp).toList
      ⟨none, dialed⟩ := by
  cases transport with
  | none => exact .nil _
  | some generation => exact .ends (.inl rfl) (.nil _)

theorem orderly_release (transport : Option Nat) (dialed : Nat) :
    Orderly (H := H) ⟨transport, dialed⟩ (transport.map Effect.release).toList
      ⟨none, dialed⟩ := by
  cases transport with
  | none => exact .nil _
  | some generation => exact .ends (.inr rfl) (.nil _)

theorem orderly_connect (setup : Setup H) (now : Nat) (state : State) :
    Orderly state.custody (connect setup now state).2 (connect setup now state).1.custody := by
  rw [connect_eq]
  exact (orderly_hangUp state.transport state.generation).append
    (.dial (orderly_setLink _ _ _))

theorem orderly_giveUp (setup : Setup H) (now : Nat) (state : State) :
    Orderly state.custody (giveUp setup now state).2 (giveUp setup now state).1.custody := by
  rw [giveUp_eq]
  refine (orderly_setLink _ _ _).append (.aside rfl ?_)
  exact (orderly_hangUp state.transport state.generation).append (.dial (.aside rfl (.nil _)))

theorem Move.orderly {setup : Setup H} {now : Nat} {accepting : Bool} {state : State}
    {input : Input} {outcome : State × List (Effect H)}
    (hmove : Move setup now accepting state input outcome) :
    Orderly state.custody outcome.2 outcome.1.custody := by
  cases hmove with
  | opened => exact orderly_setLink _ _ _
  | answered | unconfirmed => exact .aside rfl (.nil _)
  | delivered => exact orderly_deliver _ _ _ _
  | ended => exact (orderly_release _ _).append (orderly_setLink _ _ _)
  | confirmed => exact .aside rfl (.aside rfl (.nil _))
  | retried => exact orderly_connect setup now (state.without _)
  | reconnected => exact orderly_connect setup now state
  | timedOut => exact orderly_giveUp setup now (state.without _)
  | unpinged => exact orderly_giveUp setup now { state with pingsSent := state.pingsSent + 1 }
  | pinged generation htransport =>
      simp only [State.custody, State.pinged, htransport]
      exact .frame pingText (.nil _)
  | sent payload generation htransport =>
      simp only [State.custody, htransport]
      exact .frame payload.frame (.nil _)
  | shut => exact (orderly_hangUp _ _).append (orderly_setLink _ _ _)
  | _ => exact .nil _

theorem Move.generation_le {setup : Setup H} {now : Nat} {accepting : Bool} {state : State}
    {input : Input} {outcome : State × List (Effect H)}
    (hmove : Move setup now accepting state input outcome) :
    state.generation ≤ outcome.1.generation :=
  hmove.orderly.dialed_eq.1

/-- All effects of a life are orderly, from empty hands to what is held now. -/
theorem effectsAfter_orderly (setup : Setup H) (began : Nat) (stimuli : List Stimulus) :
    Orderly ⟨none, 0⟩ (effectsAfter setup began stimuli)
      (stateAfter setup began stimuli).custody := by
  rw [effectsAfter_eq]
  refine life_induction (motive := fun past state =>
    Orderly ⟨none, 0⟩ ((start setup began).2 ++ past.flatMap (·.outcome.2)) state.custody)
    ?_ ?_ ?_ stimuli
  · rw [start_eq]
    dsimp only
    split
    · exact .dial (.aside rfl (.ends (.inr rfl) (.nil _)))
    · exact .dial (.aside rfl (.nil _))
  · intro past state now accepting input outcome _ _ hpast hmove
    simpa using hpast.append hmove.orderly
  · intro past state stimulus _ hpast
    simpa using hpast

/-- A handle is let go without a word only when its own transport reported its end. -/
theorem Move.report_of_release {setup : Setup H} {now : Nat} {accepting : Bool} {state : State}
    {input : Input} {outcome : State × List (Effect H)} {generation : Nat}
    (hholds : state.HoldsCurrent) (hmove : Move setup now accepting state input outcome)
    (hrelease : .release generation ∈ outcome.2) :
    ∃ reason, input = .report ⟨generation, .closed reason⟩ := by
  cases hmove with
  | ended reason =>
      rcases List.mem_append.mp hrelease with hmem | hmem
      · have htransport : state.transport = some generation := by
          simpa using hmem
        exact ⟨reason, by rw [hholds generation htransport]⟩
      · exact absurd (mem_setLink hmem) (by simp)
  | delivered =>
      rcases mem_deliver hrelease with ⟨_, heffect⟩ | ⟨_, _, heffect⟩ <;> simp at heffect
  | opened => exact absurd (mem_setLink hrelease) (by simp)
  | retried | reconnected =>
      rcases mem_connect hrelease with ⟨_, _, heffect⟩ | heffect | heffect <;> simp at heffect
  | timedOut | unpinged =>
      rcases mem_giveUp hrelease with heffect | heffect | hconnect
      · simp at heffect
      · simp at heffect
      · rcases mem_connect hconnect with ⟨_, _, heffect⟩ | heffect | heffect <;>
          simp at heffect
  | shut =>
      rcases List.mem_append.mp hrelease with hmem | hmem
      · simp at hmem
      · exact absurd (mem_setLink hmem) (by simp)
  | _ => simp at hrelease

theorem report_of_release (setup : Setup H) (began : Nat) (stimuli : List Stimulus) :
    ∀ moment ∈ moments setup began stimuli, ∀ generation,
      .release generation ∈ moment.outcome.2 →
        ∃ reason, moment.stimulus.input = .report ⟨generation, .closed reason⟩ :=
  forall_moments (fun _ _ _ _ _ hholds hmove _ => hmove.report_of_release hholds)
    (fun _ _ => by simp) stimuli

/-- At any time at most one transport is in use.  The transports are dialed under the numbers
1, 2, … up to the current attempt, and one that is held is that of the current attempt.  Before
the next is dialed every earlier one was told to close or was let go because it reported its
own end, and after that nothing concerns it any more.  Reports of other attempts have no effect
at all. -/
theorem one_transport_at_a_time (setup : Setup H) (began : Nat) (stimuli : List Stimulus) :
    let state := stateAfter setup began stimuli
    let effects := effectsAfter setup began stimuli
    effects.filterMap Effect.dialed? = List.range' 1 state.generation ∧
      (∀ generation, state.transport = some generation → generation = state.generation) ∧
      (∀ earlier between later previous next,
        effects = earlier ++ .dial previous :: (between ++ .dial next :: later) →
          ∃ effect ∈ between, effect.Ends previous) ∧
      (∀ moment ∈ moments setup began stimuli, ∀ generation,
        .release generation ∈ moment.outcome.2 →
          ∃ reason, moment.stimulus.input = .report ⟨generation, .closed reason⟩) ∧
      (∀ earlier effect later generation, effects = earlier ++ effect :: later →
        effect.Ends generation →
          ∀ other ∈ later, other.transport? ≠ some generation) ∧
      ∀ now accepting report, report.generation ≠ state.generation →
        step setup ⟨now, accepting, .report report⟩ state = (state, []) := by
  intro state effects
  have horderly : Orderly ⟨none, 0⟩ effects state.custody :=
    effectsAfter_orderly setup began stimuli
  refine ⟨horderly.dialed_eq.2, holdsCurrent setup began stimuli, ?_,
    report_of_release setup began stimuli, ?_, ?_⟩
  · intro earlier between later previous next heffects
    rw [heffects] at horderly
    exact horderly.ends_between
  · intro earlier effect later generation heffects hends
    rw [heffects] at horderly
    exact horderly.not_concerned_after (by simp) hends
  · intro now accepting report hother
    unfold step
    split
    · rfl
    · exact if_neg hother

end Lifeline.Connection
