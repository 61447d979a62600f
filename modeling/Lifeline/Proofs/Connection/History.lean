import Lifeline.Proofs.Connection.Life

/-!
# The history of attempts, pings and pongs

The history of a connection lists its attempts, the pings that were queued with
their numbers and times, the pongs that came in, and the checks that found an
attempt not open.  It is read off the inputs and the effects of the moments
only, so it says nothing of the slot for the outstanding ping or of the pending
timers; those are compared with it elsewhere.
-/

namespace Lifeline.Connection

variable {H : Type}

inductive Mark
  | attempt (generation : Nat)
  | ping (generation number sentAt : Nat)
  | pong (generation : Nat)
  /-- The check of an attempt found it not open. -/
  | unconfirmed (generation : Nat)
  deriving DecidableEq

/-- What an input alone tells of the history. -/
def Input.marks : Input → List Mark
  | .report ⟨generation, .message text⟩ => if text = pongText then [.pong generation] else []
  | _ => []

/-- What an effect tells of the history, with the input it answers and the state after it. -/
def Effect.mark? (now : Nat) (input : Input) (next : State) : Effect H → Option Mark
  | .dial generation => some (.attempt generation)
  | .frame generation text =>
      if input = .tick ∧ text = pingText then
        some (.ping generation next.pingsSent now)
      else none
  | .status call =>
      if call = .set StatusCall.connectingMessage .warning false then
        some (.unconfirmed next.generation)
      else none
  | _ => none

def Moment.marks (moment : Moment H) : List Mark :=
  moment.stimulus.input.marks ++
    moment.outcome.2.filterMap
      (Effect.mark? moment.stimulus.now moment.stimulus.input moment.outcome.1)

/-- The history of a connection: its first attempt and the marks of all moments. -/
def history (setup : Setup H) (began : Nat) (stimuli : List Stimulus) : List Mark :=
  .attempt 1 :: (moments setup began stimuli).flatMap Moment.marks

/-! ## The marks of each move -/

section Marks

variable (setup : Setup H) (now later : Nat) (input : Input) (next state : State)

theorem marks_setLink (link : Link) :
    (setLink (H := H) link state).2.filterMap (Effect.mark? now input next) = [] :=
  filterMap_setLink (fun _ => rfl) link state

theorem marks_deliver (text : String) :
    (deliver setup later text).filterMap (Effect.mark? now input next) = [] :=
  filterMap_deliver (fun _ => by simp [Effect.mark?]) (fun _ _ => rfl) setup later text

theorem marks_hangUp (transport : Option Nat) :
    ((transport.map Effect.hangUp).toList : List (Effect H)).filterMap
      (Effect.mark? now input next) = [] :=
  filterMap_hangUp (fun _ => rfl) transport

theorem marks_release (transport : Option Nat) :
    ((transport.map Effect.release).toList : List (Effect H)).filterMap
      (Effect.mark? now input next) = [] :=
  filterMap_release (fun _ => rfl) transport

/-- A fresh attempt leaves its mark and nothing else. -/
theorem marks_connect :
    (connect setup now state).2.filterMap (Effect.mark? later input next) =
      [.attempt (state.generation + 1)] :=
  filterMap_connect (fun _ => rfl) (fun _ => rfl) setup now state

theorem marks_giveUp :
    (giveUp setup now state).2.filterMap (Effect.mark? later input next) =
      [.attempt (state.generation + 1)] := by
  rw [filterMap_giveUp (fun _ => rfl) (fun _ => rfl)]
  simp [Effect.mark?]

end Marks

/-! ## The retry of an attempt -/

/-- A retry of the current attempt is pending. -/
def State.WillRetry (state : State) : Prop :=
  ∃ deadline, ⟨.retry state.generation, deadline⟩ ∈ state.pending

theorem willRetry_without (state : State) {fired : PendingTimer}
    (hfired : fired.timer ≠ .retry state.generation) :
    (state.without fired).WillRetry ↔ state.WillRetry := by
  refine exists_congr fun deadline => List.mem_erase_of_ne ?_
  intro hsame
  exact hfired (by rw [← hsame]; rfl)

theorem willRetry_schedule (state : State) (deadline : Nat) {timer : Timer}
    (htimer : timer ≠ .retry state.generation) :
    (state.schedule deadline timer).WillRetry ↔ state.WillRetry := by
  refine exists_congr fun other => ?_
  change _ ∈ state.pending ++ [_] ↔ _
  rw [List.mem_append, List.mem_singleton]
  constructor
  · rintro (hold | hnew)
    · exact hold
    · exact absurd (congrArg PendingTimer.timer hnew).symm htimer
  · exact .inl

/-! ## What a move adds to the history -/

/-- What a move adds to the history, with what becomes of the attempt, the count of pings, the
slot for the outstanding ping and the retry of the attempt. -/
inductive Turn (now : Nat) (state next : State) : List Mark → Prop
  | quiet (hgeneration : next.generation = state.generation)
      (hpings : next.pingsSent = state.pingsSent)
      (hslot : next.outstanding = state.outstanding)
      (hretry : next.WillRetry ↔ state.WillRetry) : Turn now state next []
  | stopped (hstop : next.stopped = true) (hpings : next.pingsSent = state.pingsSent)
      (hslot : next.outstanding = none) : Turn now state next []
  | attempted (hgeneration : next.generation = state.generation + 1)
      (hpings : state.pingsSent ≤ next.pingsSent) (hslot : next.outstanding = none) :
      Turn now state next [.attempt (state.generation + 1)]
  | pinged (hgeneration : next.generation = state.generation)
      (hpings : next.pingsSent = state.pingsSent + 1)
      (hslot : next.outstanding = some (state.outstanding.getD (state.pingsSent + 1)))
      (hretry : next.WillRetry ↔ state.WillRetry) :
      Turn now state next [.ping state.generation (state.pingsSent + 1) now]
  | answered (hgeneration : next.generation = state.generation)
      (hpings : next.pingsSent = state.pingsSent) (hslot : next.outstanding = none)
      (hretry : next.WillRetry ↔ state.WillRetry) :
      Turn now state next [.pong state.generation]
  /-- A pong of another attempt changes nothing. -/
  | overheard (generation : Nat) (hother : generation ≠ state.generation)
      (hsame : next = state) : Turn now state next [.pong generation]
  | unconfirmed (hgeneration : next.generation = state.generation)
      (hpings : next.pingsSent = state.pingsSent)
      (hslot : next.outstanding = state.outstanding) (hretry : next.WillRetry) :
      Turn now state next [.unconfirmed state.generation]

theorem Move.turn {setup : Setup H} {now : Nat} {accepting : Bool} {state : State}
    {input : Input} {outcome : State × List (Effect H)} (hholds : state.HoldsCurrent)
    (hmove : Move setup now accepting state input outcome) :
    Turn now state outcome.1 (Moment.marks ⟨state, ⟨now, accepting, input⟩, outcome⟩) := by
  cases hmove with
  | foreign report hother =>
      rcases report with ⟨generation, event⟩
      cases event with
      | message text =>
          by_cases htext : text = pongText
          · simp only [Moment.marks, Input.marks, if_pos htext, List.filterMap_nil,
              List.append_nil]
            exact .overheard generation hother rfl
          · simp only [Moment.marks, Input.marks, if_neg htext, List.filterMap_nil,
              List.append_nil]
            exact .quiet rfl rfl rfl .rfl
      | _ => exact .quiet rfl rfl rfl .rfl
  | opened =>
      simp only [Moment.marks, Input.marks, marks_setLink, List.append_nil]
      exact .quiet rfl rfl rfl .rfl
  | answered => exact .answered rfl rfl rfl .rfl
  | delivered text htext =>
      simp only [Moment.marks, Input.marks, if_neg htext, marks_deliver, List.append_nil]
      exact .quiet rfl rfl rfl .rfl
  | ended =>
      simp only [Moment.marks, Input.marks, List.filterMap_append, marks_release, marks_setLink,
        List.append_nil]
      exact .quiet rfl rfl rfl .rfl
  | shut input hinput =>
      have hinput' : input.marks = [] := by
        rcases hinput with rfl | rfl <;> rfl
      simp only [Moment.marks, hinput', List.filterMap_append, marks_hangUp, marks_setLink,
        List.append_nil]
      exact .stopped rfl rfl rfl
  | retried | reconnected =>
      simp only [Moment.marks, Input.marks, marks_connect, List.nil_append]
      rw [connect_eq]
      exact .attempted rfl (Nat.le_refl _) rfl
  | timedOut =>
      simp only [Moment.marks, Input.marks, marks_giveUp, List.nil_append]
      rw [giveUp_eq]
      exact .attempted rfl (Nat.le_refl _) rfl
  | unpinged =>
      simp only [Moment.marks, Input.marks, marks_giveUp, List.nil_append]
      rw [giveUp_eq]
      exact .attempted rfl (Nat.le_succ _) rfl
  | pinged generation htransport =>
      rw [hholds generation htransport]
      simp only [Moment.marks, Input.marks, List.filterMap_cons, Effect.mark?, and_self,
        if_true, List.filterMap_nil, List.nil_append]
      exact .pinged rfl rfl rfl (willRetry_schedule state _ (by simp))
  | outdated fired _ hheeds =>
      refine .quiet rfl rfl rfl (willRetry_without state ?_)
      intro hfired
      exact hheeds (by rw [hfired]; rfl)
  | confirmed => exact .quiet rfl rfl rfl (willRetry_without state (by simp))
  | unconfirmed =>
      exact .unconfirmed rfl rfl rfl
        ⟨_, List.mem_append_right _ (List.mem_singleton.mpr rfl)⟩
  | _ => exact .quiet rfl rfl rfl .rfl

/-- Induction over a life for statements about its history. -/
theorem history_induction {setup : Setup H} {began : Nat} {motive : List Mark → State → Prop}
    (hstart : motive [.attempt 1] (start setup began).1)
    (hmove : ∀ past marks state now accepting input outcome, state.stopped = false →
      motive past state → Move setup now accepting state input outcome →
        Turn now state outcome.1 marks → motive (past ++ marks) outcome.1)
    (hstopped : ∀ past state (input : Input), state.stopped = true → motive past state →
      motive (past ++ input.marks) state)
    (stimuli : List Stimulus) :
    motive (history setup began stimuli) (stateAfter setup began stimuli) := by
  refine life_induction (motive := fun past state =>
    motive (.attempt 1 :: past.flatMap Moment.marks) state) hstart ?_ ?_ stimuli
  · intro past state now accepting input outcome hrunning hholds hpast hmoved
    simpa using hmove _ _ state now accepting input outcome hrunning hpast hmoved
      (hmoved.turn hholds)
  · intro past state stimulus hstop hpast
    simpa [Moment.marks] using hstopped _ state stimulus.input hstop hpast

end Lifeline.Connection
