import Lifeline.Proofs.Connection.History

/-!
# Silent pings

A ping is silent if it is the first of its attempt since the attempt began or
was last answered, and no pong has come since.  Pings that follow it do not
matter, and neither do pongs of other attempts.  A running connection keeps the
number of the silent ping of its attempt in one slot, and nothing else
(`outstanding_eq_some_iff`).
-/

namespace Lifeline.Connection

variable {H : Type}

/-- After the mark no ping of the attempt is waiting: the attempt begins, or is answered. -/
def Mark.resets (generation : Nat) : Mark → Bool
  | .attempt other => other == generation
  | .pong other => other == generation
  | _ => false

/-- The number of a ping of the attempt. -/
def Mark.pingOf? (generation : Nat) : Mark → Option Nat
  | .ping other number _ => if other = generation then some number else none
  | _ => none

/-- The ping is the first of its attempt after the last mark that resets the attempt. -/
def Silent (history : List Mark) (generation number : Nat) : Prop :=
  ∃ earlier reset since sentAt later,
    history = earlier ++ reset :: (since ++ .ping generation number sentAt :: later) ∧
      reset.resets generation = true ∧
      (∀ mark ∈ since, mark.resets generation = false ∧ mark.pingOf? generation = none) ∧
      ∀ mark ∈ later, mark.resets generation = false

/-- The first ping of an attempt since it was last reset, in one pass. -/
def firstSilent (generation : Nat) (history : List Mark) : Option Nat :=
  history.foldl
    (fun first mark =>
      if mark.resets generation then none else first.or (mark.pingOf? generation))
    none

theorem firstSilent_concat (generation : Nat) (history : List Mark) (mark : Mark) :
    firstSilent generation (history ++ [mark]) =
      if mark.resets generation then none
      else (firstSilent generation history).or (mark.pingOf? generation) := by
  simp [firstSilent]

/-- Where an attempt is not reset, its first ping counts unless there was one before. -/
theorem firstSilent_append {generation : Nat} {later : List Mark}
    (hlater : ∀ mark ∈ later, mark.resets generation = false) (history : List Mark) :
    firstSilent generation (history ++ later) =
      (firstSilent generation history).or (later.findSome? (Mark.pingOf? generation)) := by
  induction later using List.reverseRecOn with
  | nil => simp
  | append_singleton later mark ih =>
      have hrest := ih fun other hother => hlater other (by simp [hother])
      have hmark : mark.resets generation = false := hlater mark (by simp)
      rw [← List.append_assoc, firstSilent_concat, hrest, List.findSome?_append]
      simp [hmark, Option.or_assoc]

private theorem resets_of_concat {generation : Nat} {history : List Mark} {mark : Mark}
    (hreset : ∃ other ∈ history ++ [mark], other.resets generation = true)
    (hmark : ¬ mark.resets generation = true) :
    ∃ other ∈ history, other.resets generation = true := by
  obtain ⟨other, hother, hresets⟩ := hreset
  rcases List.mem_append.mp hother with hmem | hmem
  · exact ⟨other, hmem, hresets⟩
  · exact absurd (List.mem_singleton.mp hmem ▸ hresets) hmark

/-- Without a silent ping the attempt was reset and not pinged in since. -/
theorem exists_reset_of_firstSilent_eq_none {generation : Nat} {history : List Mark}
    (hreset : ∃ mark ∈ history, mark.resets generation = true)
    (hfirst : firstSilent generation history = none) :
    ∃ earlier reset since, history = earlier ++ reset :: since ∧
      reset.resets generation = true ∧
      ∀ mark ∈ since, mark.resets generation = false ∧ mark.pingOf? generation = none := by
  induction history using List.reverseRecOn with
  | nil => simp at hreset
  | append_singleton history mark ih =>
      rw [firstSilent_concat] at hfirst
      by_cases hmark : mark.resets generation = true
      · exact ⟨history, mark, [], rfl, hmark, by simp⟩
      · rw [if_neg hmark, Option.or_eq_none_iff] at hfirst
        obtain ⟨earlier, reset, since, rfl, hresets, hsince⟩ :=
          ih (resets_of_concat hreset hmark) hfirst.1
        refine ⟨earlier, reset, since ++ [mark], by simp, hresets, ?_⟩
        intro other hother
        rcases List.mem_append.mp hother with hmem | hmem
        · exact hsince other hmem
        · rw [List.mem_singleton.mp hmem]
          exact ⟨by simpa using hmark, hfirst.2⟩

private theorem silent_of_firstSilent {generation number : Nat} {history : List Mark}
    (hreset : ∃ mark ∈ history, mark.resets generation = true)
    (hfirst : firstSilent generation history = some number) :
    Silent history generation number := by
  induction history using List.reverseRecOn with
  | nil => simp [firstSilent] at hfirst
  | append_singleton history mark ih =>
      rw [firstSilent_concat] at hfirst
      by_cases hmark : mark.resets generation = true
      · simp [hmark] at hfirst
      rw [if_neg hmark] at hfirst
      have hbefore := resets_of_concat hreset hmark
      cases hold : firstSilent generation history with
      | some first =>
          have hsame : first = number := by simpa [hold] using hfirst
          obtain ⟨earlier, reset, since, sentAt, later, rfl, hresets, hsince, hlater⟩ :=
            ih hbefore (hsame ▸ hold)
          refine ⟨earlier, reset, since, sentAt, later ++ [mark], by simp, hresets,
            hsince, ?_⟩
          intro other hother
          rcases List.mem_append.mp hother with hmem | hmem
          · exact hlater other hmem
          · rw [List.mem_singleton.mp hmem]
            simpa using hmark
      | none =>
          obtain ⟨earlier, reset, since, rfl, hresets, hsince⟩ :=
            exists_reset_of_firstSilent_eq_none hbefore hold
          rw [hold, Option.none_or] at hfirst
          cases mark with
          | ping other second sentAt =>
              have hsame : other = generation ∧ second = number := by
                simpa [Mark.pingOf?] using hfirst
              rw [hsame.1, hsame.2]
              exact ⟨earlier, reset, since, sentAt, [], by simp, hresets, hsince, by simp⟩
          | _ => simp [Mark.pingOf?] at hfirst

/-- The relation and the pass over the history agree on an attempt that has begun. -/
theorem silent_iff {generation number : Nat} {history : List Mark}
    (hreset : ∃ mark ∈ history, mark.resets generation = true) :
    Silent history generation number ↔ firstSilent generation history = some number := by
  constructor
  · rintro ⟨earlier, reset, since, sentAt, later, rfl, hresets, hsince, hlater⟩
    have hbegun : firstSilent generation (earlier ++ [reset]) = none := by
      rw [firstSilent_concat, if_pos hresets]
    have hquiet : since.findSome? (Mark.pingOf? generation) = none :=
      List.findSome?_eq_none_iff.mpr fun mark hmark => (hsince mark hmark).2
    have hunreset : ∀ mark ∈ since ++ .ping generation number sentAt :: later,
        mark.resets generation = false := by
      intro mark hmark
      rcases List.mem_append.mp hmark with hmem | hmem
      · exact (hsince mark hmem).1
      · rcases List.mem_cons.mp hmem with rfl | hmem
        · rfl
        · exact hlater mark hmem
    have hfirst := firstSilent_append hunreset (earlier ++ [reset])
    rw [hbegun, List.findSome?_append, hquiet] at hfirst
    simpa [Mark.pingOf?] using hfirst
  · exact silent_of_firstSilent hreset

/-! ## The slot for the outstanding ping -/

private theorem slot_and_attempt (setup : Setup H) (began : Nat) (stimuli : List Stimulus) :
    (stateAfter setup began stimuli).stopped = false →
      (stateAfter setup began stimuli).outstanding =
          firstSilent (stateAfter setup began stimuli).generation
            (history setup began stimuli) ∧
        .attempt (stateAfter setup began stimuli).generation ∈ history setup began stimuli := by
  refine history_induction (motive := fun past state => state.stopped = false →
    state.outstanding = firstSilent state.generation past ∧
      .attempt state.generation ∈ past) ?_ ?_ ?_ stimuli
  · intro _
    rw [start_eq]
    split <;> simp [State.redialed, State.collapsed, State.initial, firstSilent, Mark.resets]
  · intro past marks state now accepting input outcome hrunning hpast _ hturn hgoes
    obtain ⟨hslot, hattempt⟩ := hpast hrunning
    cases hturn with
    | quiet hgeneration _ hsame => simpa [hgeneration, hsame] using ⟨hslot, hattempt⟩
    | stopped hstop => simp [hstop] at hgoes
    | attempted hgeneration _ hnone =>
        simp [hgeneration, hnone, firstSilent_concat, Mark.resets]
    | pinged hgeneration _ hsome =>
        rw [hgeneration, hsome, hslot, firstSilent_concat]
        cases firstSilent state.generation past <;>
          simp [Mark.resets, Mark.pingOf?, hattempt]
    | answered hgeneration _ hnone =>
        simp [hgeneration, hnone, firstSilent_concat, Mark.resets, hattempt]
    | overheard generation hother hsame =>
        simpa [hsame, firstSilent_concat, Mark.resets, Mark.pingOf?, hother]
          using ⟨hslot, hattempt⟩
    | unconfirmed hgeneration _ hsame =>
        simpa [hgeneration, hsame, firstSilent_concat, Mark.resets, Mark.pingOf?]
          using ⟨hslot, hattempt⟩
  · intro past state input hstop _ hrunning
    simp [hstop] at hrunning

/-- A running connection keeps the silent ping of its attempt, and that alone, in the slot. -/
theorem outstanding_eq_some_iff (setup : Setup H) (began : Nat) (stimuli : List Stimulus)
    (hrunning : (stateAfter setup began stimuli).stopped = false) (number : Nat) :
    (stateAfter setup began stimuli).outstanding = some number ↔
      Silent (history setup began stimuli) (stateAfter setup began stimuli).generation
        number := by
  obtain ⟨hslot, hattempt⟩ := slot_and_attempt setup began stimuli hrunning
  rw [silent_iff ⟨_, hattempt, by simp [Mark.resets]⟩, hslot]

end Lifeline.Connection
