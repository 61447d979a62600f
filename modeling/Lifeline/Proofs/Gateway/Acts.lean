import Lifeline.Gateway.Relay
import Mathlib.Data.List.Induction

/-!
# What a gateway has to do

The inputs alone say where each socket stands, and what the gateway has to do at
each of them: greet a socket, answer a ping, relay an envelope, or announce a
departure.  These acts are what the frames of a run are compared with.  A socket
ends once and for all, so its departure is announced once, and nothing is
relayed for it afterwards.
-/

namespace Lifeline.Gateway

/-! ## Where a socket stands -/

inductive Phase
  /-- The handle has not been given out. -/
  | unknown
  /-- The socket was accepted, and its greeting is not written yet. -/
  | waiting
  | live
  | ended
  deriving DecidableEq

/-- A socket that was accepted and has not ended. -/
def Phase.Registered (phase : Phase) : Prop := phase = .waiting ∨ phase = .live

instance (phase : Phase) : Decidable phase.Registered := inferInstanceAs (Decidable (_ ∨ _))

/-- How many sockets were accepted. -/
def connects (inputs : List Input) : Nat := inputs.count .connect

/-- One input, for the socket with the handle: how many were accepted, and where it stands. -/
def track (handle : Nat) : Nat × Phase → Input → Nat × Phase
  | (accepted, phase), .connect => (accepted + 1, if accepted + 1 = handle then .waiting else phase)
  | (accepted, phase), .greet other delivered =>
      (accepted,
        if other = handle ∧ phase = .waiting then if delivered then .live else .ended else phase)
  | (accepted, phase), .leave other =>
      (accepted, if other = handle ∧ phase = .live then .ended else phase)
  | tracked, .text _ _ => tracked
  | tracked, .write _ => tracked

def tracked (handle : Nat) (inputs : List Input) : Nat × Phase :=
  inputs.foldl (track handle) (0, .unknown)

def phase (handle : Nat) (inputs : List Input) : Phase := (tracked handle inputs).2

/-! ## What there is to do -/

inductive Act
  | greeted (handle : Nat)
  | answered (handle : Nat)
  | relayed (sender : Nat) (envelope : Envelope)
  | departed (handle : Nat)
  deriving DecidableEq

/-- The frame that an act sends. -/
def Act.frame : Act → String
  | .greeted handle => (initMessage handle).toJson
  | .answered _ => pongText
  | .relayed sender envelope => (attributed sender envelope).toJson
  | .departed handle => (closeMessage handle).toJson

/-- What an input leads to after others. -/
def act? (past : List Input) : Input → Option Act
  | .greet handle delivered =>
      if phase handle past = .waiting then
        some (if delivered then .greeted handle else .departed handle)
      else none
  | .text handle text =>
      if phase handle past = .live then
        if text = pingText then some (.answered handle)
        else (Envelope.ofJson text).toOption.map (.relayed handle)
      else none
  | .leave handle => if phase handle past = .live then some (.departed handle) else none
  | .connect => none
  | .write _ => none

/-- The input that an act is due to, and where its socket stands. -/
def Act.DueTo (past : List Input) (input : Input) : Act → Prop
  | .greeted handle => input = .greet handle true ∧ phase handle past = .waiting
  | .answered handle => input = .text handle pingText ∧ phase handle past = .live
  | .relayed sender envelope => ∃ text, input = .text sender text ∧ phase sender past = .live ∧
      text ≠ pingText ∧ Envelope.ofJson text = .ok envelope
  | .departed handle => input = .greet handle false ∧ phase handle past = .waiting ∨
      input = .leave handle ∧ phase handle past = .live

theorem act?_eq_some_iff {past : List Input} {input : Input} {act : Act} :
    act? past input = some act ↔ act.DueTo past input := by
  cases input with
  | greet handle delivered => cases delivered <;> cases act <;> grind [act?, Act.DueTo]
  | text handle text =>
      cases hjson : Envelope.ofJson text <;> cases act <;>
        grind [act?, Act.DueTo, Except.toOption]
  | _ => cases act <;> grind [act?, Act.DueTo]

theorem ne_connect_of_act {past : List Input} {input : Input} {act : Act}
    (hact : act? past input = some act) : input ≠ .connect := by
  rintro rfl
  contradiction

def actsFrom (past : List Input) : List Input → List Act
  | [] => []
  | input :: later => (act? past input).toList ++ actsFrom (past ++ [input]) later

/-- The acts of a run. -/
def acts (inputs : List Input) : List Act := actsFrom [] inputs

theorem actsFrom_append (past earlier later : List Input) :
    actsFrom past (earlier ++ later) =
      actsFrom past earlier ++ actsFrom (past ++ earlier) later := by
  induction earlier generalizing past with
  | nil => simp [actsFrom]
  | cons input earlier ih =>
      rw [List.cons_append, actsFrom, actsFrom, ih, List.append_assoc, List.append_assoc]
      rfl

theorem acts_append (earlier later : List Input) :
    acts (earlier ++ later) = acts earlier ++ actsFrom earlier later :=
  actsFrom_append [] earlier later

theorem acts_concat (past : List Input) (input : Input) :
    acts (past ++ [input]) = acts past ++ (act? past input).toList := by
  rw [acts_append, actsFrom, actsFrom, List.append_nil]

/-- An act has the input that led to it. -/
theorem mem_acts_iff {inputs : List Input} {act : Act} :
    act ∈ acts inputs ↔
      ∃ past input later, inputs = past ++ input :: later ∧ act? past input = some act := by
  induction inputs using List.reverseRecOn with
  | nil => simp [acts, actsFrom]
  | append_singleton inputs last ih =>
      rw [acts_concat, List.mem_append, ih]
      constructor
      · rintro (⟨past, input, later, rfl, hact⟩ | hlast)
        · exact ⟨past, input, later ++ [last], by simp, hact⟩
        · exact ⟨inputs, last, [], rfl, Option.mem_toList.1 hlast⟩
      · rintro ⟨past, input, later, hinputs, hact⟩
        rcases List.eq_nil_or_concat later with rfl | ⟨later, other, rfl⟩
        · obtain ⟨rfl, hsame⟩ := List.append_inj' hinputs rfl
          obtain rfl := (List.cons.inj hsame).1
          exact .inr (Option.mem_toList.2 hact)
        · rw [List.concat_eq_append, ← List.cons_append, ← List.append_assoc] at hinputs
          exact .inl ⟨past, input, later, (List.append_inj' hinputs rfl).1, hact⟩

/-! ## Phases along a run -/

theorem tracked_concat (handle : Nat) (past : List Input) (input : Input) :
    tracked handle (past ++ [input]) = track handle (tracked handle past) input := by
  rw [tracked, List.foldl_append, ← tracked]
  rfl

theorem connects_concat (past : List Input) (input : Input) :
    connects (past ++ [input]) = connects past + if input = .connect then 1 else 0 := by
  rw [connects, List.count_append, List.count_singleton, ← connects]
  simp [beq_iff_eq]

theorem tracked_fst (handle : Nat) (inputs : List Input) :
    (tracked handle inputs).1 = connects inputs := by
  induction inputs using List.reverseRecOn with
  | nil => rfl
  | append_singleton past input ih =>
      rw [tracked_concat, connects_concat, ← ih]
      cases input <;> simp [track]

/-- A phase begins with the handle being given out, and changes by acts alone. -/
theorem phase_concat (handle : Nat) (past : List Input) (input : Input) :
    phase handle (past ++ [input]) =
      if input = .connect ∧ connects past + 1 = handle then .waiting
      else if act? past input = some (.greeted handle) then .live
      else if act? past input = some (.departed handle) then .ended
      else phase handle past := by
  have hphase : (tracked handle past).2 = phase handle past := rfl
  rw [phase, tracked_concat]
  cases input with
  | connect => simp [track, tracked_fst, act?, hphase]
  | greet other delivered =>
      by_cases hsame : other = handle
      · subst hsame
        cases delivered <;> simp [track, act?, hphase]
      · by_cases hwaiting : phase other past = .waiting <;>
          cases delivered <;> simp [track, act?, hphase, hsame, hwaiting]
  | text other text =>
      by_cases hlive : phase other past = .live <;> by_cases hping : text = pingText <;>
        simp [track, act?, hphase, hlive, hping]
  | leave other =>
      by_cases hsame : other = handle
      · subst hsame
        simp [track, act?, hphase]
      · by_cases hlive : phase other past = .live <;> simp [track, act?, hphase, hsame, hlive]
  | write other => simp [track, act?, hphase]

/-- The handles are given out in sequence, from one. -/
theorem phase_eq_unknown_iff {handle : Nat} {inputs : List Input} :
    phase handle inputs = .unknown ↔ handle = 0 ∨ connects inputs < handle := by
  induction inputs using List.reverseRecOn with
  | nil =>
      have hfirst : phase handle [] = .unknown := rfl
      simp only [hfirst, connects, List.count_nil, true_iff]
      omega
  | append_singleton past input ih =>
      rw [phase_concat, connects_concat]
      split
      · next hconnect =>
          rw [if_pos hconnect.1]
          simp only [reduceCtorEq, false_iff]
          omega
      · next hconnect =>
          split
          · next hgreeted =>
              obtain ⟨rfl, hwaiting⟩ := act?_eq_some_iff.1 hgreeted
              rw [hwaiting] at ih
              simpa using ih
          · split
            · next hdeparted =>
                obtain ⟨rfl, hwaiting⟩ | ⟨rfl, hlive⟩ := act?_eq_some_iff.1 hdeparted
                · rw [hwaiting] at ih
                  simpa using ih
                · rw [hlive] at ih
                  simpa using ih
            · rw [ih]
              split
              · next hinput =>
                  have hother : connects past + 1 ≠ handle := fun heq => hconnect ⟨hinput, heq⟩
                  omega
              · rfl

theorem bounds_of_known {handle : Nat} {inputs : List Input}
    (hknown : phase handle inputs ≠ .unknown) : 0 < handle ∧ handle ≤ connects inputs := by
  rw [Ne, phase_eq_unknown_iff] at hknown
  omega

theorem known_of_registered {handle : Nat} {inputs : List Input}
    (hregistered : (phase handle inputs).Registered) : 0 < handle ∧ handle ≤ connects inputs := by
  apply bounds_of_known
  rcases hregistered with hwaiting | hlive
  · simp [hwaiting]
  · simp [hlive]

theorem registered_of_departed {past : List Input} {input : Input} {handle : Nat}
    (hact : act? past input = some (.departed handle)) : (phase handle past).Registered := by
  obtain ⟨-, hwaiting⟩ | ⟨-, hlive⟩ := act?_eq_some_iff.1 hact
  · exact .inl hwaiting
  · exact .inr hlive

section

variable {past : List Input} {input : Input} {handle : Nat}

/-- A greeting moves its own socket and no other. -/
theorem phase_concat_of_greeted (hact : act? past input = some (.greeted handle)) (other : Nat) :
    phase other (past ++ [input]) = if handle = other then .live else phase other past := by
  simp [phase_concat, hact, ne_connect_of_act hact]

/-- So does a departure. -/
theorem phase_concat_of_departed (hact : act? past input = some (.departed handle)) (other : Nat) :
    phase other (past ++ [input]) = if handle = other then .ended else phase other past := by
  simp [phase_concat, hact, ne_connect_of_act hact]

theorem ended_of_departed (hact : act? past input = some (.departed handle)) :
    phase handle (past ++ [input]) = .ended := by
  rw [phase_concat_of_departed hact, if_pos rfl]

end

/-- Inputs that neither open, greet nor end a socket leave all phases. -/
theorem phase_concat_of_quiet {past : List Input} {input : Input} (hconnect : input ≠ .connect)
    (hgreeted : ∀ handle, act? past input ≠ some (.greeted handle))
    (hdeparted : ∀ handle, act? past input ≠ some (.departed handle)) (handle : Nat) :
    phase handle (past ++ [input]) = phase handle past := by
  rw [phase_concat, if_neg fun hboth => hconnect hboth.1, if_neg (hgreeted handle),
    if_neg (hdeparted handle)]

/-- A socket that has ended has ended for good. -/
theorem phase_ended_append {handle : Nat} {past : List Input}
    (hended : phase handle past = .ended) (later : List Input) :
    phase handle (past ++ later) = .ended := by
  induction later using List.reverseRecOn with
  | nil => rwa [List.append_nil]
  | append_singleton later input ih =>
      have hbounds : 0 < handle ∧ handle ≤ connects (past ++ later) :=
        bounds_of_known (by simp [ih])
      rw [← List.append_assoc, phase_concat, if_neg, if_neg, ih, ite_self]
      · intro hgreeted
        rw [(act?_eq_some_iff.1 hgreeted).2] at ih
        contradiction
      · omega

/-- Each departure is announced once. -/
theorem count_departed (handle : Nat) (inputs : List Input) :
    (acts inputs).count (.departed handle) = if phase handle inputs = .ended then 1 else 0 := by
  induction inputs using List.reverseRecOn with
  | nil => rfl
  | append_singleton past input ih =>
      rw [acts_concat, List.count_append, ih]
      by_cases hact : act? past input = some (.departed handle)
      · have hbefore : phase handle past ≠ .ended := by
          rcases registered_of_departed hact with hwaiting | hlive
          · simp [hwaiting]
          · simp [hlive]
        rw [if_neg hbefore, if_pos (ended_of_departed hact), hact]
        simp
      · have hnone : (act? past input).toList.count (.departed handle) = 0 := by
          rw [List.count_eq_zero, Option.mem_toList]
          exact hact
        have hsame : phase handle (past ++ [input]) = .ended ↔ phase handle past = .ended := by
          constructor
          · intro hended
            rw [phase_concat, if_neg hact] at hended
            split at hended
            · contradiction
            · split at hended
              · contradiction
              · exact hended
          · exact fun hended => phase_ended_append hended [input]
        rw [hnone, Nat.add_zero]
        exact if_congr hsame.symm rfl rfl

/-- Nothing is relayed for a socket that has ended. -/
theorem not_relayed_after {handle : Nat} {past : List Input} (hended : phase handle past = .ended)
    (later : List Input) (envelope : Envelope) :
    .relayed handle envelope ∉ actsFrom past later := by
  induction later generalizing past with
  | nil => exact List.not_mem_nil
  | cons input later ih =>
      rw [actsFrom, List.mem_append, not_or, Option.mem_toList]
      refine ⟨fun hrelayed => ?_, ih (phase_ended_append hended [input])⟩
      obtain ⟨_, -, hlive, -⟩ := act?_eq_some_iff.1 hrelayed
      rw [hlive] at hended
      contradiction

end Lifeline.Gateway
