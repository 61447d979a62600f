import Lifeline.Proofs.Connection.Published

/-!
# What is queued on a transport

A connection writes to the transport of its attempt what it is asked to send and
its pings, as long as it is open; what it is asked to send at other times is
dropped.  So the frames on each transport can be told from the inputs that were
taken, each with the state in which it was taken (`written_effectsAfter`).
Custody adds the end: a transport that was told to close is not written to any
more (`Orderly.framesThenClose`).
-/

namespace Lifeline

def TransportCommand.text? : TransportCommand → Option String
  | .frame text => some text
  | .close => none

/-- The commands are a frame for each text, and after them at most a close. -/
def FramesThenClose (texts : List String) (commands : List TransportCommand) : Prop :=
  commands = texts.map .frame ∨ commands = texts.map .frame ++ [.close]

namespace FramesThenClose

variable {texts : List String} {commands : List TransportCommand}

theorem cons (hcommands : FramesThenClose texts commands) (text : String) :
    FramesThenClose (text :: texts) (.frame text :: commands) := by
  rcases hcommands with rfl | rfl
  · exact .inl rfl
  · exact .inr rfl

/-- The texts are read off the commands. -/
theorem texts_eq (hcommands : FramesThenClose texts commands) :
    texts = commands.filterMap TransportCommand.text? := by
  have hframes : (texts.map TransportCommand.frame).filterMap TransportCommand.text? = texts := by
    rw [List.filterMap_map]
    exact List.filterMap_some
  rcases hcommands with rfl | rfl
  · exact hframes.symm
  · rw [List.filterMap_append, hframes]
    exact (List.append_nil texts).symm

end FramesThenClose

namespace Connection

variable {H : Type}

/-- The command that an effect queues on the transport of an attempt. -/
def Effect.command? (generation : Nat) : Effect H → Option TransportCommand
  | .frame other text => if other = generation then some (.frame text) else none
  | .hangUp other => if other = generation then some .close else none
  | _ => none

/-- The text that an effect writes to the transport of an attempt. -/
def Effect.text? (generation : Nat) (effect : Effect H) : Option String :=
  (effect.command? generation).bind TransportCommand.text?

/-- The commands on the transport of an attempt. -/
def queued (generation : Nat) (effects : List (Effect H)) : List TransportCommand :=
  effects.filterMap (Effect.command? generation)

/-- The texts that are written to the transport of an attempt. -/
def written (generation : Nat) (effects : List (Effect H)) : List String :=
  effects.filterMap (Effect.text? generation)

theorem written_append (generation : Nat) (earlier later : List (Effect H)) :
    written generation (earlier ++ later) =
      written generation earlier ++ written generation later :=
  List.filterMap_append

theorem written_frame (generation other : Nat) (text : String) :
    written generation [Effect.frame (H := H) other text] =
      if other = generation then [text] else [] := by
  by_cases hsame : other = generation <;>
    simp [written, Effect.text?, Effect.command?, TransportCommand.text?, hsame]

theorem text?_hangUp (generation other : Nat) :
    (Effect.hangUp (H := H) other).text? generation = none := by
  by_cases hsame : other = generation <;>
    simp [Effect.text?, Effect.command?, TransportCommand.text?, hsame]

theorem mem_written {generation : Nat} {text : String} {effects : List (Effect H)}
    (hmem : .frame generation text ∈ effects) : text ∈ written generation effects := by
  apply List.mem_filterMap.mpr
  exact ⟨.frame generation text, hmem, by simp [Effect.text?, Effect.command?,
    TransportCommand.text?]⟩

/-! ## Frames first, then at most a close -/

section Queue

variable {generation : Nat} {effect : Effect H} {effects : List (Effect H)}

theorem command?_eq_none (hother : effect.transport? ≠ some generation) :
    effect.command? generation = none := by
  cases effect with
  | frame other | hangUp other =>
      have hne : other ≠ generation := fun hsame => hother (congrArg some hsame)
      exact if_neg hne
  | _ => rfl

theorem queued_cons_other (hother : effect.transport? ≠ some generation) :
    queued generation (effect :: effects) = queued generation effects :=
  List.filterMap_cons_none (command?_eq_none hother)

theorem queued_cons_frame (generation : Nat) (text : String) (effects : List (Effect H)) :
    queued generation (.frame generation text :: effects) =
      .frame text :: queued generation effects :=
  List.filterMap_cons_some (if_pos rfl)

theorem queued_cons_hangUp (generation : Nat) (effects : List (Effect H)) :
    queued generation (.hangUp generation :: effects) = .close :: queued generation effects :=
  List.filterMap_cons_some (if_pos rfl)

/-- On a transport that no effect concerns nothing is queued. -/
theorem queued_eq_nil (hother : ∀ effect ∈ effects, effect.transport? ≠ some generation) :
    queued generation effects = [] := by
  rw [queued, List.filterMap_eq_nil_iff]
  exact fun effect hmem => command?_eq_none (hother effect hmem)

end Queue

/-- Whoever keeps order queues on each transport frames, and after them at most a close. -/
theorem Orderly.framesThenClose {first last : Custody} {effects : List (Effect H)}
    (horderly : Orderly first effects last)
    (hfirst : ∀ held, first.held = some held → held ≤ first.dialed) (generation : Nat) :
    ∃ texts, FramesThenClose texts (queued generation effects) := by
  induction horderly with
  | nil => exact ⟨[], .inl rfl⟩
  | aside heffect _ ih =>
      rw [queued_cons_other (by simp [heffect])]
      exact ih hfirst
  | dial _ ih => exact ih (by simp [eq_comm])
  | @frame holder dialed last rest text _ ih =>
      obtain ⟨texts, hrest⟩ := ih hfirst
      by_cases hsame : holder = generation
      · rw [hsame, queued_cons_frame]
        exact ⟨text :: texts, hrest.cons text⟩
      · rw [queued_cons_other (by simpa [Effect.transport?] using hsame)]
        exact ⟨texts, hrest⟩
  | @ends holder dialed last effect rest heffect hrest ih =>
      rcases heffect with rfl | rfl
      · by_cases hsame : holder = generation
        · -- Nothing that follows concerns what was told to close.
          have hdialed : generation ≤ dialed := hsame ▸ hfirst holder rfl
          have hnothing : queued generation rest = [] :=
            queued_eq_nil (hrest.not_concerned hdialed (by simp))
          rw [hsame, queued_cons_hangUp, hnothing]
          exact ⟨[], .inr rfl⟩
        · rw [queued_cons_other (by simpa [Effect.transport?] using hsame)]
          exact ih (by simp)
      · exact ih (by simp)

/-! ## What is written -/

/-- The text that an input puts on the transport of an open connection. -/
def Input.text? : Input → Option String
  | .send payload => some payload.frame
  | .tick => some pingText
  | _ => none

/-- What an input owes to the transport of an attempt: its text, if it is taken while the
connection is open in that attempt. -/
def State.owed? (state : State) (generation : Nat) (input : Input) : Option String :=
  if state.isOpen = true ∧ state.generation = generation then input.text? else none

theorem State.owed?_of_not_open {state : State} (hopen : state.isOpen = false)
    (generation : Nat) (input : Input) : state.owed? generation input = none :=
  if_neg (by simp [hopen])

theorem State.owed?_of_textless (state : State) (generation : Nat) {input : Input}
    (htext : input.text? = none) : state.owed? generation input = none := by
  rw [State.owed?, htext, ite_self]

theorem State.owed?_of_open {state : State} (hholds : state.HoldsCurrent) {holder : Nat}
    (htransport : state.transport = some holder) (hlink : state.link = .opened)
    (generation : Nat) (input : Input) :
    state.owed? generation input = if holder = generation then input.text? else none := by
  rw [State.owed?, State.isOpen_of_opened htransport hlink, hholds holder htransport]
  simp

theorem State.open_of_owed {state : State} {generation : Nat} {input : Input} {text : String}
    (howed : state.owed? generation input = some text) :
    state.isOpen = true ∧ state.generation = generation := by
  by_contra hother
  rw [State.owed?, if_neg hother] at howed
  exact absurd howed (by simp)

theorem written_connect (setup : Setup H) (now : Nat) (state : State) (generation : Nat) :
    written generation (connect setup now state).2 = [] :=
  filterMap_connect (text?_hangUp generation) (fun _ => rfl) setup now state

theorem written_giveUp (setup : Setup H) (now : Nat) (state : State) (generation : Nat) :
    written generation (giveUp setup now state).2 = [] :=
  filterMap_giveUp (text?_hangUp generation) (fun _ => rfl) setup now state

/-- A move writes to each transport what its input owes to it, if transports take commands. -/
theorem Move.written_eq {setup : Setup H} {now : Nat} {accepting : Bool} {state : State}
    {input : Input} {outcome : State × List (Effect H)} (hholds : state.HoldsCurrent)
    (hmove : Move setup now accepting state input outcome) (generation : Nat) :
    written generation outcome.2 =
      if accepting = true then (state.owed? generation input).toList else [] := by
  have hunowed : state.owed? generation input = none → written generation outcome.2 = [] →
      written generation outcome.2 =
        if accepting = true then (state.owed? generation input).toList else [] := by
    intro hnone hwritten
    rw [hwritten, hnone]
    simp
  have htextless := fun htext => hunowed (State.owed?_of_textless state generation htext)
  have hunopened : ¬ (state.isOpen = true ∧ accepting = true) →
      written generation outcome.2 = [] →
      written generation outcome.2 =
        if accepting = true then (state.owed? generation input).toList else [] := by
    intro hunsent hwritten
    by_cases haccepting : accepting = true
    · have hopen : state.isOpen = false := by simpa [haccepting] using hunsent
      exact hunowed (State.owed?_of_not_open hopen generation input) hwritten
    · rw [hwritten, if_neg haccepting]
  cases hmove with
  | pinged holder htransport hlink haccepting | sent _ holder htransport hlink haccepting =>
      rw [if_pos haccepting, State.owed?_of_open hholds htransport hlink, written_frame]
      split <;> rfl
  | unpinged hunsent => exact hunopened hunsent (written_giveUp setup now _ generation)
  | dropped _ hunsent => exact hunopened hunsent rfl
  | opened => exact htextless rfl (filterMap_setLink (fun _ => rfl) _ _)
  | delivered text =>
      exact htextless rfl (filterMap_deliver (fun _ => rfl) (fun _ _ => rfl) setup now text)
  | ended =>
      apply htextless rfl
      rw [written_append, written, filterMap_release (fun _ => rfl), List.nil_append]
      exact filterMap_setLink (fun _ => rfl) _ _
  | retried | reconnected => exact htextless rfl (written_connect setup now _ generation)
  | timedOut => exact htextless rfl (written_giveUp setup now _ generation)
  | shut input hinput =>
      have htext : input.text? = none := by rcases hinput with rfl | rfl <;> rfl
      apply htextless htext
      rw [written_append, written, filterMap_hangUp (text?_hangUp generation), List.nil_append]
      exact filterMap_setLink (fun _ => rfl) _ _
  | _ => exact htextless rfl rfl

/-- What the inputs of a life owe to the transport of an attempt, in their order. -/
def owed (generation : Nat) (past : List (Moment H)) : List String :=
  past.filterMap fun moment => moment.before.owed? generation moment.stimulus.input

theorem owed_concat (generation : Nat) (past : List (Moment H)) (moment : Moment H) :
    owed generation (past ++ [moment]) =
      owed generation past ++
        (moment.before.owed? generation moment.stimulus.input).toList := by
  rw [owed, List.filterMap_append, owed]
  cases howed : moment.before.owed? generation moment.stimulus.input <;> simp [howed]

/-- The transports of a life take commands for as long as they are in use. -/
def KeepAccepting (past : List (Moment H)) : Prop :=
  ∀ moment ∈ past, moment.before.isOpen = true → moment.stimulus.accepting = true

/-- What is sent while the connection is not open is dropped. -/
theorem step_unopened_send (setup : Setup H) (now : Nat) (accepting : Bool) (payload : Payload)
    {state : State} (hopen : state.isOpen = false) :
    step setup ⟨now, accepting, .send payload⟩ state = (state, []) := by
  rw [step]
  split
  · rfl
  · rcases write_cases (H := H) accepting payload.frame state with
      ⟨holder, htransport, hlink, -⟩ | ⟨-, hwrite⟩
    · rw [State.isOpen_of_opened htransport hlink] at hopen
      exact absurd hopen (by decide)
    · exact congrArg (fun result : Bool × List (Effect H) => (state, result.2)) hwrite

section Life

variable (setup : Setup H) (began : Nat) (stimuli : List Stimulus)

theorem written_step (stimulus : Stimulus) (generation : Nat) :
    written generation (step setup stimulus (stateAfter setup began stimuli)).2 =
      if stimulus.accepting = true then
        ((stateAfter setup began stimuli).owed? generation stimulus.input).toList
      else [] := by
  cases hstop : (stateAfter setup began stimuli).stopped with
  | false =>
      exact (step_move setup stimulus hstop).written_eq (holdsCurrent setup began stimuli)
        generation
  | true =>
      have hnothing := (quiet_of_stopped setup began stimuli hstop).1
      have hopen : (stateAfter setup began stimuli).isOpen = false := by
        simp [State.isOpen, hnothing]
      rw [step_stopped setup stimulus hstop, State.owed?_of_not_open hopen]
      simp [written]

theorem written_start (generation : Nat) : written generation (start setup began).2 = [] := by
  rw [start_eq]
  split <;> rfl

/-- What is written to a transport is what is owed to it. -/
theorem written_effectsAfter (hkeep : KeepAccepting (moments setup began stimuli))
    (generation : Nat) :
    written generation (effectsAfter setup began stimuli) =
      owed generation (moments setup began stimuli) := by
  induction stimuli using List.reverseRecOn with
  | nil =>
      rw [effectsAfter, written_append, written_start]
      rfl
  | append_singleton stimuli stimulus ih =>
      rw [moments_concat] at hkeep ⊢
      have hbefore : KeepAccepting (moments setup began stimuli) :=
        fun moment hmem => hkeep moment (List.mem_append_left _ hmem)
      have hlast := hkeep _ List.mem_concat_self
      rw [effectsAfter_concat, written_append, ih hbefore, written_step, owed_concat]
      congr 1
      by_cases hopen : (stateAfter setup began stimuli).isOpen = true
      · exact if_pos (hlast hopen)
      · rw [State.owed?_of_not_open (by simpa using hopen)]
        simp

/-- What is sent while the connection is not open has no effect, then or later. -/
theorem effectsAfter_unopened_send {now : Nat} {accepting : Bool} {payload : Payload}
    (hopen : (stateAfter setup began stimuli).isOpen = false) (later : List Stimulus) :
    effectsAfter setup began (stimuli ++ ⟨now, accepting, .send payload⟩ :: later) =
      effectsAfter setup began (stimuli ++ later) := by
  rw [effectsAfter_append, effectsAfter_append, run, Transition.run, Transition.andThen,
    step_unopened_send setup now accepting payload hopen, List.nil_append]
  rfl

end Life

/-- On each transport are, in their order, a frame for each payload that was sent and for each
ping that was due while the connection was open in its attempt, then at most a close, and nothing
else.  What is sent while the connection is not open leaves no trace, then or later, and nothing is
written to a transport before it has reported that it is open. -/
theorem outbound_frames_exact (setup : Setup H) (began : Nat) (stimuli : List Stimulus)
    (hkeep : KeepAccepting (moments setup began stimuli)) (generation : Nat) :
    let past := moments setup began stimuli
    let state := stateAfter setup began stimuli
    FramesThenClose (owed generation past)
        (queued generation (effectsAfter setup began stimuli)) ∧
      (state.isOpen = false → ∀ now accepting payload later,
        effectsAfter setup began (stimuli ++ ⟨now, accepting, .send payload⟩ :: later) =
          effectsAfter setup began (stimuli ++ later)) ∧
      ∀ stimulus text, .frame generation text ∈ (step setup stimulus state).2 →
        HeardOpened past generation := by
  intro past state
  refine ⟨?_, ?_, ?_⟩
  · have horderly := effectsAfter_orderly setup began stimuli
    obtain ⟨texts, hcommands⟩ := horderly.framesThenClose (by simp) generation
    have htexts : texts = owed generation past :=
      calc texts = (queued generation (effectsAfter setup began stimuli)).filterMap
              TransportCommand.text? := hcommands.texts_eq
        _ = written generation (effectsAfter setup began stimuli) := List.filterMap_filterMap
        _ = owed generation past := written_effectsAfter setup began stimuli hkeep generation
    rw [← htexts]
    exact hcommands
  · intro hopen now accepting payload later
    exact effectsAfter_unopened_send setup began stimuli hopen later
  · intro stimulus text hframe
    have hwritten := mem_written hframe
    rw [written_step] at hwritten
    split at hwritten
    · obtain ⟨hopen, hcurrent⟩ := State.open_of_owed (Option.mem_toList.mp hwritten)
      have hlink := ((holdsCurrent setup began stimuli).of_isOpen hopen).2
      rw [← hcurrent]
      exact heardOpened_of_opened hlink
    · simp at hwritten

/-- A text that is sent too early and one that is sent between two attempts are on neither
transport. -/
theorem two_attempts_written_apart :
    let setup := Setup.bare ⟨25000, 5000, 2000⟩
    let stimuli : List Stimulus :=
      [⟨5, true, .send (.text "early")⟩, ⟨10, true, .report ⟨1, .opened⟩⟩,
        ⟨20, true, .send (.text "first")⟩, ⟨25000, true, .tick⟩, ⟨26000, true, .reconnect⟩,
        ⟨26005, true, .send (.text "between")⟩, ⟨26010, true, .report ⟨2, .opened⟩⟩,
        ⟨26020, true, .send (.text "second")⟩, ⟨26030, true, .close⟩]
    let effects := effectsAfter setup 0 stimuli
    KeepAccepting (moments setup 0 stimuli) ∧
      FramesThenClose ["first", pingText] (queued 1 effects) ∧
      FramesThenClose ["second"] (queued 2 effects) := by
  intro setup stimuli effects
  have hkeep : KeepAccepting (moments setup 0 stimuli) := by
    unfold KeepAccepting
    decide
  have hfirst : owed 1 (moments setup 0 stimuli) = ["first", pingText] := by decide
  have hsecond : owed 2 (moments setup 0 stimuli) = ["second"] := by decide
  refine ⟨hkeep, ?_, ?_⟩
  · rw [← hfirst]
    exact (outbound_frames_exact setup 0 stimuli hkeep 1).1
  · rw [← hsecond]
    exact (outbound_frames_exact setup 0 stimuli hkeep 2).1

end Connection

end Lifeline
