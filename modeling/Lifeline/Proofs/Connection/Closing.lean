import Lifeline.Connection.Mailbox
import Lifeline.Proofs.Connection.Published

/-!
# Closing for good

A connection stops when it takes a request to close, or when nobody holds it any
more.  It tells the transport that it holds to close, publishes that it is
closed, and from then on nothing that is queued or still comes in has any
effect.  Every call to close returns, and none with an error: those that were
waiting when the connection stopped, and those that come later.
-/

namespace Lifeline.Connection

variable {H : Type}

/-! ## Stopped connections -/

theorem run_stopped (setup : Setup H) (stimuli : List Stimulus) {state : State}
    (hstopped : state.stopped = true) : run setup stimuli state = (state, []) := by
  induction stimuli with
  | nil => rfl
  | cons stimulus stimuli ih =>
      have hstep := step_stopped setup stimulus hstopped
      change (step setup stimulus).andThen (run setup stimuli) state = _
      rw [Transition.andThen, hstep, ih]
      rfl

theorem running_of_step {setup : Setup H} {stimulus : Stimulus} {state : State}
    (hgoes : (step setup stimulus state).1.stopped = false) : state.stopped = false := by
  cases hstop : state.stopped with
  | false => rfl
  | true =>
      rw [step_stopped setup stimulus hstop] at hgoes
      exact hstop.symm.trans hgoes

theorem step_shut (setup : Setup H) {stimulus : Stimulus} {state : State}
    (hrunning : state.stopped = false)
    (hinput : stimulus.input = .close ∨ stimulus.input = .abandon) :
    step setup stimulus state =
      (state.shut,
        (state.transport.map Effect.hangUp).toList ++ (setLink .closed state).2) := by
  rw [← shutdown_eq, step, if_neg (by simp [hrunning])]
  rcases hinput with hinput | hinput <;> rw [hinput]

section Moves

variable {setup : Setup H} {now : Nat} {accepting : Bool} {state : State} {input : Input}
  {outcome : State × List (Effect H)}

/-- Only a request to close, or the loss of all handles, makes a connection publish that it is
closed. -/
theorem Move.input_of_closed (hmove : Move setup now accepting state input outcome)
    (hclosed : .closed ∈ published outcome.2) : input = .close ∨ input = .abandon := by
  have hcourse := hmove.course
  generalize published outcome.2 = links at hclosed hcourse
  cases hcourse with
  | still => simp at hclosed
  | opened | ended | redialed => exact absurd (Link.eq_of_mem_change hclosed) (by decide)
  | lost =>
      rcases List.mem_append.mp hclosed with hmem | hmem
      · exact absurd (Link.eq_of_mem_change hmem) (by decide)
      · simp at hmem
  | shut hinput => exact hinput

end Moves

namespace Mailbox

/-! ## The life behind a mailbox -/

/-- What the connection does, of all that is noticed. -/
def effects (notices : List (Notice H)) : List (Effect H) :=
  notices.filterMap fun
    | .effect effect => some effect
    | .returned _ _ => none

theorem effects_append (earlier later : List (Notice H)) :
    effects (earlier ++ later) = effects earlier ++ effects later :=
  List.filterMap_append

theorem effects_map (list : List (Effect H)) : effects (list.map Notice.effect) = list := by
  rw [effects, List.filterMap_map]
  exact List.filterMap_some

theorem effects_dismissed (letters : List Letter) :
    effects (dismissed (H := H) letters) = [] := by
  simp [effects, dismissed]

/-- What the connection takes notice of in a run. -/
def stimuli (setup : Setup H) : Mailbox → List Event → List Stimulus
  | _, [] => []
  | mailbox, event :: events =>
      (mailbox.stimulus? event).toList ++ stimuli setup (react setup event mailbox).1 events

theorem advance_life (setup : Setup H) (stimulus : Stimulus) (left : List Letter)
    (mailbox : Mailbox) :
    (advance setup stimulus left mailbox).1.state = (step setup stimulus mailbox.state).1 ∧
      effects (advance setup stimulus left mailbox).2 =
        (step setup stimulus mailbox.state).2 := by
  unfold advance
  dsimp only
  split
  · rw [effects_append, effects_map, effects_dismissed, List.append_nil]
    exact ⟨rfl, rfl⟩
  · rw [effects_map]
    exact ⟨rfl, rfl⟩

/-- What an event can lead to: a letter is put into the queue, nothing changes but the number of
handles, or the connection takes a step. -/
inductive Reaction (setup : Setup H) (mailbox : Mailbox) :
    Event → Mailbox × List (Notice H) → Prop
  | asked (letter : Letter) : Reaction setup mailbox (.ask letter) (ask letter mailbox)
  | idle (event : Event) (next : Mailbox) (hevent : ∀ letter, event ≠ .ask letter)
      (hstimulus : mailbox.stimulus? event = none) (hstate : next.state = mailbox.state)
      (hqueue : next.queue = mailbox.queue) : Reaction setup mailbox event (next, [])
  | advanced (event : Event) (stimulus : Stimulus) (hevent : ∀ letter, event ≠ .ask letter)
      (hstimulus : mailbox.stimulus? event = some stimulus) :
      Reaction setup mailbox event (advance setup stimulus (mailbox.rest event) mailbox)

theorem react_reaction (setup : Setup H) (event : Event) (mailbox : Mailbox) :
    Reaction setup mailbox event (react setup event mailbox) := by
  cases event with
  | ask letter => exact .asked letter
  | clone | drop => exact .idle _ _ (by simp) rfl rfl rfl
  | occur => exact .advanced _ _ (by simp) rfl
  | take now accepting =>
      cases hstimulus : mailbox.stimulus? (.take now accepting) with
      | none =>
          have hreact : react setup (.take now accepting) mailbox = (mailbox, []) := by
            simp only [react, hstimulus]
          rw [hreact]
          exact .idle _ _ (by simp) hstimulus rfl rfl
      | some stimulus =>
          have hreact : react setup (.take now accepting) mailbox =
              advance setup stimulus (mailbox.rest (.take now accepting)) mailbox := by
            simp only [react, hstimulus]
          rw [hreact]
          exact .advanced _ _ (by simp) hstimulus

/-- At each event the connection behind a mailbox takes the step that the event stands for, or
none. -/
theorem react_life (setup : Setup H) (event : Event) (mailbox : Mailbox) :
    let life := Connection.run setup (mailbox.stimulus? event).toList mailbox.state
    (react setup event mailbox).1.state = life.1 ∧
      effects (react setup event mailbox).2 = life.2 := by
  have hreaction := react_reaction setup event mailbox
  dsimp only
  generalize react setup event mailbox = outcome at hreaction ⊢
  cases hreaction with
  | asked letter =>
      refine ⟨rfl, ?_⟩
      change effects ((mailbox.state.answer letter.request).toList.map (.returned letter)) = []
      cases mailbox.state.answer letter.request <;> rfl
  | idle _ next _ hstimulus hstate =>
      rw [hstimulus]
      exact ⟨hstate, rfl⟩
  | advanced _ stimulus _ hstimulus =>
      rw [hstimulus, Option.toList_some, run_singleton]
      exact advance_life setup stimulus _ mailbox

theorem run_life (setup : Setup H) (events : List Event) (mailbox : Mailbox) :
    let life := Connection.run setup (stimuli setup mailbox events) mailbox.state
    (run setup events mailbox).1.state = life.1 ∧
      effects (run setup events mailbox).2 = life.2 := by
  induction events generalizing mailbox with
  | nil => exact ⟨rfl, rfl⟩
  | cons event events ih =>
      have hfirst := react_life setup event mailbox
      have hrest := ih (react setup event mailbox).1
      dsimp only at hfirst hrest ⊢
      rw [stimuli, Connection.run, Transition.run_append]
      change _ ∧ effects ((react setup event mailbox).2 ++ _) = _
      rw [effects_append, hfirst.2]
      dsimp only [Transition.andThen]
      rw [hfirst.1] at hrest
      exact ⟨hrest.1, congrArg _ hrest.2⟩

/-- The mailbox of a connection after some events. -/
def mailboxAfter (setup : Setup H) (began : Nat) (events : List Event) : Mailbox :=
  (run setup events (opening setup began).1).1

/-- All that was noticed of it so far. -/
def noticesAfter (setup : Setup H) (began : Nat) (events : List Event) : List (Notice H) :=
  (opening setup began).2 ++ (run setup events (opening setup began).1).2

/-- What the connection took notice of. -/
def stimuliAfter (setup : Setup H) (began : Nat) (events : List Event) : List Stimulus :=
  stimuli setup (opening setup began).1 events

theorem mailboxAfter_state (setup : Setup H) (began : Nat) (events : List Event) :
    (mailboxAfter setup began events).state =
      stateAfter setup began (stimuliAfter setup began events) :=
  (run_life setup events (opening setup began).1).1

theorem effects_noticesAfter (setup : Setup H) (began : Nat) (events : List Event) :
    effects (noticesAfter setup began events) =
      effectsAfter setup began (stimuliAfter setup began events) := by
  rw [noticesAfter, effects_append, effectsAfter]
  have hstart : effects (opening setup began).2 = (start setup began).2 := effects_map _
  rw [hstart, (run_life setup events (opening setup began).1).2]
  rfl

theorem run_append (setup : Setup H) (earlier later : List Event) (mailbox : Mailbox) :
    run setup (earlier ++ later) mailbox =
      ((run setup earlier).andThen (run setup later)) mailbox := by
  rw [run, Transition.run_append]
  rfl

theorem mailboxAfter_append (setup : Setup H) (began : Nat) (earlier later : List Event) :
    mailboxAfter setup began (earlier ++ later) =
      (run setup later (mailboxAfter setup began earlier)).1 := by
  rw [mailboxAfter, run_append]
  rfl

theorem noticesAfter_append (setup : Setup H) (began : Nat) (earlier later : List Event) :
    noticesAfter setup began (earlier ++ later) =
      noticesAfter setup began earlier ++
        (run setup later (mailboxAfter setup began earlier)).2 := by
  rw [noticesAfter, run_append, noticesAfter, List.append_assoc]
  rfl

/-! ## The end of a connection -/

/-- The connection will stop when it turns to its queue: a request to close comes next, or
nothing can come any more. -/
def Closing (mailbox : Mailbox) : Prop :=
  mailbox.state.stopped = false ∧
    ((∃ call left, mailbox.queue = ⟨call, .close⟩ :: left) ∨
      mailbox.queue = [] ∧ mailbox.handles = 0)

theorem stimulus_of_closing {mailbox : Mailbox} (hclosing : mailbox.Closing) (now : Nat)
    (accepting : Bool) :
    ∃ stimulus, mailbox.stimulus? (.take now accepting) = some stimulus ∧
      (stimulus.input = .close ∨ stimulus.input = .abandon) := by
  rcases hclosing.2 with ⟨call, left, hqueue⟩ | ⟨hqueue, hhandles⟩
  · refine ⟨⟨now, accepting, .close⟩, ?_, .inl rfl⟩
    rw [stimulus?, hqueue]
    rfl
  · refine ⟨⟨now, accepting, .abandon⟩, ?_, .inr rfl⟩
    rw [stimulus?, hqueue]
    exact if_pos hhandles

/-- Only then does the connection take notice of a request to close, or of the loss of all
handles. -/
theorem closing_of_stimulus {mailbox : Mailbox} (hrunning : mailbox.state.stopped = false)
    {event : Event} {stimulus : Stimulus} (hstimulus : mailbox.stimulus? event = some stimulus)
    (hinput : stimulus.input = .close ∨ stimulus.input = .abandon) :
    (∃ now accepting, event = .take now accepting) ∧ mailbox.Closing := by
  cases event with
  | ask | clone | drop => simp [stimulus?] at hstimulus
  | occur now accepting occurrence =>
      obtain rfl := Option.some.inj hstimulus
      cases occurrence <;> simp [Occurrence.input] at hinput
  | take now accepting =>
      refine ⟨⟨now, accepting, rfl⟩, hrunning, ?_⟩
      rw [stimulus?] at hstimulus
      cases hqueue : mailbox.queue with
      | nil =>
          rw [hqueue] at hstimulus
          by_cases hhandles : mailbox.handles = 0
          · exact .inr ⟨rfl, hhandles⟩
          · simp [hhandles] at hstimulus
      | cons letter left =>
          rw [hqueue] at hstimulus
          obtain rfl := Option.some.inj hstimulus
          obtain ⟨call, request⟩ := letter
          cases request with
          | close => exact .inl ⟨call, left, rfl⟩
          | send | reconnect => simp [Request.input] at hinput

/-! ## Calls to close -/

/-- The calls to close that are made in a run. -/
def callsMade (events : List Event) : List Letter :=
  closes (events.filterMap fun
    | .ask letter => some letter
    | _ => none)

/-- The calls to close that return, with their answers. -/
def callsReturned (notices : List (Notice H)) : List (Letter × Except ClientError Unit) :=
  notices.filterMap fun
    | .returned letter answer => if letter.request = .close then some (letter, answer) else none
    | .effect _ => none

/-- Letters that are answered well. -/
def granted (letters : List Letter) : List (Letter × Except ClientError Unit) :=
  letters.map fun letter => (letter, .ok ())

theorem closes_append (earlier later : List Letter) :
    closes (earlier ++ later) = closes earlier ++ closes later :=
  List.filter_append ..

theorem callsMade_append (earlier later : List Event) :
    callsMade (earlier ++ later) = callsMade earlier ++ callsMade later := by
  rw [callsMade, List.filterMap_append, closes_append]
  rfl

theorem callsMade_singleton {event : Event} (hevent : ∀ letter, event ≠ .ask letter) :
    callsMade [event] = [] := by
  cases event with
  | ask letter => exact absurd rfl (hevent letter)
  | _ => rfl

theorem callsReturned_append (earlier later : List (Notice H)) :
    callsReturned (earlier ++ later) = callsReturned earlier ++ callsReturned later :=
  List.filterMap_append

theorem callsReturned_map_effect (list : List (Effect H)) :
    callsReturned (list.map Notice.effect) = [] := by
  simp [callsReturned]

theorem callsReturned_dismissed (letters : List Letter) :
    callsReturned (dismissed (H := H) letters) = granted (closes letters) := by
  induction letters with
  | nil => rfl
  | cons letter letters ih =>
      by_cases hclose : letter.request = .close
      · simpa [callsReturned, dismissed, granted, closes, hclose] using ih
      · simpa [callsReturned, dismissed, granted, closes, hclose] using ih

/-- Putting a letter into the queue, or answering it at once, accounts for it. -/
theorem ask_accounts (letter : Letter) {mailbox : Mailbox}
    (hqueue : mailbox.state.stopped = true → mailbox.queue = []) :
    callsReturned (ask (H := H) letter mailbox).2 ++
        granted (closes (ask (H := H) letter mailbox).1.queue) =
      granted (closes mailbox.queue) ++ granted (callsMade [.ask letter]) := by
  obtain ⟨call, request⟩ := letter
  cases hstop : mailbox.state.stopped with
  | true =>
      rw [ask, hqueue hstop]
      cases request <;>
        simp [hstop, callsReturned, granted, closes, callsMade, State.answer, State.closeAnswer]
  | false =>
      cases request <;>
        simp [ask, hstop, callsReturned, granted, closes, callsMade, State.answer,
          State.closeAnswer]

/-- A connection that goes on has not taken a request to close. -/
theorem closes_rest {setup : Setup H} {mailbox : Mailbox} {event : Event} {stimulus : Stimulus}
    (hstimulus : mailbox.stimulus? event = some stimulus)
    (hgoes : (step setup stimulus mailbox.state).1.stopped = false) :
    closes (mailbox.rest event) = closes mailbox.queue := by
  cases event with
  | take now accepting =>
      cases hqueue : mailbox.queue with
      | nil => simp [rest, hqueue]
      | cons letter left =>
          have hinput : stimulus.input = letter.request.input := by
            rw [stimulus?, hqueue] at hstimulus
            exact (congrArg Stimulus.input (Option.some.inj hstimulus)).symm
          have hrunning := running_of_step hgoes
          have hother : letter.request ≠ .close := by
            intro hclose
            have hclosed : stimulus.input = .close := by rw [hinput, hclose, Request.input]
            rw [step_shut setup hrunning (.inl hclosed)] at hgoes
            simp [State.shut] at hgoes
          simp [rest, hqueue, closes, hother]
  | _ => rfl

theorem Reaction.accounts {setup : Setup H} {mailbox : Mailbox} {event : Event}
    {outcome : Mailbox × List (Notice H)} (hreaction : Reaction setup mailbox event outcome)
    (hqueue : mailbox.state.stopped = true → mailbox.queue = []) :
    callsReturned outcome.2 ++ granted (closes outcome.1.queue) =
      granted (closes mailbox.queue) ++ granted (callsMade [event]) := by
  cases hreaction with
  | asked letter => exact ask_accounts letter hqueue
  | idle _ next hevent _ _ hsame =>
      rw [callsMade_singleton hevent, hsame]
      exact (List.append_nil _).symm
  | advanced _ stimulus hevent hstimulus =>
      rw [callsMade_singleton hevent]
      unfold advance
      dsimp only
      split
      · rw [callsReturned_append, callsReturned_map_effect, callsReturned_dismissed]
        rfl
      · next hgoes =>
          rw [callsReturned_map_effect, closes_rest hstimulus (by simpa using hgoes)]
          exact (List.append_nil _).symm

/-- The queue of a connection that has stopped is empty. -/
theorem Reaction.queue_eq_nil {setup : Setup H} {mailbox : Mailbox} {event : Event}
    {outcome : Mailbox × List (Notice H)} (hreaction : Reaction setup mailbox event outcome)
    (hqueue : mailbox.state.stopped = true → mailbox.queue = [])
    (hstop : outcome.1.state.stopped = true) : outcome.1.queue = [] := by
  cases hreaction with
  | asked letter =>
      have hstopped : mailbox.state.stopped = true := hstop
      rw [ask, hqueue hstopped]
      exact if_pos hstopped
  | idle _ next _ _ hstate hsame =>
      rw [hsame]
      exact hqueue (by rwa [← hstate])
  | advanced =>
      unfold advance at hstop ⊢
      dsimp only at hstop ⊢
      split
      · rfl
      · next hgoes => simp [hgoes] at hstop

theorem mailboxAfter_concat (setup : Setup H) (began : Nat) (events : List Event)
    (event : Event) :
    mailboxAfter setup began (events ++ [event]) =
      (react setup event (mailboxAfter setup began events)).1 := by
  rw [mailboxAfter_append]
  rfl

theorem noticesAfter_concat (setup : Setup H) (began : Nat) (events : List Event)
    (event : Event) :
    noticesAfter setup began (events ++ [event]) =
      noticesAfter setup began events ++
        (react setup event (mailboxAfter setup began events)).2 := by
  rw [noticesAfter_append]
  exact congrArg _ (List.append_nil _)

/-- Every call to close has returned, well, or is still in the queue, and none is left there when
the connection has stopped. -/
theorem calls_accounted (setup : Setup H) (began : Nat) (events : List Event) :
    ((mailboxAfter setup began events).state.stopped = true →
      (mailboxAfter setup began events).queue = []) ∧
      callsReturned (noticesAfter setup began events) ++
          granted (closes (mailboxAfter setup began events).queue) =
        granted (callsMade events) := by
  induction events using List.reverseRecOn with
  | nil =>
      have hnone : callsReturned (noticesAfter setup began []) = [] :=
        callsReturned_append _ [] ▸ by simp [opening, callsReturned]
      rw [hnone]
      exact ⟨fun _ => rfl, rfl⟩
  | append_singleton events event ih =>
      obtain ⟨hqueue, hcalls⟩ := ih
      have hreaction := react_reaction setup event (mailboxAfter setup began events)
      rw [mailboxAfter_concat, noticesAfter_concat, callsReturned_append, callsMade_append]
      refine ⟨hreaction.queue_eq_nil hqueue, ?_⟩
      calc
        _ = callsReturned (noticesAfter setup began events) ++
              (granted (closes (mailboxAfter setup began events).queue) ++
                granted (callsMade [event])) := by
          rw [List.append_assoc, hreaction.accounts hqueue]
        _ = granted (callsMade events) ++ granted (callsMade [event]) := by
          rw [← List.append_assoc, hcalls]
        _ = granted (callsMade events ++ callsMade [event]) := (List.map_append ..).symm

/-! ## Closing is final -/

theorem react_closing (setup : Setup H) (now : Nat) (accepting : Bool) {mailbox : Mailbox}
    (hclosing : mailbox.Closing) :
    (react setup (.take now accepting) mailbox).1.state = mailbox.state.shut ∧
      effects (react setup (.take now accepting) mailbox).2 =
        (mailbox.state.transport.map Effect.hangUp).toList ++
          (setLink .closed mailbox.state).2 := by
  obtain ⟨stimulus, hstimulus, hinput⟩ := stimulus_of_closing hclosing now accepting
  have hlife := react_life setup (.take now accepting) mailbox
  rwa [hstimulus, Option.toList_some, run_singleton, step_shut setup hclosing.1 hinput] at hlife

/-- A connection publishes that it is closed only where it is closing. -/
theorem closing_of_closed (setup : Setup H) (began : Nat) (events : List Event)
    (hclosed : .closed ∈ published (effects (noticesAfter setup began events))) :
    ∃ earlier now accepting later, events = earlier ++ .take now accepting :: later ∧
      (mailboxAfter setup began earlier).Closing := by
  induction events using List.reverseRecOn with
  | nil =>
      have hfirst : published (effects (noticesAfter setup began [])) =
          published (start setup began).2 := by
        rw [effects_noticesAfter, effectsAfter_eq]
        exact congrArg published (List.append_nil _)
      rw [hfirst, start_eq] at hclosed
      dsimp only at hclosed
      split at hclosed <;> simp [published, Effect.published?] at hclosed
  | append_singleton events event ih =>
      rw [noticesAfter_concat, effects_append, published_append, List.mem_append] at hclosed
      rcases hclosed with hbefore | hnow
      · obtain ⟨earlier, now, accepting, later, rfl, hclosing⟩ := ih hbefore
        exact ⟨earlier, now, accepting, later ++ [event], by simp, hclosing⟩
      · rw [(react_life setup event _).2] at hnow
        cases hstimulus : (mailboxAfter setup began events).stimulus? event with
        | none =>
            rw [hstimulus] at hnow
            exact absurd hnow (List.not_mem_nil)
        | some stimulus =>
            rw [hstimulus, Option.toList_some, run_singleton] at hnow
            cases hstop : (mailboxAfter setup began events).state.stopped with
            | true =>
                rw [step_stopped setup stimulus hstop] at hnow
                exact absurd hnow (List.not_mem_nil)
            | false =>
                have hinput := (step_move setup stimulus hstop).input_of_closed hnow
                obtain ⟨⟨now, accepting, rfl⟩, hclosing⟩ :=
                  closing_of_stimulus hstop hstimulus hinput
                exact ⟨events, now, accepting, [], rfl, hclosing⟩

/-- Closing is final.  When the connection takes a request to close, or finds itself abandoned,
it tells the transport that it holds to close, and it shows itself closed ever after; nothing
that is still queued or comes later has any effect.  Every call to close that was made up to then
or is made later returns, without an error.  And it shows itself closed in no other way. -/
theorem close_is_final (setup : Setup H) (began : Nat) (events : List Event) :
    let last := mailboxAfter setup began events
    let notices := noticesAfter setup began events
    (∀ earlier now accepting later, events = earlier ++ .take now accepting :: later →
      (mailboxAfter setup began earlier).Closing →
        let found := mailboxAfter setup began earlier
        let taken := react setup (.take now accepting) found
        (∀ generation, found.state.transport = some generation →
          .hangUp generation ∈ effects taken.2) ∧
          last.state = found.state.shut ∧
          shown (effects notices) = .closed ∧
          effects (run setup later taken.1).2 = []) ∧
      (last.state.stopped = true → callsReturned notices = granted (callsMade events)) ∧
      (.closed ∈ published (effects notices) →
        ∃ earlier now accepting later, events = earlier ++ .take now accepting :: later ∧
          (mailboxAfter setup began earlier).Closing) := by
  intro last notices
  refine ⟨?_, ?_, closing_of_closed setup began events⟩
  · intro earlier now accepting later hevents hclosing found taken
    obtain ⟨hstate, heffects⟩ := react_closing setup now accepting hclosing
    have hstopped : taken.1.state.stopped = true := by
      rw [show taken.1.state = _ from hstate]
      rfl
    have hlater := run_life setup later taken.1
    rw [run_stopped setup _ hstopped] at hlater
    have hlast : last.state = found.state.shut := by
      have hsplit := mailboxAfter_append setup began earlier (.take now accepting :: later)
      rw [← hevents] at hsplit
      rw [show last = _ from hsplit]
      exact hlater.1.trans hstate
    refine ⟨?_, hlast, ?_, hlater.2⟩
    · intro generation htransport
      rw [show effects taken.2 = _ from heffects, htransport]
      exact List.mem_append_left _ (List.mem_singleton.mpr rfl)
    · rw [show effects notices = _ from effects_noticesAfter setup began events, shown_eq_link,
        ← mailboxAfter_state, show (mailboxAfter setup began events).state = _ from hlast]
      rfl
  · intro hstop
    obtain ⟨hqueue, hcalls⟩ := calls_accounted setup began events
    rw [show (mailboxAfter setup began events).queue = [] from hqueue hstop] at hcalls
    exact (List.append_nil _).symm.trans hcalls

/-- Three requests are queued behind each other when the first of them closes the connection; a
fourth comes too late, and so does a report. -/
def overtaken : List Event :=
  [.occur 10 true (.report ⟨1, .opened⟩), .ask ⟨1, .close⟩, .ask ⟨2, .reconnect⟩,
    .ask ⟨3, .close⟩, .take 20 true, .take 30 true, .ask ⟨4, .close⟩,
    .occur 40 true (.report ⟨1, .message pongText⟩)]

theorem queued_behind_close :
    let setup := Setup.bare ⟨25000, 5000, 2000⟩
    let notices := noticesAfter setup 0 overtaken
    shown (effects notices) = .closed ∧
      callsReturned notices = granted [⟨1, .close⟩, ⟨3, .close⟩, ⟨4, .close⟩] ∧
      (mailboxAfter setup 0 overtaken).state.generation = 1 := by
  intro setup notices
  obtain ⟨hclosing, hcalls, -⟩ := close_is_final setup 0 overtaken
  have hclose : (mailboxAfter setup 0 (overtaken.take 4)).Closing :=
    ⟨by decide, .inl ⟨1, [⟨2, .reconnect⟩, ⟨3, .close⟩], by decide⟩⟩
  obtain ⟨-, hstate, hshown, -⟩ := hclosing (overtaken.take 4) 20 true (overtaken.drop 5) rfl hclose
  have hstop : (mailboxAfter setup 0 overtaken).state.stopped = true := by
    rw [hstate]
    rfl
  refine ⟨hshown, hcalls hstop, ?_⟩
  rw [hstate]
  decide

end Mailbox

end Lifeline.Connection
