import Lifeline.Proofs.Connection.Alerts

/-!
# Traffic and liveness

Texts other than pongs that come in, and payloads that are sent, are the traffic
of a connection; all other stimuli are essential.  Traffic leaves the state
alone, and of all that a connection does it touches neither the link, nor the
transports, nor the pings, nor the messages about connectivity.  An essential
stimulus in turn does the same whatever the handlers are.  So two lives that
differ only in their traffic go through the same essential moments.
-/

namespace Lifeline.Connection

open StatusCall (IsConnectivity)

variable {H : Type}

/-! ## Traffic -/

/-- Texts that come in for the handlers, and payloads that go out. -/
def Input.isTraffic : Input → Bool
  | .report ⟨_, .message text⟩ => text ≠ pongText
  | .send _ => true
  | _ => false

/-- The stimuli that are not traffic. -/
def essential (stimuli : List Stimulus) : List Stimulus :=
  stimuli.filter fun stimulus => !stimulus.input.isTraffic

/-- The message that a call to the status board names. -/
def namedMessage? : StatusCall → Option String
  | .set message _ _ => some message
  | .clearIfEqual message => some message
  | .clear => none

/-- What belongs to the liveness of a connection: all that it does, apart from the frames that
were not asked for by a tick, the reports about texts, and the work of handlers. -/
def Effect.isVital (input : Input) : Effect H → Bool
  | .frame _ _ => input = .tick
  | .status call => (namedMessage? call).any (decide <| IsConnectivity ·)
  | .handle _ _ => false
  | _ => true

theorem isVital_deliver {setup : Setup H} {now : Nat} {text : String} {effect : Effect H}
    (heffect : effect ∈ deliver setup now text) (input : Input) : effect.isVital input = false := by
  rcases mem_deliver heffect with ⟨rest, rfl⟩ | ⟨handler, envelope, rfl⟩
  · simp [Effect.isVital, namedMessage?, not_isConnectivity_socket rest]
  · rfl

/-! ## Traffic changes nothing, essential stimuli ignore the handlers -/

/-- Traffic leaves the state as it is and does nothing vital. -/
theorem Move.traffic {setup : Setup H} {now : Nat} {accepting : Bool} {state : State}
    {input : Input} {outcome : State × List (Effect H)}
    (hmove : Move setup now accepting state input outcome) (htraffic : input.isTraffic = true) :
    outcome.1 = state ∧ ∀ effect ∈ outcome.2, effect.isVital input = false := by
  cases hmove with
  | foreign | dropped => exact ⟨rfl, by simp⟩
  | delivered text => exact ⟨rfl, fun effect hmem => isVital_deliver hmem _⟩
  | sent payload => exact ⟨rfl, by simp [Effect.isVital]⟩
  | shut _ hinput => rcases hinput with rfl | rfl <;> simp [Input.isTraffic] at htraffic
  | _ => simp [Input.isTraffic] at htraffic

theorem step_traffic (setup : Setup H) {stimulus : Stimulus} (state : State)
    (htraffic : stimulus.input.isTraffic = true) :
    (step setup stimulus state).1 = state ∧
      ∀ effect ∈ (step setup stimulus state).2, effect.isVital stimulus.input = false := by
  cases hstop : state.stopped with
  | true => simp [step_stopped setup stimulus hstop]
  | false => exact (step_move setup stimulus hstop).traffic htraffic

section Setups

variable {setup other : Setup H} (hliveness : setup.liveness = other.liveness)

include hliveness

theorem connect_of_liveness (now : Nat) : connect setup now = connect other now := by
  simp only [connect, hliveness]

theorem pongTimeout_of_liveness (now generation number : Nat) :
    pongTimeout setup now generation number = pongTimeout other now generation number := by
  funext state
  simp only [pongTimeout, connect_of_liveness hliveness]

theorem start_of_liveness (began : Nat) : start setup began = start other began := by
  simp only [start, hliveness, connect_of_liveness hliveness]

/-- What is not traffic takes no notice of the handlers. -/
theorem step_essential {stimulus : Stimulus} (hessential : stimulus.input.isTraffic = false)
    (state : State) : step setup stimulus state = step other stimulus state := by
  unfold step
  split
  · rfl
  · cases hinput : stimulus.input with
    | tick => simp only [ping, hliveness, pongTimeout_of_liveness hliveness]
    | report report =>
        rcases report with ⟨generation, event⟩
        cases event with
        | message text =>
            have htext : text = pongText := by
              simpa [hinput, Input.isTraffic] using hessential
            simp only [onReport, onMessage, htext, if_true]
        | _ => rfl
    | fire timer =>
        simp only [onTimer, verify, hliveness, connect_of_liveness hliveness,
          pongTimeout_of_liveness hliveness]
    | reconnect => simp only [connect_of_liveness hliveness]
    | _ => rfl

end Setups

/-! ## Lives without their traffic -/

def Moment.isEssential (moment : Moment H) : Bool := !moment.stimulus.input.isTraffic

/-- What a moment does that is vital. -/
def Moment.vitals (moment : Moment H) : List (Effect H) :=
  moment.outcome.2.filter (Effect.isVital moment.stimulus.input)

/-- All that a connection does that is vital, its first attempt included. -/
def vitalsAfter (setup : Setup H) (began : Nat) (stimuli : List Stimulus) : List (Effect H) :=
  (start setup began).2 ++ (moments setup began stimuli).flatMap Moment.vitals

theorem vitals_eq_nil {moment : Moment H}
    (hunvital : ∀ effect ∈ moment.outcome.2,
      effect.isVital moment.stimulus.input = false) : moment.vitals = [] := by
  rw [Moment.vitals, List.filter_eq_nil_iff]
  intro effect hmem
  simp [hunvital effect hmem]

theorem essential_cons (stimulus : Stimulus) (stimuli : List Stimulus) :
    essential (stimulus :: stimuli) =
      if stimulus.input.isTraffic = true then essential stimuli
      else stimulus :: essential stimuli := by
  rw [essential, List.filter_cons]
  cases stimulus.input.isTraffic <;> rfl

section Purge

variable (setup : Setup H) (stimuli : List Stimulus) (state : State)

/-- A life and the life without its traffic are in the same state at the end. -/
theorem run_essential :
    (run setup (essential stimuli) state).1 = (run setup stimuli state).1 := by
  induction stimuli generalizing state with
  | nil => rfl
  | cons stimulus stimuli ih =>
      change _ = (run setup stimuli (step setup stimulus state).1).1
      rw [essential_cons]
      split
      · next htraffic => rw [(step_traffic setup state htraffic).1, ih]
      · exact ih (step setup stimulus state).1

/-- The essential moments of a life are the moments of the life without its traffic. -/
theorem momentsFrom_essential :
    momentsFrom setup state (essential stimuli) =
      (momentsFrom setup state stimuli).filter Moment.isEssential := by
  induction stimuli generalizing state with
  | nil => rfl
  | cons stimulus stimuli ih =>
      rw [essential_cons, momentsFrom, List.filter_cons]
      split
      · next htraffic =>
          rw [if_neg (by simp [Moment.isEssential, htraffic]),
            (step_traffic setup state htraffic).1, ih]
      · next hessential =>
          rw [if_pos (by simp [Moment.isEssential, hessential]), momentsFrom, ih]

/-- Whatever a life does that is vital, it does without its traffic. -/
theorem vitals_essential :
    (momentsFrom setup state (essential stimuli)).flatMap Moment.vitals =
      (momentsFrom setup state stimuli).flatMap Moment.vitals := by
  induction stimuli generalizing state with
  | nil => rfl
  | cons stimulus stimuli ih =>
      rw [essential_cons, momentsFrom, List.flatMap_cons]
      split
      · next htraffic =>
          obtain ⟨hstate, hunvital⟩ := step_traffic setup state htraffic
          rw [vitals_eq_nil hunvital, List.nil_append, hstate, ih]
      · rw [momentsFrom, List.flatMap_cons, ih]

end Purge

/-- Lives without traffic ignore the handlers. -/
theorem momentsFrom_of_liveness {setup other : Setup H}
    (hliveness : setup.liveness = other.liveness) (stimuli : List Stimulus) (state : State) :
    momentsFrom setup state (essential stimuli) = momentsFrom other state (essential stimuli) ∧
      (run setup (essential stimuli) state).1 = (run other (essential stimuli) state).1 := by
  induction stimuli generalizing state with
  | nil => exact ⟨rfl, rfl⟩
  | cons stimulus stimuli ih =>
      rw [essential_cons]
      split
      · exact ih state
      · next hessential =>
          have hstep := step_essential hliveness (by simpa using hessential) state
          obtain ⟨hmoments, hrun⟩ := ih (step other stimulus state).1
          constructor
          · rw [momentsFrom, momentsFrom, hstep, hmoments]
          · change (run setup _ (step setup stimulus state).1).1 =
              (run other _ (step other stimulus state).1).1
            rw [hstep, hrun]

/-- A moment of traffic leaves the state alone and does nothing vital. -/
theorem moment_traffic (setup : Setup H) (began : Nat) (stimuli : List Stimulus) :
    ∀ moment ∈ moments setup began stimuli, moment.isEssential = false →
      moment.outcome.1 = moment.before ∧ moment.vitals = [] := by
  refine forall_moments ?_ ?_ stimuli
  · intro state now accepting input outcome _ hmove hinessential
    obtain ⟨hstate, hunvital⟩ := hmove.traffic (by simpa [Moment.isEssential] using hinessential)
    exact ⟨hstate, vitals_eq_nil hunvital⟩
  · exact fun state stimulus _ => ⟨rfl, rfl⟩

/-- Traffic cannot disturb the liveness of a connection.  Take two lives that differ in their
traffic and in what their handlers do, up to points at which both have taken the same essential
stimuli.  Then they are in the same state and have done the same vital things; the essential
moments, in each of which the same is found and the same is done, are the same; and all other
moments leave the state alone and do nothing vital. -/
theorem traffic_cannot_disturb (setup other : Setup H)
    (hliveness : setup.liveness = other.liveness) (began : Nat) (left right : List Stimulus)
    (hsame : essential left = essential right) :
    stateAfter setup began left = stateAfter other began right ∧
      vitalsAfter setup began left = vitalsAfter other began right ∧
      (moments setup began left).filter Moment.isEssential =
        (moments other began right).filter Moment.isEssential ∧
      (∀ moment ∈ moments setup began left, moment.isEssential = false →
        moment.outcome.1 = moment.before ∧ moment.vitals = []) := by
  have hstart := start_of_liveness hliveness began
  obtain ⟨hmoments, hrun⟩ := momentsFrom_of_liveness hliveness left (start setup began).1
  rw [hsame, hstart] at hmoments hrun
  refine ⟨?_, ?_, ?_, moment_traffic setup began left⟩
  · rw [stateAfter, ← run_essential, hsame, hstart, hrun, run_essential]
    rfl
  · rw [vitalsAfter, moments, ← vitals_essential, hsame, hstart, hmoments, vitals_essential]
    rfl
  · rw [moments, ← momentsFrom_essential, hsame, hstart, hmoments, momentsFrom_essential]
    rfl

/-- Between the opening and an unanswered ping one life takes in texts and sends, one of them a
text that reads like a ping; the other does not. -/
theorem busy_life_like_quiet_life :
    let setup := Setup.bare ⟨25000, 5000, 2000⟩
    let opening : Stimulus := ⟨10, true, .report ⟨1, .opened⟩⟩
    let ticking : Stimulus := ⟨25000, true, .tick⟩
    let silence : Stimulus := ⟨27000, true, .fire ⟨.pong 1 1, 27000⟩⟩
    let busy : List Stimulus :=
      [⟨5, true, .send (.text "early")⟩, opening, ⟨20, true, .report ⟨1, .message "hello"⟩⟩,
        ticking, ⟨26000, true, .send (.text pingText)⟩,
        ⟨26500, true, .report ⟨1, .message "\x7b\"action\":\"Note\"\x7d"⟩⟩, silence]
    let quiet : List Stimulus := [opening, ticking, silence]
    essential busy = essential quiet ∧
      stateAfter setup 0 busy = stateAfter setup 0 quiet ∧
      vitalsAfter setup 0 busy = vitalsAfter setup 0 quiet ∧
      (stateAfter setup 0 busy).generation = 2 := by
  intro setup opening ticking silence busy quiet
  have hsame : essential busy = essential quiet := by decide
  obtain ⟨hstate, hvitals, -, -⟩ := traffic_cannot_disturb setup setup rfl 0 busy quiet hsame
  have hgeneration : (stateAfter setup 0 quiet).generation = 2 := by decide
  exact ⟨hsame, hstate, hvitals, (congrArg State.generation hstate).trans hgeneration⟩

end Lifeline.Connection
