import Lifeline.Proofs.Connection.Alerts
import Lifeline.Proofs.Envelope.Decoders
import Lifeline.Proofs.Handler.Registrations

/-!
# Outcomes of inbound texts

Every text of the current attempt that is not a pong has one outcome: it is
rejected, or nobody claims its action, or the handler that was registered last
for the action runs and succeeds or fails (`deliver_eq_iff`).  Nothing else that
happens to a connection runs a handler or sets a message of that kind, so over a
life the outcomes stand one after the other, one for each such text
(`filter_isOutcome_effectsAfter`).
-/

namespace Lifeline.Connection

open StatusCall (IsConnectivity)

variable {H : Type}

/-! ## One text -/

/-- A message that is set as a danger, without rich text. -/
def danger (message : String) : Effect H := .status (.set message .danger false)

/-- What a text may come to at a time, where handlers were registered one after the other. -/
inductive Outcome (registrations : List (String × H)) (respond : Conduct H) (now : Nat)
    (text : String) : List (Effect H) → Prop
  | rejected (error : EnvelopeError) (hreading : Envelope.ofJson text = .error error) :
      Outcome registrations respond now text
        [danger ("Socket message rejected: " ++ error.message)]
  | unclaimed (envelope : Envelope) (hreading : Envelope.ofJson text = .ok envelope)
      (hnone : ∀ entry ∈ registrations, entry.1 ≠ envelope.action) :
      Outcome registrations respond now text
        [danger ("Socket action " ++ envelope.action ++ " failed: " ++
          ("No handler registered for action " ++ Text.quoted envelope.action))]
  | succeeded (envelope : Envelope) (handler : H) (hreading : Envelope.ofJson text = .ok envelope)
      (hlast : Registry.IsLast registrations envelope.action handler)
      (hanswer : respond.answer now handler envelope = .ok ()) :
      Outcome registrations respond now text [.handle handler envelope]
  | failed (envelope : Envelope) (handler : H) (error : HandlerError)
      (hreading : Envelope.ofJson text = .ok envelope)
      (hlast : Registry.IsLast registrations envelope.action handler)
      (hanswer : respond.answer now handler envelope = .error error) :
      Outcome registrations respond now text
        [.handle handler envelope,
          danger ("Socket action " ++ envelope.action ++ " failed: " ++ error.message)]

theorem status_logError_message (error : EnvelopeError) :
    Effect.status (H := H) (.logError "Socket message rejected" error.message .danger) =
      danger ("Socket message rejected: " ++ error.message) := by
  have hjoined : "Socket message rejected" ++ ": " = "Socket message rejected: " := rfl
  rw [StatusCall.logError, danger, hjoined]

theorem status_logError_action (action message : String) :
    Effect.status (H := H) (.logError ("Socket action " ++ action ++ " failed") message .danger) =
      danger ("Socket action " ++ action ++ " failed: " ++ message) := by
  have hjoined : " failed" ++ ": " = " failed: " := rfl
  rw [StatusCall.logError, danger, ← hjoined]
  simp only [String.append_assoc]

/-- What is reported about the answer of a handler. -/
def reportOf (action : String) : Except HandlerError Unit → List (Effect H)
  | .ok _ => []
  | .error error => [danger ("Socket action " ++ action ++ " failed: " ++ error.message)]

section Delivery

variable {setup : Setup H} {registrations : List (String × H)} {now : Nat} {text : String}
  {envelope : Envelope}

theorem deliver_rejected {error : EnvelopeError} (hreading : Envelope.ofJson text = .error error) :
    deliver setup now text = [danger ("Socket message rejected: " ++ error.message)] := by
  rw [deliver, hreading]
  dsimp only
  rw [status_logError_message]

theorem deliver_unclaimed (hreading : Envelope.ofJson text = .ok envelope)
    (hnone : setup.registry.get? envelope.action = none) :
    deliver setup now text =
      reportOf envelope.action (.error (.unknownAction envelope.action)) := by
  rw [deliver, hreading]
  dsimp only
  rw [Registry.dispatch, hnone]
  dsimp only
  rw [status_logError_action]
  rfl

theorem deliver_claimed {handler : H} (hreading : Envelope.ofJson text = .ok envelope)
    (hfound : setup.registry.get? envelope.action = some handler) :
    deliver setup now text =
      .handle handler envelope ::
        reportOf envelope.action (setup.respond.answer now handler envelope) := by
  rw [deliver, hreading]
  dsimp only
  rw [Registry.dispatch, hfound]
  dsimp only
  cases setup.respond.answer now handler envelope with
  | ok _ => rfl
  | error error =>
      dsimp only
      rw [status_logError_action]
      rfl

variable (hregistry : setup.registry = .ofList registrations)

include hregistry

/-- A delivery is an outcome of its text. -/
theorem outcome_deliver (now : Nat) (text : String) :
    Outcome registrations setup.respond now text (deliver setup now text) := by
  cases hreading : Envelope.ofJson text with
  | error error =>
      rw [deliver_rejected hreading]
      exact .rejected error hreading
  | ok envelope =>
      cases hfound : setup.registry.get? envelope.action with
      | none =>
          rw [deliver_unclaimed hreading hfound]
          rw [hregistry] at hfound
          exact .unclaimed envelope hreading (Registry.get?_ofList_eq_none_iff.1 hfound)
      | some handler =>
          rw [deliver_claimed hreading hfound]
          rw [hregistry] at hfound
          have hlast := Registry.get?_ofList_eq_some_iff.1 hfound
          cases hanswer : setup.respond.answer now handler envelope with
          | ok _ => exact .succeeded envelope handler hreading hlast hanswer
          | error error => exact .failed envelope handler error hreading hlast hanswer

/-- A text has no other outcome than its delivery. -/
theorem Outcome.eq_deliver {effects : List (Effect H)}
    (houtcome : Outcome registrations setup.respond now text effects) :
    deliver setup now text = effects := by
  have hfound : ∀ action handler, Registry.IsLast registrations action handler →
      setup.registry.get? action = some handler := fun action handler hlast =>
    hregistry ▸ Registry.get?_ofList_eq_some_iff.2 hlast
  cases houtcome with
  | rejected error hreading => exact deliver_rejected hreading
  | unclaimed envelope hreading hnone =>
      exact deliver_unclaimed hreading (hregistry ▸ Registry.get?_ofList_eq_none_iff.2 hnone)
  | succeeded envelope handler hreading hlast hanswer =>
      rw [deliver_claimed hreading (hfound _ _ hlast), hanswer]
      rfl
  | failed envelope handler error hreading hlast hanswer =>
      rw [deliver_claimed hreading (hfound _ _ hlast), hanswer]
      rfl

theorem deliver_eq_iff {effects : List (Effect H)} :
    deliver setup now text = effects ↔
      Outcome registrations setup.respond now text effects := by
  constructor
  · rintro rfl
    exact outcome_deliver hregistry now text
  · exact Outcome.eq_deliver hregistry

end Delivery

/-! ## A whole life -/

/-- The work of handlers, and what is set on the board apart from messages about connectivity. -/
def Effect.isOutcome : Effect H → Bool
  | .handle _ _ => true
  | .status (.set message _ _) => ¬ IsConnectivity message
  | _ => false

/-- The text that an input brings to the handlers, if it is one of the current attempt. -/
def State.heard? (state : State) : Input → Option String
  | .report ⟨generation, .message text⟩ =>
      if generation = state.generation ∧ text ≠ pongText then some text else none
  | _ => none

def Moment.heard? (moment : Moment H) : Option (Nat × String) :=
  if moment.before.stopped then none
  else (moment.before.heard? moment.stimulus.input).map (moment.stimulus.now, ·)

/-- The texts of a life that came for the handlers while the connection was running, each with
its time. -/
def heard (setup : Setup H) (began : Nat) (stimuli : List Stimulus) : List (Nat × String) :=
  (moments setup began stimuli).filterMap Moment.heard?

theorem filter_isOutcome_deliver (setup : Setup H) (now : Nat) (text : String) :
    (deliver setup now text).filter Effect.isOutcome = deliver setup now text := by
  refine List.filter_eq_self.2 fun effect heffect => ?_
  rcases mem_deliver heffect with ⟨rest, rfl⟩ | ⟨handler, envelope, rfl⟩
  · exact decide_eq_true (not_isConnectivity_socket rest)
  · rfl

theorem filter_isOutcome_setLink (link : Link) (state : State) :
    (setLink (H := H) link state).2.filter Effect.isOutcome = [] := by
  rw [← List.filterMap_eq_filter]
  exact filterMap_setLink (fun _ => rfl) link state

theorem filter_isOutcome_connect (setup : Setup H) (now : Nat) (state : State) :
    (connect setup now state).2.filter Effect.isOutcome = [] := by
  rw [← List.filterMap_eq_filter, filterMap_connect (fun _ => rfl) (fun _ => rfl)]
  rfl

theorem filter_isOutcome_giveUp (setup : Setup H) (now : Nat) (state : State) :
    (giveUp setup now state).2.filter Effect.isOutcome = [] := by
  rw [← List.filterMap_eq_filter, filterMap_giveUp (fun _ => rfl) (fun _ => rfl)]
  rfl

/-- Only a text that comes for the handlers has outcomes, those of its delivery. -/
theorem Move.filter_isOutcome {setup : Setup H} {now : Nat} {accepting : Bool} {state : State}
    {input : Input} {outcome : State × List (Effect H)}
    (hmove : Move setup now accepting state input outcome) :
    outcome.2.filter Effect.isOutcome =
      (state.heard? input).toList.flatMap (deliver setup now) := by
  cases hmove with
  | foreign report hother =>
      rcases report with ⟨generation, event⟩
      cases event with
      | message text => rw [State.heard?, if_neg (not_and.2 fun hsame => absurd hsame hother)]; rfl
      | opened => rfl
      | closed reason => rfl
  | opened => exact filter_isOutcome_setLink .opened state
  | answered => rw [State.heard?, if_neg (not_and.2 fun _ hother => hother rfl)]; rfl
  | delivered text htext =>
      rw [State.heard?, if_pos ⟨rfl, htext⟩, filter_isOutcome_deliver]
      simp
  | ended reason =>
      rw [List.filter_append, filter_isOutcome_setLink]
      cases state.transport <;> rfl
  | retried | reconnected => exact filter_isOutcome_connect setup now _
  | timedOut | unpinged => exact filter_isOutcome_giveUp setup now _
  | shut input hinput =>
      rw [List.filter_append, filter_isOutcome_setLink]
      rcases hinput with rfl | rfl <;> cases state.transport <;> rfl
  | _ => rfl

theorem filter_isOutcome_moments (setup : Setup H) (began : Nat) (stimuli : List Stimulus) :
    ((moments setup began stimuli).flatMap (·.outcome.2)).filter Effect.isOutcome =
      (heard setup began stimuli).flatMap fun came => deliver setup came.1 came.2 := by
  unfold heard
  refine life_induction (motive := fun past _ =>
    (past.flatMap (·.outcome.2)).filter Effect.isOutcome =
      (past.filterMap Moment.heard?).flatMap fun came => deliver setup came.1 came.2)
    ?_ ?_ ?_ stimuli
  · rfl
  · intro past state now accepting input outcome hrunning _ hpast hmove
    have hheard : Moment.heard? ⟨state, ⟨now, accepting, input⟩, outcome⟩ =
        (state.heard? input).map (now, ·) := if_neg (by simp [hrunning])
    rw [List.flatMap_append, List.filter_append, hpast, List.filterMap_append, List.flatMap_append,
      List.flatMap_singleton, hmove.filter_isOutcome, List.filterMap_cons, hheard]
    cases state.heard? input <;> rfl
  · intro past state stimulus hstopped hpast
    have hheard : Moment.heard? (H := H) ⟨state, stimulus, (state, [])⟩ = none := if_pos hstopped
    rw [List.flatMap_append, List.filter_append, hpast, List.filterMap_append, List.flatMap_append,
      List.filterMap_cons, hheard]
    rfl

/-- The outcomes of a life are the deliveries of the texts that came for the handlers. -/
theorem filter_isOutcome_effectsAfter (setup : Setup H) (began : Nat) (stimuli : List Stimulus) :
    (effectsAfter setup began stimuli).filter Effect.isOutcome =
      (heard setup began stimuli).flatMap fun came => deliver setup came.1 came.2 := by
  have hstart : (start setup began).2.filter Effect.isOutcome = [] := by
    rw [start_eq]
    dsimp only
    split <;> rfl
  rw [effectsAfter_eq, List.filter_append, hstart, filter_isOutcome_moments, List.nil_append]

/-- Each inbound text has exactly one outcome, whatever was registered before and whatever the
handlers answer in the course of time.  A text of the current attempt that is not a pong is
rejected, or claimed by nobody, or handed once to the handler that was registered last for its
action, and reported if that handler fails then.  A whole life runs handlers and reports failures
in no other way: its outcomes are those of the texts that came, one after the other.  A
registration returns the handler it replaces, and the actions are listed once each in the order of
their bytes. -/
theorem inbound_texts_have_one_outcome (url : String) (liveness : Liveness)
    (respond : Conduct H) (registrations : List (String × H)) :
    let setup : Setup H := ⟨url, liveness, .ofList registrations, respond⟩
    (∀ state now accepting text, state.stopped = false → text ≠ pongText →
      let outcome := step setup ⟨now, accepting, .report ⟨state.generation, .message text⟩⟩ state
      outcome.1 = state ∧
        ∀ effects, outcome.2 = effects ↔ Outcome registrations respond now text effects) ∧
      (∀ began stimuli, ∃ outcomes,
        List.Forall₂ (fun came => Outcome registrations respond came.1 came.2)
            (heard setup began stimuli) outcomes ∧
          (effectsAfter setup began stimuli).filter Effect.isOutcome = outcomes.flatten) ∧
      setup.registry.Reflects registrations := by
  intro setup
  have hregistry : setup.registry = .ofList registrations := rfl
  refine ⟨?_, ?_, Registry.reflects_ofList registrations⟩
  · intro state now accepting text hrunning htext
    rw [step_message setup hrunning now accepting htext]
    exact ⟨rfl, fun effects => deliver_eq_iff hregistry⟩
  · intro began stimuli
    refine ⟨(heard setup began stimuli).map fun came => deliver setup came.1 came.2, ?_, ?_⟩
    · rw [List.forall₂_map_right_iff]
      exact List.forall₂_same.2 fun came _ => outcome_deliver hregistry came.1 came.2
    · rw [filter_isOutcome_effectsAfter, List.flatMap_def]

/-- Of two handlers for an action the later one answers, once.  It had room until then, and its
failure is reported. -/
theorem later_handler_fails_once :
    let text := "\x7b\"action\":\"Note\"\x7d"
    let registrations := [("Note", 0), ("Peer", 1), ("Note", 2)]
    let respond : Conduct Nat := ⟨fun now handler _ =>
      if handler = 2 ∧ 10 ≤ now then .error (.failed "full") else .ok ()⟩
    let state := State.initial.redialed 5000
    step ⟨"ws://example.test:8080/ws/feed", ⟨25000, 5000, 2000⟩, .ofList registrations, respond⟩
        ⟨10, true, .report ⟨1, .message text⟩⟩ state =
      (state, [.handle 2 (.new "Note"), danger "Socket action Note failed: full"]) := by
  intro text registrations respond state
  have hreading : Envelope.ofJson text = .ok (.new "Note") :=
    Envelope.ofJson_of_ofFlatJson (by decide +kernel)
  have hlast : Registry.IsLast registrations "Note" 2 :=
    ⟨[("Note", 0), ("Peer", 1)], [], rfl, List.forall_mem_nil _⟩
  obtain ⟨hone, -, -⟩ := inbound_texts_have_one_outcome "ws://example.test:8080/ws/feed"
    ⟨25000, 5000, 2000⟩ respond registrations
  obtain ⟨hstate, heffects⟩ := hone state 10 true text (by decide) (by decide)
  have hfailed : Outcome registrations respond 10 text _ :=
    .failed (.new "Note") 2 (.failed "full") hreading hlast rfl
  exact Prod.ext hstate ((heffects _).2 hfailed)

end Lifeline.Connection
