import Lifeline.Proofs.Connection.Published

/-!
# What the alert shows

A connection tells its status board two kinds of things: messages of its own
about connectivity, which it also clears, and reports about texts that were
refused or whose handling failed.  What a step tells is one of a few short lists
of calls (`Move.told`).

* No report reads like a message about connectivity, so a report is never
  cleared and stays until another message is set.
* While a message about connectivity is shown, the check or the retry of the
  attempt is pending; a check that finds the connection open takes the message
  away.
-/

namespace Lifeline

namespace StatusCall

def isSet : StatusCall → Bool
  | .set _ _ _ => true
  | _ => false

/-- The messages by which a connection tells of its own state. -/
def IsConnectivity (message : String) : Prop :=
  message = connectingMessage ∨ message = lostMessage

instance (message : String) : Decidable (IsConnectivity message) :=
  inferInstanceAs (Decidable (_ ∨ _))

theorem not_isConnectivity_empty : ¬ IsConnectivity "" := by decide

end StatusCall

namespace Connection

open StatusCall (IsConnectivity connectingMessage lostMessage)

variable {H : Type}

/-! ## Reports of failure -/

/-- The messages that report what went wrong with a text. -/
inductive FailureReport : String → Prop
  | rejected (error : String) : FailureReport ("Socket message rejected: " ++ error)
  | failed (action error : String) :
      FailureReport ("Socket action " ++ action ++ " failed: " ++ error)

theorem not_isConnectivity_socket (rest : String) : ¬ IsConnectivity ("Socket " ++ rest) :=
  not_or.mpr ⟨socket_ne (by decide) rest, socket_ne (by decide) rest⟩

theorem FailureReport.not_isConnectivity {message : String} (hreport : FailureReport message) :
    ¬ IsConnectivity message := by
  have hsocket : ∃ rest, message = "Socket " ++ rest := by
    cases hreport with
    | rejected error =>
        exact ⟨"message rejected: " ++ error, by rw [← String.append_assoc]; rfl⟩
    | failed action error =>
        refine ⟨"action " ++ action ++ " failed: " ++ error, ?_⟩
        simp only [← String.append_assoc]
        rfl
  obtain ⟨rest, rfl⟩ := hsocket
  exact not_isConnectivity_socket rest

/-- The report about a text at a time, if it is refused or its handling fails. -/
def failureOf? (setup : Setup H) (now : Nat) (text : String) : Option String :=
  match Envelope.ofJson text with
  | .error error => some ("Socket message rejected: " ++ error.message)
  | .ok envelope => match setup.registry.dispatch (setup.respond.answer now) envelope with
      | .error error =>
          some ("Socket action " ++ envelope.action ++ " failed: " ++ error.message)
      | .ok () => none

theorem failureReport_of_failureOf {setup : Setup H} {now : Nat} {text message : String}
    (hfailure : failureOf? setup now text = some message) : FailureReport message := by
  unfold failureOf? at hfailure
  split at hfailure
  · next error _ =>
      rw [← Option.some.inj hfailure]
      exact .rejected error.message
  · next envelope _ =>
      split at hfailure
      · next error _ =>
          rw [← Option.some.inj hfailure]
          exact .failed envelope.action error.message
      · simp at hfailure

theorem statusCalls_append (earlier later : List (Effect H)) :
    statusCalls (earlier ++ later) = statusCalls earlier ++ statusCalls later :=
  List.filterMap_append

/-- A delivery tells the board of its failure and nothing else. -/
theorem statusCalls_deliver (setup : Setup H) (now : Nat) (text : String) :
    statusCalls (deliver setup now text) =
      (failureOf? setup now text).toList.map (.set · .danger false) := by
  unfold deliver failureOf?
  cases Envelope.ofJson text with
  | error error =>
      simp [statusCalls, StatusCall.logError]
  | ok envelope =>
      have hmessage : ∀ error : HandlerError,
          "Socket action " ++ envelope.action ++ " failed" ++ ": " ++ error.message =
            "Socket action " ++ envelope.action ++ " failed: " ++ error.message := by
        intro error
        simp only [String.append_assoc]
        rfl
      dsimp only
      cases setup.registry.get? envelope.action <;>
        cases setup.registry.dispatch (setup.respond.answer now) envelope <;>
        simp [statusCalls, StatusCall.logError, hmessage]

/-! ## What a step tells the board -/

/-- The check or the retry of the current attempt is pending. -/
def State.Checked (state : State) : Prop :=
  ∃ deadline, ⟨.verify state.generation, deadline⟩ ∈ state.pending ∨
    ⟨.retry state.generation, deadline⟩ ∈ state.pending

theorem State.Checked.without {state : State} (hchecked : state.Checked) {fired : PendingTimer}
    (hunheeded : ¬ state.Heeds fired.timer) : (state.without fired).Checked := by
  have hkept : ∀ timer : PendingTimer, state.Heeds timer.timer → timer ∈ state.pending →
      timer ∈ (state.without fired).pending := by
    intro timer hheeded hmem
    refine (List.mem_erase_of_ne ?_).mpr hmem
    intro hsame
    exact hunheeded (hsame ▸ hheeded)
  obtain ⟨deadline, hpending⟩ := hchecked
  exact ⟨deadline, hpending.imp (hkept _ rfl) (hkept _ rfl)⟩

theorem State.checked_redialed (state : State) (deadline : Nat) :
    (state.redialed deadline).Checked :=
  ⟨deadline, .inl List.mem_concat_self⟩

theorem State.checked_schedule_retry (state : State) (deadline : Nat) :
    (state.schedule deadline (.retry state.generation)).Checked :=
  ⟨deadline, .inr List.mem_concat_self⟩

theorem State.Checked.pinged {state : State} (hchecked : state.Checked) (deadline : Nat) :
    (state.pinged deadline).Checked := by
  obtain ⟨due, hpending⟩ := hchecked
  exact ⟨due, hpending.imp (List.mem_append_left _) (List.mem_append_left _)⟩

/-- What a step tells the board, with what becomes of the check of the attempt. -/
inductive Told (state next : State) : List StatusCall → Prop
  | nothing (hchecked : next.stopped = false → state.Checked → next.Checked) :
      Told state next []
  | failure (message : String) (hreport : FailureReport message) (hsame : next = state) :
      Told state next [.set message .danger false]
  | answered (hchecked : state.Checked → next.Checked) :
      Told state next [.clearIfEqual lostMessage]
  | confirmed : Told state next [.clearIfEqual connectingMessage, .clearIfEqual lostMessage]
  | unconfirmed (hchecked : next.Checked) :
      Told state next [.set connectingMessage .warning false]
  | lost (hchecked : next.Checked) : Told state next [.set lostMessage .danger false]

theorem told_connect (setup : Setup H) (now : Nat) (state found : State) :
    Told state (connect setup now found).1 (statusCalls (connect setup now found).2) := by
  have hcalls : statusCalls (connect setup now found).2 = [] :=
    filterMap_connect (fun _ => rfl) (fun _ => rfl) setup now found
  rw [hcalls, connect_eq]
  exact .nothing fun _ _ => State.checked_redialed found _

theorem told_giveUp (setup : Setup H) (now : Nat) (state found : State) :
    Told state (giveUp setup now found).1 (statusCalls (giveUp setup now found).2) := by
  have hcalls : statusCalls (giveUp setup now found).2 = [.set lostMessage .danger false] :=
    filterMap_giveUp (fun _ => rfl) (fun _ => rfl) setup now found
  rw [hcalls, giveUp_eq]
  exact .lost (State.checked_redialed found _)

theorem Move.told {setup : Setup H} {now : Nat} {accepting : Bool} {state : State}
    {input : Input} {outcome : State × List (Effect H)}
    (hmove : Move setup now accepting state input outcome) :
    Told state outcome.1 (statusCalls outcome.2) := by
  have hsetLink : ∀ link, statusCalls (setLink (H := H) link state).2 = [] :=
    fun link => filterMap_setLink (fun _ => rfl) link state
  cases hmove with
  | opened =>
      rw [hsetLink]
      exact .nothing fun _ hchecked => hchecked
  | answered => exact .answered fun hchecked => hchecked
  | delivered text =>
      rw [statusCalls_deliver]
      cases hfailure : failureOf? setup now text with
      | none => exact .nothing fun _ hchecked => hchecked
      | some message => exact .failure message (failureReport_of_failureOf hfailure) rfl
  | ended =>
      have hrelease : statusCalls (state.transport.map (Effect.release (H := H))).toList = [] :=
        filterMap_release (fun _ => rfl) state.transport
      rw [statusCalls_append, hrelease, hsetLink]
      exact .nothing fun _ hchecked => hchecked
  | outdated fired _ hheeds => exact .nothing fun _ hchecked => hchecked.without hheeds
  | confirmed => exact .confirmed
  | unconfirmed => exact .unconfirmed (State.checked_schedule_retry _ _)
  | retried | reconnected => exact told_connect setup now state _
  | timedOut | unpinged => exact told_giveUp setup now state _
  | pinged => exact .nothing fun _ hchecked => hchecked.pinged _
  | shut =>
      have hhangUp : statusCalls (state.transport.map (Effect.hangUp (H := H))).toList = [] :=
        filterMap_hangUp (fun _ => rfl) state.transport
      rw [statusCalls_append, hhangUp, hsetLink]
      exact .nothing fun hgoes => absurd hgoes (by simp [State.shut])
  | _ => exact .nothing fun _ hchecked => hchecked

/-! ## Alerts of a life -/

/-- What a board shows that showed an alert before the connection began. -/
def alertAfter (shown : Alert) (setup : Setup H) (began : Nat) (stimuli : List Stimulus) :
    Alert :=
  shown.applyAll (statusCalls (effectsAfter setup began stimuli))

theorem alertAfter_append (shown : Alert) (setup : Setup H) (began : Nat)
    (earlier later : List Stimulus) :
    alertAfter shown setup began (earlier ++ later) =
      (alertAfter shown setup began earlier).applyAll
        (statusCalls (run setup later (stateAfter setup began earlier)).2) := by
  rw [alertAfter, effectsAfter_append, statusCalls_append]
  exact List.foldl_append

theorem alertAfter_concat (shown : Alert) (setup : Setup H) (began : Nat)
    (stimuli : List Stimulus) (stimulus : Stimulus) :
    alertAfter shown setup began (stimuli ++ [stimulus]) =
      (alertAfter shown setup began stimuli).applyAll
        (statusCalls (step setup stimulus (stateAfter setup began stimuli)).2) := by
  rw [alertAfter_append, run_singleton]

/-- A message is cleared if it is the one that is named, and else left alone. -/
theorem apply_clearIfEqual (alert : Alert) (message : String) :
    (alert.apply (.clearIfEqual message)).message = "" ∨
      alert.message ≠ message ∧ alert.apply (.clearIfEqual message) = alert := by
  by_cases hsame : alert.message = message
  · exact .inl (by simp [Alert.apply, hsame])
  · exact .inr ⟨hsame, by simp [Alert.apply, hsame]⟩

/-! ## Reports stay -/

section Kept

variable {state next : State} {calls : List StatusCall} {alert : Alert}

theorem apply_clearIfEqual_of_report {message : String} (hreport : FailureReport alert.message)
    (hmessage : IsConnectivity message) : alert.apply (.clearIfEqual message) = alert := by
  have hother : alert.message ≠ message := fun hsame =>
    hreport.not_isConnectivity (hsame ▸ hmessage)
  simp [Alert.apply, hother]

/-- A step that sets no message leaves a report on the board. -/
theorem Told.keeps_report (htold : Told state next calls)
    (hreport : FailureReport alert.message) (hunset : ∀ call ∈ calls, call.isSet = false) :
    alert.applyAll calls = alert := by
  have hconnecting := apply_clearIfEqual_of_report hreport (.inl rfl)
  have hlost := apply_clearIfEqual_of_report hreport (.inr rfl)
  cases htold with
  | nothing => rfl
  | answered => exact hlost
  | confirmed =>
      change (alert.apply (.clearIfEqual connectingMessage)).apply (.clearIfEqual lostMessage) = _
      rw [hconnecting, hlost]
  | failure | unconfirmed | lost => simp [StatusCall.isSet] at hunset

theorem run_keeps_report (setup : Setup H) (later : List Stimulus) (state : State)
    (hreport : FailureReport alert.message)
    (hunset : ∀ call ∈ statusCalls (run setup later state).2, call.isSet = false) :
    alert.applyAll (statusCalls (run setup later state).2) = alert := by
  induction later generalizing state with
  | nil => rfl
  | cons stimulus later ih =>
      have hcalls : statusCalls (run setup (stimulus :: later) state).2 =
          statusCalls (step setup stimulus state).2 ++
            statusCalls (run setup later (step setup stimulus state).1).2 :=
        statusCalls_append _ _
      rw [hcalls] at hunset ⊢
      have hfirst : alert.applyAll (statusCalls (step setup stimulus state).2) = alert := by
        cases hstop : state.stopped with
        | true =>
            rw [step_stopped setup stimulus hstop]
            rfl
        | false =>
            exact (step_move setup stimulus hstop).told.keeps_report hreport fun call hmem =>
              hunset call (List.mem_append_left _ hmem)
      have hrest := ih (step setup stimulus state).1 fun call hmem =>
        hunset call (List.mem_append_right _ hmem)
      rw [Alert.applyAll, List.foldl_append]
      change (alert.applyAll _).applyAll _ = alert
      rw [hfirst, hrest]

end Kept

/-- The delivery of a text that fails puts its report on the board, as a danger without rich
text. -/
theorem alertAfter_failure (shown : Alert) (setup : Setup H) (began : Nat)
    (stimuli : List Stimulus) (now : Nat) (accepting : Bool) {text message : String}
    (hrunning : (stateAfter setup began stimuli).stopped = false) (htext : text ≠ pongText)
    (hfailure : failureOf? setup now text = some message) :
    alertAfter shown setup began (stimuli ++
      [⟨now, accepting, .report ⟨(stateAfter setup began stimuli).generation, .message text⟩⟩]) =
      ⟨message, .danger, false, true⟩ := by
  rw [alertAfter_concat, step_message setup hrunning now accepting htext, statusCalls_deliver,
    hfailure]
  rfl

/-- A failure report is never taken off the board by the connection.  The report about a text
that is refused, or whose handling fails, becomes the alert, as a danger without rich text, and
it is the alert for as long as no message is set after it, since no such report reads like a
message that is cleared. -/
theorem failure_reports_stay (setup : Setup H) (began : Nat) (shown : Alert)
    (stimuli : List Stimulus) (now : Nat) (accepting : Bool) (text message : String)
    (hrunning : (stateAfter setup began stimuli).stopped = false) (htext : text ≠ pongText)
    (hfailure : failureOf? setup now text = some message) :
    let stimulus : Stimulus :=
      ⟨now, accepting, .report ⟨(stateAfter setup began stimuli).generation, .message text⟩⟩
    let after := stateAfter setup began (stimuli ++ [stimulus])
    FailureReport message ∧
      (∀ later, (∀ call ∈ statusCalls (run setup later after).2, call.isSet = false) →
        alertAfter shown setup began (stimuli ++ [stimulus] ++ later) =
          ⟨message, .danger, false, true⟩) ∧
      ∀ report, FailureReport report → report ≠ connectingMessage ∧ report ≠ lostMessage := by
  intro stimulus after
  have hreport := failureReport_of_failureOf hfailure
  refine ⟨hreport, ?_, ?_⟩
  · intro later hunset
    rw [alertAfter_append, alertAfter_failure shown setup began stimuli now accepting hrunning
      htext hfailure]
    exact run_keeps_report setup later after hreport hunset
  · intro report hother
    exact not_or.mp hother.not_isConnectivity

/-- A refused text stays reported while a pong comes in, the check confirms the connection and a
user asks for another attempt. -/
theorem refused_text_stays_reported :
    let setup := Setup.bare ⟨25000, 5000, 2000⟩
    let stimuli : List Stimulus := [⟨10, true, .report ⟨1, .opened⟩⟩]
    let later : List Stimulus :=
      [⟨30, true, .report ⟨1, .message pongText⟩⟩, ⟨5000, true, .fire ⟨.verify 1, 5000⟩⟩,
        ⟨6000, true, .reconnect⟩]
    ∃ message, failureOf? setup 20 "hello" = some message ∧
      alertAfter .blank setup 0
          (stimuli ++ [⟨20, true, .report ⟨1, .message "hello"⟩⟩] ++ later) =
        ⟨message, .danger, false, true⟩ := by
  intro setup stimuli later
  obtain ⟨message, hfailure⟩ : ∃ message, failureOf? setup 20 "hello" = some message :=
    ⟨_, rfl⟩
  have hrunning : (stateAfter setup 0 stimuli).stopped = false := by decide
  obtain ⟨-, hstays, -⟩ := failure_reports_stay setup 0 .blank stimuli 20 true "hello" message
    hrunning (by decide) hfailure
  exact ⟨message, hfailure, hstays later (by decide)⟩

/-! ## Messages about connectivity are watched -/

theorem not_isConnectivity_confirmed (alert : Alert) :
    ¬ IsConnectivity
      (alert.applyAll [.clearIfEqual connectingMessage, .clearIfEqual lostMessage]).message := by
  change ¬ IsConnectivity
    ((alert.apply (.clearIfEqual connectingMessage)).apply (.clearIfEqual lostMessage)).message
  rcases apply_clearIfEqual (alert.apply (.clearIfEqual connectingMessage)) lostMessage with
    hempty | ⟨hlost, hsame⟩
  · rw [hempty]
    exact StatusCall.not_isConnectivity_empty
  · rw [hsame]
    rcases apply_clearIfEqual alert connectingMessage with hempty | ⟨hconnecting, hkept⟩
    · rw [hempty]
      exact StatusCall.not_isConnectivity_empty
    · rw [hkept] at hlost ⊢
      exact not_or.mpr ⟨hconnecting, hlost⟩

/-- A step keeps the check of the attempt pending while a message about connectivity is shown. -/
theorem Told.checked {state next : State} {calls : List StatusCall} {alert : Alert}
    (htold : Told state next calls) (hgoes : next.stopped = false)
    (hbefore : IsConnectivity alert.message → state.Checked)
    (hshown : IsConnectivity (alert.applyAll calls).message) : next.Checked := by
  cases htold with
  | nothing hchecked => exact hchecked hgoes (hbefore hshown)
  | failure message hreport => exact absurd hshown hreport.not_isConnectivity
  | answered hchecked =>
      change IsConnectivity (alert.apply (.clearIfEqual lostMessage)).message at hshown
      rcases apply_clearIfEqual alert lostMessage with hempty | ⟨-, hkept⟩
      · rw [hempty] at hshown
        exact absurd hshown StatusCall.not_isConnectivity_empty
      · rw [hkept] at hshown
        exact hchecked (hbefore hshown)
  | confirmed => exact absurd hshown (not_isConnectivity_confirmed alert)
  | unconfirmed hchecked | lost hchecked => exact hchecked

theorem checked_of_isConnectivity (setup : Setup H) (began : Nat) {shown : Alert}
    (hfresh : ¬ IsConnectivity shown.message) (stimuli : List Stimulus)
    (hrunning : (stateAfter setup began stimuli).stopped = false)
    (hshown : IsConnectivity (alertAfter shown setup began stimuli).message) :
    (stateAfter setup began stimuli).Checked := by
  induction stimuli using List.reverseRecOn with
  | nil =>
      have hcalls : statusCalls (start setup began).2 = [] := by
        rw [start_eq]
        dsimp only
        split <;> rfl
      have hsame : alertAfter shown setup began [] = shown := by
        rw [alertAfter, effectsAfter, statusCalls_append, hcalls]
        rfl
      rw [hsame] at hshown
      exact absurd hshown hfresh
  | append_singleton stimuli stimulus ih =>
      rw [alertAfter_concat] at hshown
      rw [stateAfter_concat] at hrunning ⊢
      cases hstop : (stateAfter setup began stimuli).stopped with
      | true =>
          rw [step_stopped setup stimulus hstop] at hrunning
          exact absurd (hstop.symm.trans hrunning) (by decide)
      | false =>
          exact (step_move setup stimulus hstop).told.checked hrunning (ih hstop) hshown

/-- A check of the attempt that finds the connection open tells the board to take both messages
away. -/
theorem Move.eq_confirmed {setup : Setup H} {now deadline : Nat} {accepting : Bool}
    {state : State} {outcome : State × List (Effect H)}
    (hmove : Move setup now accepting state (.fire ⟨.verify state.generation, deadline⟩) outcome)
    (hpending : ⟨.verify state.generation, deadline⟩ ∈ state.pending)
    (hopen : state.isOpen = true) :
    outcome = (state.without ⟨.verify state.generation, deadline⟩,
      [.status (.clearIfEqual connectingMessage), .status (.clearIfEqual lostMessage)]) := by
  cases hmove with
  | absent _ habsent => exact absurd hpending habsent
  | outdated _ _ hheeds => exact absurd rfl hheeds
  | confirmed => rfl
  | unconfirmed _ _ hclosed => simp [hopen] at hclosed
  | shut _ hinput => simp at hinput

/-- A message about connectivity is never stuck.  While one is shown, the check or the retry of
the attempt is pending, and a check that finds the connection open leaves neither message on the
board.  Open means that a transport is held and the link is open; the link alone is enough where
no transport reports anything after its end. -/
theorem connectivity_alert_watched (setup : Setup H) (began : Nat) (stimuli : List Stimulus)
    (hrunning : (stateAfter setup began stimuli).stopped = false) :
    let state := stateAfter setup began stimuli
    (IsConnectivity (alertAfter .blank setup began stimuli).message →
      ∃ deadline, ⟨.verify state.generation, deadline⟩ ∈ state.pending ∨
        ⟨.retry state.generation, deadline⟩ ∈ state.pending) ∧
      (∀ now accepting deadline, ⟨.verify state.generation, deadline⟩ ∈ state.pending →
        state.isOpen = true →
          ¬ IsConnectivity (alertAfter .blank setup began
            (stimuli ++
              [⟨now, accepting, .fire ⟨.verify state.generation, deadline⟩⟩])).message) ∧
      (EndsAreFinal stimuli → state.link = .opened → state.isOpen = true) := by
  intro state
  refine ⟨?_, ?_, ?_⟩
  · exact checked_of_isConnectivity setup began StatusCall.not_isConnectivity_empty stimuli
      hrunning
  · intro now accepting deadline hpending hopen
    have hstep := (step_move setup ⟨now, accepting, .fire ⟨.verify state.generation, deadline⟩⟩
      hrunning).eq_confirmed hpending hopen
    rw [alertAfter_concat, hstep]
    exact not_isConnectivity_confirmed _
  · intro hfinal hlink
    cases (truthful setup began stimuli hfinal).coupled hrunning with
    | connecting _ hother => exact absurd (hlink.symm.trans hother) (by decide)
    | opened htransport => exact State.isOpen_of_opened htransport hlink
    | disconnected _ hother => exact absurd (hlink.symm.trans hother) (by decide)

/-- The loss of the first attempt is announced, its check is pending, and once the next attempt
is open the check takes the message away. -/
theorem announced_loss_cleared :
    let setup := Setup.bare ⟨25000, 5000, 2000⟩
    let stimuli : List Stimulus :=
      [⟨25000, true, .tick⟩, ⟨25010, true, .report ⟨2, .opened⟩⟩]
    let check : Stimulus := ⟨30000, true, .fire ⟨.verify 2, 30000⟩⟩
    (alertAfter .blank setup 0 stimuli).message = lostMessage ∧
      (stateAfter setup 0 stimuli).Checked ∧
      ¬ IsConnectivity (alertAfter .blank setup 0 (stimuli ++ [check])).message := by
  intro setup stimuli check
  have hlost : (alertAfter .blank setup 0 stimuli).message = lostMessage := by decide
  obtain ⟨hchecked, hcleared, -⟩ := connectivity_alert_watched setup 0 stimuli (by decide)
  exact ⟨hlost, hchecked (.inr hlost), hcleared 30000 true 30000 (by decide) (by decide)⟩

/-- A transport that reports that it is open after it has reported its end leaves the link open
with no transport; the check then announces the attempt although the link is open. -/
theorem check_announces_open_link_without_transport :
    let setup := Setup.bare ⟨25000, 5000, 2000⟩
    let stimuli : List Stimulus :=
      [⟨0, true, .report ⟨1, .closed (some "peer disconnected")⟩⟩,
        ⟨0, true, .report ⟨1, .opened⟩⟩]
    let state := stateAfter setup 0 stimuli
    state.stopped = false ∧ state.generation = 1 ∧ ⟨.verify 1, 5000⟩ ∈ state.pending ∧
      state.link = .opened ∧
      (alertAfter .blank setup 0
        (stimuli ++ [⟨5000, true, .fire ⟨.verify 1, 5000⟩⟩])).message = connectingMessage := by
  decide

end Connection

end Lifeline
