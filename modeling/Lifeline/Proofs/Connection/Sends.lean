import Lifeline.Proofs.Connection.Closing

/-!
# Requests to send

Requests to send wait in the queue of a connection with all the others.  As long
as the connection goes on, it takes them in the order in which they were made,
each of them once: what it has taken, and then what is still queued, is what was
queued at first and what was asked since (`sends_accounted`).
-/

namespace Lifeline.Connection

variable {H : Type}

/-- What an input asks to send. -/
def Input.payload? : Input → Option Payload
  | .send payload => some payload
  | _ => none

namespace Mailbox

/-- What some letters ask to send. -/
def sendsIn (letters : List Letter) : List Payload :=
  letters.filterMap (·.request.input.payload?)

/-- What a connection is asked to send in a run. -/
def sendsAsked (events : List Event) : List Payload :=
  sendsIn (events.filterMap fun
    | .ask letter => some letter
    | _ => none)

/-- What a connection takes notice of that it is asked to send. -/
def sendsTaken (stimuli : List Stimulus) : List Payload :=
  stimuli.filterMap (·.input.payload?)

theorem sendsIn_append (earlier later : List Letter) :
    sendsIn (earlier ++ later) = sendsIn earlier ++ sendsIn later :=
  List.filterMap_append

theorem sendsAsked_append (earlier later : List Event) :
    sendsAsked (earlier ++ later) = sendsAsked earlier ++ sendsAsked later := by
  rw [sendsAsked, List.filterMap_append, sendsIn_append]
  rfl

theorem sendsAsked_singleton {event : Event} (hevent : ∀ letter, event ≠ .ask letter) :
    sendsAsked [event] = [] := by
  cases event with
  | ask letter => exact absurd rfl (hevent letter)
  | _ => rfl

theorem sendsTaken_append (earlier later : List Stimulus) :
    sendsTaken (earlier ++ later) = sendsTaken earlier ++ sendsTaken later :=
  List.filterMap_append

/-- What has stopped does not go on. -/
theorem running_of_react {setup : Setup H} {event : Event} {mailbox : Mailbox}
    (hgoes : (react setup event mailbox).1.state.stopped = false) :
    mailbox.state.stopped = false := by
  rw [(react_life setup event mailbox).1] at hgoes
  cases hstop : mailbox.state.stopped with
  | false => rfl
  | true =>
      rw [run_stopped setup _ hstop] at hgoes
      exact hstop.symm.trans hgoes

theorem running_of_run {setup : Setup H} {events : List Event} {mailbox : Mailbox}
    (hgoes : (run setup events mailbox).1.state.stopped = false) :
    mailbox.state.stopped = false := by
  induction events generalizing mailbox with
  | nil => exact hgoes
  | cons event events ih => exact running_of_react (ih hgoes)

/-- The request that a connection takes is the first of its queue. -/
theorem sendsTaken_rest {mailbox : Mailbox} {event : Event} {stimulus : Stimulus}
    (hstimulus : mailbox.stimulus? event = some stimulus) :
    sendsTaken [stimulus] ++ sendsIn (mailbox.rest event) = sendsIn mailbox.queue := by
  cases event with
  | ask | clone | drop => cases hstimulus
  | occur now accepting occurrence =>
      obtain rfl := Option.some.inj hstimulus
      cases occurrence <;> rfl
  | take now accepting =>
      rw [stimulus?] at hstimulus
      cases hqueue : mailbox.queue with
      | nil =>
          rw [hqueue] at hstimulus
          obtain ⟨-, rfl⟩ : mailbox.handles = 0 ∧ _ = stimulus := by simpa using hstimulus
          simp [rest, hqueue, sendsTaken, Input.payload?]
      | cons letter left =>
          rw [hqueue] at hstimulus
          obtain rfl := Option.some.inj hstimulus
          rw [rest, hqueue, List.tail_cons]
          exact (sendsIn_append [letter] left).symm

theorem Reaction.sends {setup : Setup H} {mailbox : Mailbox} {event : Event}
    {outcome : Mailbox × List (Notice H)} (hreaction : Reaction setup mailbox event outcome)
    (hgoes : outcome.1.state.stopped = false) :
    sendsTaken (mailbox.stimulus? event).toList ++ sendsIn outcome.1.queue =
      sendsIn mailbox.queue ++ sendsAsked [event] := by
  cases hreaction with
  | asked letter =>
      have hqueue : (ask (H := H) letter mailbox).1.queue = mailbox.queue ++ [letter] :=
        if_neg (by simpa [ask] using hgoes)
      rw [hqueue, sendsIn_append]
      rfl
  | idle _ next hevent hstimulus _ hsame =>
      rw [sendsAsked_singleton hevent, hstimulus, hsame, List.append_nil]
      rfl
  | advanced _ stimulus hevent hstimulus =>
      rw [sendsAsked_singleton hevent, hstimulus, List.append_nil, Option.toList_some,
        ← sendsTaken_rest hstimulus]
      unfold advance at hgoes ⊢
      dsimp only at hgoes ⊢
      split
      · next hstop => simp [hstop] at hgoes
      · rfl

/-- As long as a connection goes on, nothing that it is asked to send gets lost, and nothing
overtakes anything. -/
theorem sends_accounted (setup : Setup H) (events : List Event) {mailbox : Mailbox}
    (hgoes : (run setup events mailbox).1.state.stopped = false) :
    sendsTaken (stimuli setup mailbox events) ++ sendsIn (run setup events mailbox).1.queue =
      sendsIn mailbox.queue ++ sendsAsked events := by
  induction events generalizing mailbox with
  | nil => exact (List.append_nil _).symm
  | cons event events ih =>
      have hfirst := (react_reaction setup event mailbox).sends (running_of_run hgoes)
      calc
        _ = sendsTaken (mailbox.stimulus? event).toList ++
              (sendsTaken (stimuli setup (react setup event mailbox).1 events) ++
                sendsIn (run setup events (react setup event mailbox).1).1.queue) := by
          rw [stimuli, sendsTaken_append, List.append_assoc]
          rfl
        _ = (sendsTaken (mailbox.stimulus? event).toList ++
              sendsIn (react setup event mailbox).1.queue) ++ sendsAsked events := by
          rw [ih hgoes, List.append_assoc]
        _ = sendsIn mailbox.queue ++ sendsAsked ([event] ++ events) := by
          rw [hfirst, sendsAsked_append, List.append_assoc]

end Mailbox

end Lifeline.Connection
