import Lifeline.Transport.Session
import Mathlib.Data.List.Induction

/-!
# Courses of a session

What a session reports and writes is told by what comes in.  It waits until the
handshake ends or is given up; once it is open it passes texts up and frames
down, until the first input that ends it; and it reports its end once, after
which nothing follows.  One more input takes a course to the next one
(`Course.concat`), so every run of a session that is listened to goes through a
course (`session_takes_course`).
-/

namespace Lifeline.Session

/-! ## What an input means -/

/-- The reason with which an input ends a session that waits for the handshake. -/
def Input.abort? : Input → Option (Option String)
  | .handshake (some reason) => some (some reason)
  | .close => some none
  | .dropHandle => some none
  | _ => none

/-- The input leaves a session waiting for the handshake. -/
def Input.Waits (input : Input) : Prop := input ≠ .handshake none ∧ input.abort? = none

/-- The reason with which an input ends an open session. -/
def Input.end? : Input → Option (Option String)
  | .inbound (.close reason) => some reason
  | .inbound (.failure reason) => some (some reason)
  | .inbound .finish => some none
  | .frame _ (some reason) => some (some reason)
  | .close => some none
  | .dropHandle => some none
  | _ => none

/-- The text that an input brings in. -/
def Input.text? : Input → Option String
  | .inbound (.text text) => some text
  | _ => none

/-- The frame that an input has written. -/
def Input.frame? : Input → Option String
  | .frame text none => some text
  | _ => none

/-! ## What a session does -/

/-- The reports of the session that serves an attempt. -/
def reports (generation : Nat) (effects : List Effect) : List Report :=
  (events effects).map (⟨generation, ·⟩)

/-- The frames that a session writes. -/
def written (effects : List Effect) : List String :=
  effects.filterMap fun
    | .event _ => none
    | .written text => some text

theorem reports_append (generation : Nat) (earlier later : List Effect) :
    reports generation (earlier ++ later) =
      reports generation earlier ++ reports generation later := by
  rw [reports, events, List.filterMap_append, List.map_append]
  rfl

theorem written_append (earlier later : List Effect) :
    written (earlier ++ later) = written earlier ++ written later :=
  List.filterMap_append

/-- The course of a session: the inputs so far, the phase they lead to, the reports and the frames
that were written. -/
inductive Course (generation : Nat) : List Input → Phase → List Report → List String → Prop
  | waiting (inputs : List Input) (hwaiting : ∀ input ∈ inputs, input.Waits) :
      Course generation inputs .handshaking [] []
  | aborted (before after : List Input) (last : Input) (reason : Option String)
      (hwaiting : ∀ input ∈ before, input.Waits) (habort : last.abort? = some reason) :
      Course generation (before ++ last :: after) .ended [⟨generation, .closed reason⟩] []
  | opened (before during : List Input) (hwaiting : ∀ input ∈ before, input.Waits)
      (hduring : ∀ input ∈ during, input.end? = none) :
      Course generation (before ++ .handshake none :: during) .opened
        (⟨generation, .opened⟩ ::
          (during.filterMap Input.text?).map (⟨generation, .message ·⟩))
        (during.filterMap Input.frame?)
  | ended (before during after : List Input) (last : Input) (reason : Option String)
      (hwaiting : ∀ input ∈ before, input.Waits) (hduring : ∀ input ∈ during, input.end? = none)
      (hend : last.end? = some reason) :
      Course generation (before ++ .handshake none :: during ++ last :: after) .ended
        (⟨generation, .opened⟩ ::
          (during.filterMap Input.text?).map (⟨generation, .message ·⟩) ++
            [⟨generation, .closed reason⟩])
        (during.filterMap Input.frame?)

/-! ## One input -/

theorem onHandshake_of_waits {input : Input} (hwaits : input.Waits) (listening : Bool) :
    onHandshake listening input = (.handshaking, []) := by
  obtain ⟨hunopened, hunaborted⟩ := hwaits
  cases input with
  | handshake failure =>
      cases failure with
      | none => exact absurd rfl hunopened
      | some reason => cases hunaborted
  | inbound item => rfl
  | frame text failure => rfl
  | close => cases hunaborted
  | dropHandle => cases hunaborted

theorem onHandshake_of_abort {input : Input} {reason : Option String}
    (habort : input.abort? = some reason) :
    onHandshake true input = (.ended, [.event (.closed reason)]) := by
  cases input with
  | handshake failure =>
      cases failure with
      | none => cases habort
      | some reason => cases habort; rfl
  | inbound item => cases habort
  | frame text failure => cases habort
  | close => cases habort; rfl
  | dropHandle => cases habort; rfl

/-- What an open session does about an input that does not end it. -/
def Input.passed (input : Input) : List Effect :=
  input.text?.toList.map (.event <| .message ·) ++ input.frame?.toList.map .written

theorem onOpened_of_end?_eq_none {input : Input} (hgoes : input.end? = none) :
    onOpened true input = (.opened, input.passed) := by
  cases input with
  | handshake failure => rfl
  | inbound item =>
      cases item with
      | close | failure | finish => cases hgoes
      | _ => rfl
  | frame text failure =>
      cases failure with
      | none => rfl
      | some reason => cases hgoes
  | close => cases hgoes
  | dropHandle => cases hgoes

theorem onOpened_of_end {input : Input} {reason : Option String}
    (hend : input.end? = some reason) :
    onOpened true input = (.ended, [.event (.closed reason)]) := by
  cases input with
  | handshake failure => cases hend
  | inbound item =>
      cases item with
      | close | failure | finish => cases hend; rfl
      | _ => cases hend
  | frame text failure =>
      cases failure with
      | none => cases hend
      | some reason => cases hend; rfl
  | close => cases hend; rfl
  | dropHandle => cases hend; rfl

theorem reports_passed (generation : Nat) (input : Input) :
    reports generation input.passed = input.text?.toList.map (⟨generation, .message ·⟩) := by
  rw [Input.passed]
  cases input.text? <;> cases input.frame? <;> rfl

theorem written_passed (input : Input) : written input.passed = input.frame?.toList := by
  rw [Input.passed]
  cases input.text? <;> cases input.frame? <;> rfl

/-! ## Runs -/

theorem filterMap_concat {α β : Type} (read : α → Option β) (items : List α) (item : α) :
    (items ++ [item]).filterMap read = items.filterMap read ++ (read item).toList := by
  rw [List.filterMap_append, List.filterMap_cons]
  cases read item <;> rfl

/-- One more input takes a course to the next one. -/
theorem Course.concat {generation : Nat} {inputs : List Input} {phase : Phase}
    {told : List Report} {frames : List String}
    (hcourse : Course generation inputs phase told frames) (input : Input) :
    Course generation (inputs ++ [input]) (step ⟨true, input⟩ phase).1
      (told ++ reports generation (step ⟨true, input⟩ phase).2)
      (frames ++ written (step ⟨true, input⟩ phase).2) := by
  cases hcourse with
  | waiting inputs hwaiting =>
      change Course _ _ (onHandshake true input).1 (reports _ (onHandshake true input).2)
        (written (onHandshake true input).2)
      by_cases hopens : input = .handshake none
      · subst hopens
        exact .opened inputs [] hwaiting (List.forall_mem_nil _)
      · cases habort : input.abort? with
        | none =>
            have hwaits : input.Waits := ⟨hopens, habort⟩
            rw [onHandshake_of_waits hwaits]
            exact .waiting _
              (List.forall_mem_append.2 ⟨hwaiting, List.forall_mem_singleton.2 hwaits⟩)
        | some reason =>
            rw [onHandshake_of_abort habort]
            exact .aborted inputs [] input reason hwaiting habort
  | aborted before after last reason hwaiting habort =>
      rw [List.append_assoc]
      exact .aborted before (after ++ [input]) last reason hwaiting habort
  | opened before during hwaiting hduring =>
      change Course _ _ (onOpened true input).1 (_ ++ reports _ (onOpened true input).2)
        (_ ++ written (onOpened true input).2)
      cases hend : input.end? with
      | none =>
          have hgoes : ∀ other ∈ during ++ [input], other.end? = none :=
            List.forall_mem_append.2 ⟨hduring, List.forall_mem_singleton.2 hend⟩
          have hnext : Course generation _ _ _ _ :=
            .opened before (during ++ [input]) hwaiting hgoes
          rw [filterMap_concat, filterMap_concat, List.map_append] at hnext
          rw [onOpened_of_end?_eq_none hend, reports_passed, written_passed]
          simpa using hnext
      | some reason =>
          have hnext : Course generation _ _ _ _ :=
            .ended before during [] input reason hwaiting hduring hend
          rw [onOpened_of_end hend, show written [Effect.event (.closed reason)] = [] from rfl,
            List.append_nil]
          exact hnext
  | ended before during after last reason hwaiting hduring hend =>
      rw [List.append_assoc]
      change Course _ _ _ (_ ++ []) (_ ++ [])
      rw [List.append_nil, List.append_nil]
      exact .ended before during (after ++ [input]) last reason hwaiting hduring hend

/-- A session that is listened to takes one course, whatever comes in.  It reports nothing while it
waits for the handshake; one that is given up or fails reports its end and no more; one that opens
reports that, then the texts that came in before the first input that ends it, in their order, and
then its end, once.  It has written the frames it took in between, and nothing follows the end. -/
theorem session_takes_course (generation : Nat) (stimuli : List Stimulus)
    (hlistening : ∀ stimulus ∈ stimuli, stimulus.listening = true) :
    let result := run stimuli .handshaking
    Course generation (stimuli.map (·.input)) result.1 (reports generation result.2)
      (written result.2) := by
  induction stimuli using List.reverseRecOn with
  | nil => exact .waiting [] (List.forall_mem_nil _)
  | append_singleton stimuli stimulus ih =>
      obtain ⟨hearlier, hlast⟩ := List.forall_mem_append.1 hlistening
      have hlistens : stimulus = ⟨true, stimulus.input⟩ := by
        rw [← hlast stimulus (List.mem_singleton.2 rfl)]
      rw [run, Transition.run_concat, ← run, List.map_append]
      dsimp only
      rw [reports_append, written_append, hlistens]
      exact (ih hearlier).concat stimulus.input

/-- A frame is dropped before the socket opens, and a write that fails ends the session. -/
theorem failed_write_reported_once :
    let inputs : List Input :=
      [.frame "early" none, .handshake none, .inbound (.text "a"), .frame "b" none, .inbound .ping,
        .inbound (.text "c"), .frame "d" (some "broken pipe"), .inbound (.text "late"), .close]
    let stimuli : List Stimulus := inputs.map (⟨true, ·⟩)
    (∀ stimulus ∈ stimuli, stimulus.listening = true) ∧
      Course 7 inputs .ended
        [⟨7, .opened⟩, ⟨7, .message "a"⟩, ⟨7, .message "c"⟩, ⟨7, .closed (some "broken pipe")⟩]
        ["b"] := by
  intro inputs stimuli
  have hlistening : ∀ stimulus ∈ stimuli, stimulus.listening = true := by decide
  exact ⟨hlistening, session_takes_course 7 stimuli hlistening⟩

end Lifeline.Session
