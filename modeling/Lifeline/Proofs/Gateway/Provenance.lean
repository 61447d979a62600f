import Lifeline.Proofs.Gateway.Frames
import Lifeline.Proofs.Gateway.Notices

/-!
# Where frames come from

A client may send any text, but what reaches a socket is made by the gateway:
the greeting of the socket, the answer to its own ping, an envelope marked with
the handle of the socket that sent it, or the news of a departure (`Origin`).
The text of an envelope begins with a brace, so no envelope passes for one of
the reserved texts, and a socket gets no more pongs than it sent pings.
-/

namespace Lifeline.Gateway

/-- What a frame for a socket goes back to. -/
inductive Origin (inputs : List Input) (receiver : Nat) (frame : String) : Prop
  | greeting (hgreet : .greet receiver true ∈ inputs)
      (hframe : frame = (initMessage receiver).toJson)
  | pong (past later : List Input) (hinputs : inputs = past ++ .text receiver pingText :: later)
      (hlive : phase receiver past = .live) (hframe : frame = pongText)
  | relay (past later : List Input) (sender : Nat) (raw : String) (sent relayed : Envelope)
      (hinputs : inputs = past ++ .text sender raw :: later)
      (hlive : phase sender past = .live)
      (hsent : Envelope.ofJson raw = .ok sent)
      (hhandle : relayed.get? "handle" = some (.ofNat sender))
      (hothers : relayed.action = sent.action ∧
        ∀ key, key ≠ "handle" → relayed.get? key = sent.get? key)
      (hplain : frame ≠ pingText ∧ frame ≠ pongText)
      (hframe : frame = relayed.toJson)
  | departure (handle : Nat) (hended : phase handle inputs = .ended)
      (hframe : frame = (closeMessage handle).toJson)

/-- What is known of all frames for a socket. -/
structure Provenance (inputs : List Input) (receiver : Nat) : Prop where
  queued : ∀ frame ∈ queuedFor receiver (effectsAfter inputs), Origin inputs receiver frame
  written : ∀ frame ∈ writtenTo receiver (effectsAfter inputs), Origin inputs receiver frame
  waiting : ∀ frame ∈ (after inputs).backlog receiver, Origin inputs receiver frame
  /-- Each ping that the socket sent while it was live is answered by one pong. -/
  pongs_queued : (queuedFor receiver (effectsAfter inputs)).count pongText =
    (acts inputs).count (.answered receiver)
  pings : (acts inputs).count (.answered receiver) ≤ inputs.count (.text receiver pingText)
  pongs_written : (writtenTo receiver (effectsAfter inputs)).count pongText ≤
    inputs.count (.text receiver pingText)

/-! ## Origins -/

theorem origin_of_queued {inputs : List Input} {receiver : Nat} {frame : String}
    (hframe : frame ∈ queuedFor receiver (effectsAfter inputs)) :
    Origin inputs receiver frame := by
  obtain ⟨past, input, later, act, rfl, hact, hfor, rfl⟩ := exists_act_of_queued hframe
  cases act with
  | greeted => exact hfor.elim
  | answered handle =>
      obtain rfl : handle = receiver := hfor
      obtain ⟨rfl, hlive⟩ := act?_eq_some_iff.1 hact
      exact .pong past later rfl hlive rfl
  | relayed sender sent =>
      obtain ⟨raw, rfl, hlive, -, hsent⟩ := act?_eq_some_iff.1 hact
      exact .relay past later sender raw sent (attributed sender sent) rfl hlive hsent
        (get?_attributed_handle sender sent)
        ⟨rfl, fun key hkey => get?_attributed_of_ne sender sent hkey⟩
        ⟨toJson_ne_pingText _, toJson_ne_pongText _⟩ rfl
  | departed handle =>
      have hended := phase_ended_append (ended_of_departed hact) later
      rw [List.append_assoc] at hended
      exact .departure handle hended rfl

/-- What is written was queued, the greeting apart. -/
theorem origin_of_written {inputs : List Input} {receiver : Nat} {frame : String}
    (hframe : frame ∈ writtenTo receiver (effectsAfter inputs)) :
    Origin inputs receiver frame := by
  cases ledger inputs receiver with
  | ungreeted _ hwritten _ =>
      rw [hwritten] at hframe
      contradiction
  | greeted drained hgreeted _ hwritten hqueued =>
      rw [hwritten, List.mem_cons] at hframe
      rcases hframe with rfl | hdrained
      · obtain ⟨past, input, later, rfl, hact⟩ := mem_acts_iff.1 hgreeted
        obtain ⟨rfl, -⟩ := act?_eq_some_iff.1 hact
        exact .greeting (by simp) rfl
      · exact origin_of_queued (hqueued ▸ List.mem_append_left _ hdrained)

theorem mem_queuedFor_of_waiting {inputs : List Input} {receiver : Nat} {frame : String}
    (hframe : frame ∈ (after inputs).backlog receiver) :
    frame ∈ queuedFor receiver (effectsAfter inputs) := by
  cases ledger inputs receiver with
  | ungreeted _ _ hqueued => rwa [hqueued]
  | greeted _ _ _ _ hqueued =>
      rw [hqueued]
      exact List.mem_append_right _ hframe

/-! ## Pongs -/

/-- A step queues a pong for the socket whose ping it takes, and for no other. -/
theorem count_pong_step (past : List Input) (input : Input) (receiver : Nat) :
    (queuedFor receiver (step input (after past)).2).count pongText =
      if act? past input = some (.answered receiver) then 1 else 0 := by
  rw [queuedFor_step]
  cases hact : act? past input with
  | none => rfl
  | some act =>
      rw [Option.elim_some, Act.queued]
      cases act with
      | answered handle =>
          by_cases hsame : handle = receiver <;> simp [Act.QueuedFor, Act.frame, hsame]
      | greeted => simp [Act.QueuedFor]
      | relayed sender sent =>
          have hframe : Act.frame (.relayed sender sent) ≠ pongText := toJson_ne_pongText _
          split <;> simp [hframe]
      | departed handle =>
          have hframe : Act.frame (.departed handle) ≠ pongText := toJson_ne_pongText _
          split <;> simp [hframe]

theorem count_pong_queued (inputs : List Input) (receiver : Nat) :
    (queuedFor receiver (effectsAfter inputs)).count pongText =
      (acts inputs).count (.answered receiver) := by
  induction inputs using List.reverseRecOn with
  | nil => rfl
  | append_singleton past input ih =>
      rw [effectsAfter_concat, queuedFor_append, acts_concat, List.count_append, List.count_append,
        ih, count_pong_step]
      congr 1
      cases act? past input with
      | none => rfl
      | some act => simp [List.count_singleton]

theorem count_answered_le (inputs : List Input) (receiver : Nat) :
    (acts inputs).count (.answered receiver) ≤ inputs.count (.text receiver pingText) := by
  induction inputs using List.reverseRecOn with
  | nil => exact Nat.le_refl 0
  | append_singleton past input ih =>
      rw [acts_concat, List.count_append, List.count_append]
      refine Nat.add_le_add ih ?_
      by_cases hact : act? past input = some (.answered receiver)
      · obtain ⟨rfl, -⟩ := act?_eq_some_iff.1 hact
        simp [hact]
      · rw [List.count_eq_zero.2 (by rwa [Option.mem_toList])]
        exact Nat.zero_le _

theorem count_pong_written_le (inputs : List Input) (receiver : Nat) :
    (writtenTo receiver (effectsAfter inputs)).count pongText ≤
      (queuedFor receiver (effectsAfter inputs)).count pongText := by
  have hprefix := (greeting_then_queued inputs receiver).sublist.count_le pongText
  rwa [List.count_cons_of_ne (toJson_ne_pongText _)] at hprefix

/-- In every run each frame is the gateway's own word or carries its sender's handle, and
pongs go to those who sent pings. -/
theorem frames_have_origins (inputs : List Input) (receiver : Nat) :
    Provenance inputs receiver where
  queued _ := origin_of_queued
  written _ := origin_of_written
  waiting _ hwaiting := origin_of_queued (mem_queuedFor_of_waiting hwaiting)
  pongs_queued := count_pong_queued inputs receiver
  pings := count_answered_le inputs receiver
  pongs_written := calc (writtenTo receiver (effectsAfter inputs)).count pongText
    _ ≤ (queuedFor receiver (effectsAfter inputs)).count pongText :=
      count_pong_written_le inputs receiver
    _ = (acts inputs).count (.answered receiver) := count_pong_queued inputs receiver
    _ ≤ inputs.count (.text receiver pingText) := count_answered_le inputs receiver

example :
    let forged := "\x7b\"action\":\"__pong\",\"handle\":2\x7d"
    writtenTo 2 (effectsAfter [.connect, .greet 1 true, .connect, .greet 2 true, .text 1 forged,
      .text 1 pongText, .text 1 pingText, .write 2, .write 2]) =
      [(initMessage 2).toJson, "\x7b\"action\":\"__pong\",\"handle\":1\x7d"] := by
  decide +kernel

end Lifeline.Gateway
