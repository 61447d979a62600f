import Lifeline.Proofs.Gateway.Provenance

/-!
# Whom to believe

Actions are not reserved: a client may send an envelope with the action of a
greeting or of a departure, and the gateway relays it like any other, so such an
envelope alone does not tell that its handle is new or gone (`Authentic` does not
hold of every run).  What can be believed is the handle: news of a departure that
is not the gateway's own comes from the very socket that it names, and so does a
greeting (`Accountable`).
-/

namespace Lifeline.Gateway

/-- The envelope is what the client of a socket parses from a frame that was written to it. -/
def Reaches (inputs : List Input) (receiver index : Nat) (envelope : Envelope) : Prop :=
  ∃ frame, (writtenTo receiver (effectsAfter inputs))[index]? = some frame ∧
    Envelope.ofJson frame = .ok envelope

/-- Notices of the gateway, taken at their word. -/
structure Authentic (inputs : List Input) : Prop where
  close : ∀ receiver index envelope handle, Reaches inputs receiver index envelope →
    envelope.action = "Close" → envelope.get? "handle" = some (.ofNat handle) →
    handle ∉ (after inputs).board.hub.handles
  init : ∀ receiver index envelope, Reaches inputs receiver index envelope →
    envelope.action = "Init" → index = 0 ∧ envelope.get? "handle" = some (.ofNat receiver)

/-- A live socket sent an envelope with this action. -/
def Sent (inputs : List Input) (sender : Nat) (action : String) : Prop :=
  ∃ past raw later envelope, inputs = past ++ .text sender raw :: later ∧
    phase sender past = .live ∧ Envelope.ofJson raw = .ok envelope ∧ envelope.action = action

/-- A handle that was given out and is no longer registered. -/
def Deregistered (inputs : List Input) (handle : Nat) : Prop :=
  (0 < handle ∧ handle ≤ (after inputs).board.hub.allocated) ∧
    handle ∉ (after inputs).board.hub.handles

/-- Notices, as far as their handles can be relied on. -/
structure Accountable (inputs : List Input) (receiver : Nat) : Prop where
  close : ∀ index envelope, Reaches inputs receiver index envelope →
    envelope.action = "Close" → ∃ handle, envelope.get? "handle" = some (.ofNat handle) ∧
      (Deregistered inputs handle ∨ Sent inputs handle "Close")
  init : ∀ index envelope, Reaches inputs receiver index envelope →
    envelope.action = "Init" → ∃ handle, envelope.get? "handle" = some (.ofNat handle) ∧
      (index = 0 ∧ handle = receiver ∨ Sent inputs handle "Init")

/-! ## Who speaks -/

/-- Where an envelope that reaches a socket comes from. -/
inductive Voice (inputs : List Input) (receiver index : Nat) (envelope : Envelope) : Prop
  | greeting (hfirst : index = 0) (henvelope : envelope = initMessage receiver)
  | departure (handle : Nat) (hended : phase handle inputs = .ended)
      (henvelope : envelope = closeMessage handle)
  | client (sender : Nat) (hsent : Sent inputs sender envelope.action)
      (hhandle : envelope.get? "handle" = some (.ofNat sender))

theorem deregistered_of_ended {inputs : List Input} {handle : Nat}
    (hended : phase handle inputs = .ended) : Deregistered inputs handle := by
  constructor
  · rw [(standing inputs).allocated]
    exact bounds_of_known (by simp [hended])
  · rw [mem_handles_after_iff, hended]
    decide

/-- A relayed envelope is parsed with the action that it was sent with and the sender's handle. -/
theorem parsed_attributed {sender : Nat} {raw : String} {sent envelope : Envelope}
    (hsent : Envelope.ofJson raw = .ok sent)
    (hjson : Envelope.ofJson (attributed sender sent).toJson = .ok envelope) :
    envelope.action = sent.action ∧ envelope.get? "handle" = some (.ofNat sender) := by
  have hparsed := attributed_parsed (Envelope.ofJson_parsed hsent) sender
  obtain ⟨haction, hkept⟩ := hparsed.reread hjson
  exact ⟨haction, hkept "handle" _ (by decide) (get?_attributed_handle sender sent) trivial⟩

/-- The reserved text is no envelope. -/
theorem ofJson_pongText (envelope : Envelope) : Envelope.ofJson pongText ≠ .ok envelope := by
  rw [pongText]
  intro hjson
  cases hjson

theorem voice_of_queued {inputs : List Input} {receiver index : Nat} {frame : String}
    {envelope : Envelope} (hframe : frame ∈ queuedFor receiver (effectsAfter inputs))
    (hjson : Envelope.ofJson frame = .ok envelope) : Voice inputs receiver index envelope := by
  obtain ⟨past, input, later, act, rfl, hact, hfor, rfl⟩ := exists_act_of_queued hframe
  cases act with
  | greeted => exact hfor.elim
  | answered => exact absurd hjson (ofJson_pongText envelope)
  | relayed sender sent =>
      obtain ⟨raw, rfl, hlive, -, hsent⟩ := act?_eq_some_iff.1 hact
      obtain ⟨haction, hhandle⟩ := parsed_attributed hsent hjson
      exact .client sender ⟨past, raw, later, sent, rfl, hlive, hsent, haction.symm⟩ hhandle
  | departed handle =>
      have hended := phase_ended_append (ended_of_departed hact) later
      rw [List.append_assoc] at hended
      have hnotice := ofJson_notice "Close" handle
      exact .departure handle hended (Except.ok.inj (hjson.symm.trans hnotice))

theorem voice_of_reaches {inputs : List Input} {receiver index : Nat} {envelope : Envelope}
    (hreaches : Reaches inputs receiver index envelope) : Voice inputs receiver index envelope := by
  obtain ⟨frame, hframe, hjson⟩ := hreaches
  cases ledger inputs receiver with
  | ungreeted _ hwritten _ =>
      rw [hwritten] at hframe
      contradiction
  | greeted drained _ _ hwritten hqueued =>
      rw [hwritten] at hframe
      cases index with
      | zero =>
          obtain rfl := Option.some.inj hframe
          have hnotice := ofJson_notice "Init" receiver
          exact .greeting rfl (Except.ok.inj (hjson.symm.trans hnotice))
      | succ index =>
          have hdrained : frame ∈ drained := List.mem_of_getElem? hframe
          exact voice_of_queued (hqueued ▸ List.mem_append_left _ hdrained) hjson

/-! ## Notices -/

theorem get?_notice_handle (action : String) (handle : Nat) :
    (notice action handle).get? "handle" = some (.ofNat handle) := rfl

/-- In every run a notice is the gateway's own, or its handle is that of the socket that sent it. -/
theorem notices_name_their_source (inputs : List Input) (receiver : Nat) :
    Accountable inputs receiver where
  close index envelope hreaches haction := by
    cases voice_of_reaches hreaches with
    | greeting _ henvelope =>
        rw [henvelope] at haction
        exact absurd haction (by decide : "Init" ≠ "Close")
    | departure handle hended henvelope =>
        refine ⟨handle, ?_, .inl (deregistered_of_ended hended)⟩
        rw [henvelope]
        exact get?_notice_handle "Close" handle
    | client sender hsent hhandle => exact ⟨sender, hhandle, .inr (haction ▸ hsent)⟩
  init index envelope hreaches haction := by
    cases voice_of_reaches hreaches with
    | greeting hfirst henvelope =>
        refine ⟨receiver, ?_, .inl ⟨hfirst, rfl⟩⟩
        rw [henvelope]
        exact get?_notice_handle "Init" receiver
    | departure handle _ henvelope =>
        rw [henvelope] at haction
        exact absurd haction (by decide : "Close" ≠ "Init")
    | client sender hsent hhandle => exact ⟨sender, hhandle, .inr (haction ▸ hsent)⟩

/-- A registered client announces its own departure and greets another. -/
theorem notices_can_be_sent :
    let inputs : List Input := [.connect, .greet 1 true, .connect, .greet 2 true,
      .text 1 "\x7b\"action\":\"Close\"\x7d", .write 2,
      .text 1 "\x7b\"action\":\"Init\"\x7d", .write 2]
    ¬ Authentic inputs ∧
      (Reaches inputs 2 1 (closeMessage 1) ∧ 1 ∈ (after inputs).board.hub.handles) ∧
      Reaches inputs 2 2 (initMessage 1) := by
  intro inputs
  have hwritten : writtenTo 2 (effectsAfter inputs) =
      [(initMessage 2).toJson, (closeMessage 1).toJson, (initMessage 1).toJson] := by
    decide +kernel
  have hregistered : 1 ∈ (after inputs).board.hub.handles := by decide +kernel
  have hclose : Reaches inputs 2 1 (closeMessage 1) :=
    ⟨_, by rw [hwritten]; rfl, ofJson_notice "Close" 1⟩
  have hinit : Reaches inputs 2 2 (initMessage 1) :=
    ⟨_, by rw [hwritten]; rfl, ofJson_notice "Init" 1⟩
  refine ⟨fun hauthentic => ?_, ⟨hclose, hregistered⟩, hinit⟩
  exact hauthentic.close 2 1 _ 1 hclose rfl (get?_notice_handle "Close" 1) hregistered

end Lifeline.Gateway
