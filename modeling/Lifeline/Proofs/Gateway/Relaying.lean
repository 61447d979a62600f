import Lifeline.Connection.Step
import Lifeline.Proofs.Gateway.Notices
import Lifeline.Proofs.Hub.Offers

/-!
# From sender to receiver

An envelope that a socket sends is parsed by the gateway, marked with the
sender's handle, written again, offered to every registered peer and parsed once
more by the clients.  If it holds no doubles it arrives as it was sent, apart
from the handle (`Relayed`), and the connection that receives it runs the
handler of its action on it (`HandedOver`).  A text that is no envelope and no
ping goes nowhere.
-/

namespace Lifeline

open Json

namespace Connection

variable {H : Type}

/-- A text that is an envelope is given to the handler of its action and to no other. -/
theorem handle_mem_deliver_iff {setup : Setup H} {now : Nat} {text : String}
    {envelope : Envelope} (hjson : Envelope.ofJson text = .ok envelope) {handler : H}
    {handled : Envelope} :
    Effect.handle handler handled ∈ deliver setup now text ↔
      setup.registry.get? envelope.action = some handler ∧ handled = envelope := by
  unfold deliver
  rw [hjson]
  dsimp only
  cases setup.registry.get? envelope.action <;>
    cases setup.registry.dispatch (setup.respond.answer now) envelope <;>
    simp [eq_comm]

end Connection

namespace Gateway

/-- The frame was offered to every registered peer, and nothing else was done:
each channel has one copy more for each of its peers that accepted the frame. -/
structure Broadcasted (frame : String) (before : Gateway) (accepted : List Hub.Peer)
    (after : Gateway × List Effect) : Prop where
  accepted_sublist : accepted.Sublist before.board.hub.peers
  /-- A peer misses the frame only if its channel is full or closed at its turn. -/
  missed : ∀ peer ∈ before.board.hub.peers, peer ∉ accepted →
    ∃ earlier later, before.board.hub.peers = earlier ++ peer :: later ∧
      ((before.board.offerAll frame earlier).2.verdictOf peer = .full ∨
        (before.board.offerAll frame earlier).2.verdictOf peer = .closed)
  effects : after.2 = accepted.map fun peer => .queued peer.handle frame
  sockets : after.1.sockets = before.sockets
  hub : after.1.board.hub = before.board.hub
  channel? : ∀ index, after.1.board.channel? index = (before.board.channel? index).map
    fun channel => channel.append frame (Switchboard.countOn accepted index)

/-- The frame is parsed as the envelope with the handle of its sender and no other change. -/
structure Relayed (handle : Nat) (envelope : Envelope) (frame : String) (relayed : Envelope) :
    Prop where
  parsed : Envelope.ofJson frame = .ok relayed
  relayed_eq : relayed = envelope.withField "handle" (.ofNat handle)
  action : relayed.action = envelope.action
  handle : relayed.get? "handle" = Value.whole? handle
  others : ∀ key, key ≠ "handle" → relayed.get? key = envelope.get? key

/-- A running connection that receives the frame runs the handler that is
registered for the action of the envelope on this envelope, and stays as it is. -/
def HandedOver (frame : String) (envelope : Envelope) : Prop :=
  ∀ {H : Type} (setup : Setup H) (state : Connection.State) (now : Nat) (accepting : Bool),
    state.stopped = false →
    let after := Connection.step setup
      ⟨now, accepting, .report ⟨state.generation, .message frame⟩⟩ state
    after.1 = state ∧ ∀ handler handled, .handle handler handled ∈ after.2 ↔
      setup.registry.get? envelope.action = some handler ∧ handled = envelope

theorem broadcasted (frame : String) (gateway : Gateway) :
    ∃ accepted, Broadcasted frame gateway accepted (broadcast frame gateway) := by
  have hboard := Switchboard.broadcast_eq gateway.board frame
  refine ⟨(gateway.board.broadcast frame).1, ?_, ?_, rfl, rfl, ?_, ?_⟩
  · rw [hboard]
    exact Switchboard.offerAll_sublist _ _ _
  · intro peer hpeer hmissed
    rw [hboard] at hmissed
    obtain ⟨earlier, later, hsplit, hturn⟩ :=
      Switchboard.exists_turn_of_not_mem_offerAll hpeer hmissed
    refine ⟨earlier, later, hsplit, ?_⟩
    cases hverdict : (gateway.board.offerAll frame earlier).2.verdictOf peer with
    | accepted => exact absurd hverdict hturn
    | full => exact .inl rfl
    | closed => exact .inr rfl
  · simp only [broadcast, hboard, Switchboard.hub_offerAll]
  · intro index
    simp only [broadcast, hboard, Switchboard.channel?_offerAll]

theorem whole?_eq_ofNat {n : Nat} (hbound : n < Decimal.beyond64) :
    Value.whole? n = some (.ofNat n) := by
  have hfits : Fits (n : Int) := by
    rw [Decimal.beyond64] at hbound
    constructor <;> omega
  have hmod : n % 18446744073709551616 = n := Nat.mod_eq_of_lt hbound
  simp [Value.whole?, Value.ofNat, hfits, hmod]

theorem relayed_attributed {handle : Nat} (hhandle : handle < Decimal.beyond64)
    {envelope : Envelope} (hparsed : envelope.Parsed)
    (hexact : Value.ExactEntries envelope.fields) :
    Relayed handle envelope (attributed handle envelope).toJson (attributed handle envelope) where
  parsed := by
    have hexactHandle : (Value.ofNat handle).Exact := trivial
    exact (attributed_parsed hparsed handle).ofJson_toJson
      (Envelope.exactEntries_insert hexact hexactHandle _)
  relayed_eq := rfl
  action := rfl
  handle := by
    rw [whole?_eq_ofNat hhandle, get?_attributed_handle]
  others _ hkey := get?_attributed_of_ne handle envelope hkey

theorem handedOver {frame : String} {envelope : Envelope}
    (hparsed : Envelope.ofJson frame = .ok envelope) (hpong : frame ≠ pongText) :
    HandedOver frame envelope := by
  intro H setup state now accepting hrunning
  have hstep : Connection.step setup
      ⟨now, accepting, .report ⟨state.generation, .message frame⟩⟩ state =
        (state, Connection.deliver setup now frame) := by
    simp only [Connection.step, hrunning, Connection.onReport, Connection.onMessage, if_neg hpong,
      if_true, Bool.false_eq_true, if_false]
  intro after
  refine ⟨congrArg Prod.fst hstep, fun handler handled => ?_⟩
  rw [show after.2 = Connection.deliver setup now frame from congrArg Prod.snd hstep]
  exact Connection.handle_mem_deliver_iff hparsed

/-- An envelope without doubles reaches the clients as it was sent, marked with
the handle of its sender; a text that is no envelope and no ping changes nothing. -/
theorem envelopes_relayed_faithfully (socket : Socket) (gateway : Gateway)
    (hhandle : socket.handle < Decimal.beyond64) {raw : String} (hraw : raw ≠ pingText) :
    (∀ envelope, Envelope.ofJson raw = .ok envelope → Value.ExactEntries envelope.fields →
      ∃ frame accepted relayed,
        receive socket raw gateway = broadcast frame gateway ∧
          Broadcasted frame gateway accepted (receive socket raw gateway) ∧
          Relayed socket.handle envelope frame relayed ∧
          HandedOver frame relayed) ∧
      ((∀ envelope, Envelope.ofJson raw ≠ .ok envelope) →
        receive socket raw gateway = (gateway, [])) := by
  constructor
  · intro envelope hjson hexact
    have hreceive : receive socket raw gateway =
        broadcast (attributed socket.handle envelope).toJson gateway := by
      simp only [receive, if_neg hraw, hjson]
    obtain ⟨accepted, hbroadcasted⟩ :=
      broadcasted (attributed socket.handle envelope).toJson gateway
    have hrelayed := relayed_attributed hhandle (Envelope.ofJson_parsed hjson) hexact
    exact ⟨_, accepted, _, hreceive, hreceive ▸ hbroadcasted, hrelayed,
      handedOver hrelayed.parsed (toJson_ne_pongText _)⟩
  · intro hrefused
    unfold receive
    rw [if_neg hraw]
    split
    · next envelope hjson => exact absurd hjson (hrefused envelope)
    · rfl

theorem note_relayed_with_sender_handle :
    let gateway := (run [.connect, .greet 1 true, .connect, .greet 2 true] empty).1
    let note := "\x7b\"action\":\"Note\",\"handle\":9,\"text\":\"a\\nb\"\x7d"
    (∃ frame relayed, receive ⟨1, 0, true⟩ note gateway = broadcast frame gateway ∧
      Envelope.ofJson frame = .ok relayed ∧
      relayed.get? "handle" = Value.whole? 1 ∧
      relayed.get? "text" = some (.text "a\nb")) ∧
      receive ⟨1, 0, true⟩ "no envelope" gateway = (gateway, []) := by
  intro gateway note
  have hread : (Envelope.ofJson note).toOption =
      some ⟨"Note", [("handle", .ofNat 9), ("text", .text "a\nb")]⟩ := by decide +kernel
  have hnote : Envelope.ofJson note =
      .ok ⟨"Note", [("handle", .ofNat 9), ("text", .text "a\nb")]⟩ := by
    cases hjson : Envelope.ofJson note with
    | error error => simp [hjson, Except.toOption] at hread
    | ok envelope => simpa [hjson, Except.toOption] using hread
  have hexact : Value.ExactEntries [("handle", .ofNat 9), ("text", .text "a\nb")] :=
    ⟨trivial, trivial, trivial⟩
  have hping : note ≠ pingText := by decide
  obtain ⟨frame, accepted, relayed, hreceive, -, hrelayed, -⟩ :=
    (envelopes_relayed_faithfully ⟨1, 0, true⟩ gateway (by decide) hping).1 _ hnote hexact
  have hrefused : ∀ envelope, Envelope.ofJson "no envelope" ≠ .ok envelope := by
    intro envelope hjson
    cases hjson
  exact ⟨⟨frame, relayed, hreceive, hrelayed.parsed, hrelayed.handle,
      hrelayed.others "text" (by decide)⟩,
    (envelopes_relayed_faithfully ⟨1, 0, true⟩ gateway (by decide) (by decide)).2 hrefused⟩

end Gateway

end Lifeline
