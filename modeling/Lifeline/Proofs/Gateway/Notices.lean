import Lifeline.Envelope.Message
import Lifeline.Gateway.Relay
import Lifeline.Proofs.Envelope.RoundTrip

/-!
# Envelopes that the gateway writes

A greeting and the news of a departure hold one handle each.  They are parsed as
they were made, and their handle is decoded as the number that it was, as long as
it has at most sixty-four bits.  A relayed envelope differs from the one that was
sent in its handle only.  None of them reads as one of the reserved texts.
-/

namespace Lifeline

open Json

namespace Gateway

theorem toJson_ne_pingText (envelope : Envelope) : envelope.toJson ≠ pingText :=
  envelope.toJson_ne (by decide)

theorem toJson_ne_pongText (envelope : Envelope) : envelope.toJson ≠ pongText :=
  envelope.toJson_ne (by decide)

theorem get?_attributed_handle (sender : Nat) (envelope : Envelope) :
    (attributed sender envelope).get? "handle" = some (.ofNat sender) := by
  rw [attributed, Envelope.get?, Envelope.withField, Table.get?_insert, if_pos rfl]

theorem get?_attributed_of_ne (sender : Nat) (envelope : Envelope) {key : String}
    (hkey : key ≠ "handle") : (attributed sender envelope).get? key = envelope.get? key := by
  rw [attributed, Envelope.get?, Envelope.withField, Table.get?_insert, if_neg hkey, Envelope.get?]

theorem attributed_parsed {envelope : Envelope} (hparsed : envelope.Parsed) (sender : Nat) :
    (attributed sender envelope).Parsed :=
  hparsed.withField (by decide) (sound_number _)

/-! ## Notices -/

/-- What `initMessage` and `closeMessage` are, by their actions. -/
def notice (action : String) (handle : Nat) : Envelope :=
  (Envelope.new action).withField "handle" (.ofNat handle)

theorem ofJson_notice (action : String) (handle : Nat) :
    Envelope.ofJson (notice action handle).toJson = .ok (notice action handle) := by
  have hparsed : (notice action handle).Parsed :=
    (Envelope.parsed_new action).withField (by decide) (sound_number _)
  exact hparsed.ofJson_toJson ⟨trivial, trivial⟩

/-- The handle is decoded; the action is an entry that nobody asks for. -/
theorem take_peer (action : String) {value : Value} {handle : Nat}
    (hvalue : takeScalar Scalar.word64 value = .ok handle) :
    Message.Peer.take (.object [(Envelope.actionKey, .text action), ("handle", value)]) =
      .ok ⟨handle⟩ := by
  have haction (draft : Message.PeerDraft) :
      takeField Message.Peer.record draft (Envelope.actionKey, .text action) = .ok draft := rfl
  have hhandle (draft : Message.PeerDraft) : takeField Message.Peer.record draft ("handle", value) =
      (takeScalar Scalar.word64 value).map fun handle => ⟨some handle⟩ := rfl
  simp only [Message.Peer.take, Message.takeObject, takeRecord, List.foldlM_cons, haction, hhandle,
    hvalue]
  rfl

theorem decode_notice (action : String) {handle : Nat} (hhandle : handle < Decimal.beyond64) :
    (notice action handle).decode Message.Peer.take = .ok ⟨handle⟩ := by
  have htable (value : Value) : ((Envelope.new action).withField "handle" value).toTable =
      [(Envelope.actionKey, .text action), ("handle", value)] := rfl
  have hvalue : takeScalar Scalar.word64 (.ofNat handle) = .ok handle := by
    rw [takeScalar, Scalar.word64, Scalar.count_ofNat hhandle (Nat.le_refl _)]
  rw [Envelope.decode, notice, htable, take_peer action hvalue]

end Gateway

end Lifeline
