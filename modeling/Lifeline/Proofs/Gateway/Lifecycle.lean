import Lifeline.Proofs.Gateway.Frames
import Lifeline.Proofs.Gateway.Notices

/-!
# The life of a socket

A socket is registered from when it was accepted until it ends.  Its greeting is
the first frame it is written, whatever was queued before; once it ends, by a
greeting that could not be written or in any other way, the sockets that are left
are told, once, and nothing more is relayed for it (`Lifecycle`).
-/

namespace Lifeline.Gateway

/-- The news of a departure goes to the sockets that are registered from then on and have
room, and the one that departed is not among them. -/
structure Announces (past : List Input) (input : Input) (handle : Nat) : Prop where
  deregistered : handle ∉ (after (past ++ [input])).board.hub.handles
  queued : ∀ other, queuedFor other (step input (after past)).2 =
    if other ∈ (after (past ++ [input])).board.hub.handles ∧ (after past).HasRoom other then
      [(closeMessage handle).toJson]
    else []

/-- A notice is parsed, and its handle is decoded, as it was made. -/
def ReadAs (message : Envelope) (handle : Nat) : Prop :=
  Envelope.ofJson message.toJson = .ok message ∧
    message.decode Message.Peer.take = .ok ⟨handle⟩

/-- What holds of a socket after a run. -/
structure Lifecycle (inputs : List Input) (handle : Nat) : Prop where
  known : phase handle inputs ≠ .unknown ↔ 0 < handle ∧ handle ≤ connects inputs
  registered : handle ∈ (after inputs).board.hub.handles ↔ (phase handle inputs).Registered
  registered_once : (after inputs).board.hub.handles.count handle ≤ 1
  /-- What is written is the greeting and then what was queued, in order. -/
  written : writtenTo handle (effectsAfter inputs) <+:
    (initMessage handle).toJson :: queuedFor handle (effectsAfter inputs)
  greeted : phase handle inputs = .live →
    (writtenTo handle (effectsAfter inputs)).head? = some (initMessage handle).toJson
  announced_once : (acts inputs).count (.departed handle) =
    if phase handle inputs = .ended then 1 else 0
  announced : ∀ past input later, inputs = past ++ input :: later →
    act? past input = some (.departed handle) → Announces past input handle
  /-- No step queues anything but the frame of its act. -/
  queued : ∀ past input later, inputs = past ++ input :: later →
    queuedFor handle (step input (after past)).2 =
      (act? past input).elim [] (Act.queued (after past) handle)
  silent : ∀ past later, inputs = past ++ later → phase handle past = .ended →
    ∀ sent, .relayed handle sent ∉ actsFrom past later
  decoded : handle < Decimal.beyond64 →
    ReadAs (initMessage handle) handle ∧ ReadAs (closeMessage handle) handle

theorem head?_written_of_live {inputs : List Input} {handle : Nat}
    (hlive : phase handle inputs = .live) :
    (writtenTo handle (effectsAfter inputs)).head? = some (initMessage handle).toJson := by
  cases ledger inputs handle with
  | ungreeted hphase _ _ => exact absurd hlive hphase
  | greeted _ _ _ hwritten _ =>
      rw [hwritten]
      rfl

theorem announces {past : List Input} {input : Input} {handle : Nat}
    (hact : act? past input = some (.departed handle)) : Announces past input handle := by
  have hphase := phase_concat_of_departed hact
  -- the others stand where they stood
  have hremain (other : Nat) : other ∈ (after (past ++ [input])).board.hub.handles ↔
      other ∈ (after past).board.hub.handles ∧ other ≠ handle := by
    rw [mem_handles_after_iff, mem_handles_after_iff, hphase]
    by_cases hsame : handle = other
    · simp [hsame, Phase.Registered]
    · simp [hsame, Ne.symm hsame]
  constructor
  · exact fun hregistered => ((hremain handle).1 hregistered).2 rfl
  · intro other
    rw [queuedFor_step, hact, Option.elim_some, Act.queued]
    refine if_congr ?_ rfl rfl
    rw [Act.QueuedFor, hremain]

theorem readAs_notice (action : String) {handle : Nat} (hhandle : handle < Decimal.beyond64) :
    ReadAs (notice action handle) handle :=
  ⟨ofJson_notice action handle, decode_notice action hhandle⟩

/-- Every run keeps to the lifecycle of each socket. -/
theorem socket_lifecycle (inputs : List Input) (handle : Nat) : Lifecycle inputs handle where
  known := by
    rw [Ne, phase_eq_unknown_iff]
    omega
  registered := mem_handles_after_iff
  registered_once := by
    rw [(standing inputs).handles]
    exact List.nodup_iff_count_le_one.1 ((standing inputs).ascending.imp Nat.ne_of_lt) handle
  written := greeting_then_queued inputs handle
  greeted := head?_written_of_live
  announced_once := count_departed handle inputs
  announced _ _ _ _ hact := announces hact
  queued past input _ _ := queuedFor_step past input handle
  silent _ later _ hended sent := not_relayed_after hended later sent
  decoded hhandle := ⟨readAs_notice "Init" hhandle, readAs_notice "Close" hhandle⟩

/-- A socket whose greeting came late and one whose greeting failed. -/
theorem late_greeting_comes_first :
    let note := "\x7b\"action\":\"Note\"\x7d"
    let inputs : List Input := [.connect, .greet 1 true, .connect, .text 1 note, .greet 2 true,
      .write 2, .connect, .greet 3 false]
    ((writtenTo 2 (effectsAfter inputs)).head? = some (initMessage 2).toJson ∧
      2 ∈ (after inputs).board.hub.handles) ∧
      ((acts inputs).count (.departed 3) = 1 ∧ 3 ∉ (after inputs).board.hub.handles) ∧
      ReadAs (closeMessage 3) 3 := by
  intro note inputs
  have hlive : phase 2 inputs = .live := by decide +kernel
  have hended : phase 3 inputs = .ended := by decide +kernel
  have hsecond := socket_lifecycle inputs 2
  have hthird := socket_lifecycle inputs 3
  refine ⟨⟨hsecond.greeted hlive, hsecond.registered.2 (.inr hlive)⟩, ⟨?_, ?_⟩, ?_⟩
  · rw [hthird.announced_once, if_pos hended]
  · rw [hthird.registered, hended]
    decide
  · exact (hthird.decoded (by decide)).2

end Lifeline.Gateway
