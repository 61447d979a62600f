import Lifeline.Config.Document
import Lifeline.Proofs.Config.Written
import Lifeline.Proofs.Connection.Life
import Lifeline.Proofs.Json.Guarded

/-!
# Durations that a connection can live with

A connection needs a ping interval; without one it stops as soon as it has begun
(`Connection.start_stopped_iff`).  Variables never give a duration of zero, since
each is tested while it is read and no default is zero.  The reader of documents
does not test them.  With that one test in the right place it would take those
documents only whose durations are not zero, and would take them as it does now
(`runnable_unless_zero_written`).
-/

namespace Lifeline

open Json

/-- No duration is zero. -/
@[mk_iff runnable_iff]
structure Liveness.Runnable (liveness : Liveness) : Prop where
  pingInterval : liveness.pingInterval ≠ 0
  reconnectDelay : liveness.reconnectDelay ≠ 0
  pongTimeout : liveness.pongTimeout ≠ 0

theorem Connection.start_stopped_iff {H : Type} (setup : Setup H) (began : Nat) :
    (start setup began).1.stopped = true ↔ setup.liveness.pingInterval = 0 := by
  rw [start_eq]
  split <;> simp_all [State.collapsed, State.redialed, State.initial]

namespace Config

/-! ## Variables -/

theorem optional_nonzero {given : Variables} {setting : Setting} {default duration : UInt64}
    (hdefault : default ≠ 0) (hread : optional given setting durationOf default = .ok duration) :
    duration ≠ 0 := by
  unfold optional at hread
  split at hread
  · cases hread
    exact hdefault
  · next raw _ =>
      split at hread
      · next value hvalue =>
          cases hread
          obtain ⟨-, hpositive⟩ := durationOf_eq_some_iff.1 hvalue
          rintro rfl
          exact Nat.lt_irrefl 0 hpositive
      · cases hread

theorem runnable_of_ofVariables {given : Variables} {config : Config}
    (hconfig : ofVariables given = .ok config) : config.liveness.Runnable := by
  obtain ⟨pingInterval, hping, hconfig⟩ := bind_eq_ok.1 hconfig
  obtain ⟨reconnectDelay, hreconnect, hconfig⟩ := bind_eq_ok.1 hconfig
  obtain ⟨pongTimeout, hpong, hconfig⟩ := bind_eq_ok.1 hconfig
  obtain ⟨port, -, hconfig⟩ := bind_eq_ok.1 hconfig
  obtain ⟨secure, -, hconfig⟩ := bind_eq_ok.1 hconfig
  cases hconfig
  exact ⟨optional_nonzero (by decide) hping, optional_nonzero (by decide) hreconnect,
    optional_nonzero (by decide) hpong⟩

/-! ## Documents -/

/-- The section `liveness`, with a reader for its durations. -/
def livenessRecordWith (duration : Reader Nat) : Record Reader LivenessDraft Liveness :=
  { livenessRecord with
    fields := [
      .ofReader "ping_interval_ms" LivenessDraft.pingInterval
        (fun draft value => { draft with pingInterval := some value }) duration,
      .ofReader "reconnect_delay_ms" LivenessDraft.reconnectDelay
        (fun draft value => { draft with reconnectDelay := some value }) duration,
      .ofReader "pong_timeout_ms" LivenessDraft.pongTimeout
        (fun draft value => { draft with pongTimeout := some value }) duration] }

/-- The whole document, with a reader for its section `liveness`. -/
def configRecordWith (liveness : Reader Liveness) : Record Reader ConfigDraft Config :=
  { configRecord with
    fields := [
      .ofReader "app" ConfigDraft.app (fun draft value => { draft with app := some value })
        (readRecord appRecord),
      .ofReader "endpoint" ConfigDraft.endpoint
        (fun draft value => { draft with endpoint := some value }) (readRecord endpointRecord),
      .ofReader "liveness" ConfigDraft.liveness
        (fun draft value => { draft with liveness := some value }) liveness] }

theorem livenessRecord_eq : livenessRecord = livenessRecordWith (readScalar Scalar.word64) := rfl

theorem configRecord_eq : configRecord = configRecordWith (readRecord livenessRecord) := rfl

/-- A duration that refuses zero. -/
def readNonzero : Reader Nat := readScalar (Scalar.word64.nonzero "u64")

theorem guards_readNonzero :
    Guards (fun n => UInt64.ofNat n ≠ 0) readNonzero (readScalar Scalar.word64) := by
  intro text n rest
  rw [readNonzero, guards_nonzero]
  apply and_congr_right
  intro hread
  obtain ⟨found, -, hscalar⟩ := readScalar_eq_ok_iff.1 hread
  have hfits : (UInt64.ofNat n).toNat = n := UInt64.toNat_ofNat_of_lt' (Scalar.count_lt hscalar)
  rw [not_iff_not, ← UInt64.toNat_inj, hfits]
  rfl

/-- No duration that has been read is zero. -/
@[mk_iff runnable_iff]
structure LivenessDraft.Runnable (draft : LivenessDraft) : Prop where
  pingInterval : ∀ n ∈ draft.pingInterval, UInt64.ofNat n ≠ 0
  reconnectDelay : ∀ n ∈ draft.reconnectDelay, UInt64.ofNat n ≠ 0
  pongTimeout : ∀ n ∈ draft.pongTimeout, UInt64.ofNat n ≠ 0

/-- A default is never zero, so only what has been read matters. -/
theorem default_nonzero_iff {read : Option Nat} {default : UInt64} (hdefault : default ≠ 0) :
    (read.map UInt64.ofNat).getD default ≠ 0 ↔ ∀ n ∈ read, UInt64.ofNat n ≠ 0 := by
  cases read <;> simp [hdefault]

theorem livenessRecord_guards :
    Record.Guards LivenessDraft.Runnable Liveness.Runnable (livenessRecordWith readNonzero)
      (livenessRecordWith (readScalar Scalar.word64)) where
  closed_eq := rfl
  blank_eq := rfl
  finish_eq := rfl
  fields := by
    refine .cons ?_ (.cons ?_ (.cons ?_ .nil))
    all_goals
      apply Field.guards_ofReader guards_readNonzero
      intro draft n hnone
      simp [LivenessDraft.runnable_iff, hnone, and_comm, and_left_comm]
  spare := by
    simp only [livenessRecordWith, List.pairwise_cons, List.Pairwise.nil, List.forall_mem_cons,
      List.not_mem_nil, IsEmpty.forall_iff, implies_true, and_true]
    and_intros <;> exact Field.spares_ofReader fun _ _ => rfl
  unset := by
    simp only [livenessRecordWith, List.forall_mem_cons, List.not_mem_nil, IsEmpty.forall_iff,
      implies_true, and_true]
    exact ⟨rfl, rfl, rfl⟩
  kept_blank := ⟨nofun, nofun, nofun⟩
  passes_iff := by
    intro draft liveness hfinish
    cases hfinish
    rw [LivenessDraft.runnable_iff, Liveness.runnable_iff, default_nonzero_iff (by decide),
      default_nonzero_iff (by decide), default_nonzero_iff (by decide)]

/-- The section has been read, or its durations are not zero. -/
def ConfigDraft.Runnable (draft : ConfigDraft) : Prop :=
  ∀ liveness ∈ draft.liveness, liveness.Runnable

theorem configRecord_guards {strict lax : Reader Liveness}
    (hguards : Guards Liveness.Runnable strict lax) :
    Record.Guards ConfigDraft.Runnable (fun config => config.liveness.Runnable)
      (configRecordWith strict) (configRecordWith lax) where
  closed_eq := rfl
  blank_eq := rfl
  finish_eq := rfl
  fields := by
    refine .cons ?_ (.cons ?_ (.cons ?_ .nil))
    · apply Field.guards_ofReader (guards_self _)
      simp [ConfigDraft.Runnable]
    · apply Field.guards_ofReader (guards_self _)
      simp [ConfigDraft.Runnable]
    · apply Field.guards_ofReader hguards
      intro draft liveness hnone
      simp [ConfigDraft.Runnable, hnone]
  spare := by
    simp only [configRecordWith, List.pairwise_cons, List.Pairwise.nil, List.forall_mem_cons,
      List.not_mem_nil, IsEmpty.forall_iff, implies_true, and_true]
    and_intros <;> exact Field.spares_ofReader fun _ _ => rfl
  unset := by
    simp only [configRecordWith, List.forall_mem_cons, List.not_mem_nil, IsEmpty.forall_iff,
      implies_true, and_true]
    exact ⟨rfl, rfl, rfl⟩
  kept_blank := nofun
  passes_iff := by
    rintro ⟨app, endpoint, liveness⟩ config hfinish
    cases app <;> cases endpoint <;> cases liveness <;> cases hfinish
    simp [ConfigDraft.Runnable]

/-- A section `liveness` that may not give a duration of zero. -/
def guardedLiveness : Reader Liveness := readRecord (livenessRecordWith readNonzero)

/-- The configuration of a document that may not give a duration of zero. -/
def ofGuardedDocument (text : String) : Except Fault Config :=
  readAll (readRecord (configRecordWith guardedLiveness)) text.toList

theorem guardedLiveness_guards :
    Guards Liveness.Runnable guardedLiveness (readRecord livenessRecord) := by
  rw [livenessRecord_eq]
  exact guards_readRecord livenessRecord_guards

/-- Variables give no duration of zero.  A document may, and so may its section `liveness` alone:
they are taken with durations other than zero exactly where the guarded reader takes them, for the
same configuration.  A connection stops at its beginning exactly if its ping interval is zero. -/
theorem runnable_unless_zero_written {H : Type} (given : Variables) (text : String)
    (setup : Setup H) (began : Nat) :
    (∀ config, ofVariables given = .ok config → config.liveness.Runnable) ∧
    (∀ config, ofDocument text = .ok config ∧ config.liveness.Runnable ↔
      ofGuardedDocument text = .ok config) ∧
    (∀ liveness,
      readAll (readRecord livenessRecord) text.toList = .ok liveness ∧ liveness.Runnable ↔
        readAll guardedLiveness text.toList = .ok liveness) ∧
    ((Connection.start setup began).1.stopped = true ↔ setup.liveness.pingInterval = 0) := by
  refine ⟨fun config => runnable_of_ofVariables, ?_, ?_, Connection.start_stopped_iff setup began⟩
  · intro config
    rw [ofDocument, configRecord_eq]
    exact (guards_readRecord (configRecord_guards guardedLiveness_guards)).readAll.symm
  · intro liveness
    exact guardedLiveness_guards.readAll.symm

/-- A connection with nobody to handle what arrives. -/
def unattended (liveness : Liveness) : Setup Empty where
  url := "ws://127.0.0.1:9000/ws"
  liveness := liveness
  registry := ⟨[]⟩
  respond := ⟨fun _ _ _ => .ok ()⟩

/-- Variables with a delay of one, and a document whose sections are lists. -/
theorem short_durations_runnable :
    let given : Variables := fun name =>
      [("TETHER_PORT", "9000"), ("TETHER_RECONNECT_DELAY_MS", " +01 ")].lookup name
    let fromVariables : Config :=
      ⟨⟨"tether", .development⟩, ⟨"127.0.0.1", 9000, false, "/ws"⟩, ⟨25000, 1, 2000⟩⟩
    let fromDocument : Config :=
      ⟨⟨"tether", .development⟩, ⟨"::1", 9000, false, "/ws"⟩, ⟨1, 1, 2000⟩⟩
    let text := "[[], [\"::1\", 9000], [1, 1]]"
    (ofVariables given = .ok fromVariables ∧ fromVariables.liveness.Runnable) ∧
      ofGuardedDocument text = .ok fromDocument ∧
      (Connection.start (unattended fromDocument.liveness) 0).1.stopped = false := by
  intro given fromVariables fromDocument text
  obtain ⟨hvariables, hdocuments, -, hstart⟩ := runnable_unless_zero_written given text
    (unattended fromDocument.liveness) 0
  have hgiven : ofVariables given = .ok fromVariables := by decide +kernel
  have hdocument : ofDocument text = .ok fromDocument := by decide +kernel
  have hrunnable : fromDocument.liveness.Runnable := ⟨by decide, by decide, by decide⟩
  refine ⟨⟨hgiven, hvariables _ hgiven⟩, (hdocuments _).1 ⟨hdocument, hrunnable⟩, ?_⟩
  rw [Bool.eq_false_iff, ne_eq, hstart]
  exact hrunnable.pingInterval

/-- A ping interval of zero is taken from a section and from a whole document, and no connection
can live with it. -/
theorem zero_interval_taken :
    let liveness : Liveness := ⟨0, 5000, 2000⟩
    readAll (readRecord livenessRecord) "\x7b\"ping_interval_ms\":0\x7d".toList = .ok liveness ∧
      ofDocument ("\x7b\"app\":\x7b\x7d,\"endpoint\":\x7b\"port\":9000\x7d," ++
        "\"liveness\":\x7b\"ping_interval_ms\":0\x7d\x7d") =
        .ok ⟨⟨"tether", .development⟩, ⟨"127.0.0.1", 9000, false, "/ws"⟩, liveness⟩ ∧
      ¬ liveness.Runnable ∧
      (Connection.start (unattended liveness) 0).1.stopped = true := by
  intro liveness
  refine ⟨by decide +kernel, by decide +kernel, ?_, ?_⟩
  · rintro ⟨hinterval, -, -⟩
    exact hinterval rfl
  · exact (Connection.start_stopped_iff (unattended liveness) 0).2 rfl

end Config

end Lifeline
