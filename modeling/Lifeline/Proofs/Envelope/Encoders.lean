import Lifeline.Envelope.Payload
import Lifeline.Proofs.Envelope.RoundTrip
import Lifeline.Proofs.Json.Writing

/-!
# Three ways to write an envelope

The builder lets a field be named as the action is.  `toJson` then writes the
action alone, `toFlatValue` keeps the field alone, and `toFlatJson` writes both,
of which a reader keeps the last.  So the three agree exactly if the field says
what the action says (`encodings_agree_iff`).
-/

namespace Lifeline.Envelope

open Json

/-- No field contradicts the action. -/
def Consistent (envelope : Envelope) : Prop :=
  envelope.fields.get? actionKey = none ∨
    envelope.fields.get? actionKey = some (.text envelope.action)

/-- The action and then the fields, stored one after the other. -/
def toFlatTable (envelope : Envelope) : Object :=
  Table.ofList ((actionKey, .text envelope.action) :: envelope.fields)

section

variable {envelope : Envelope} (hsorted : Table.Sorted envelope.fields)

include hsorted

theorem toFlatTable_of_unnamed (hunnamed : envelope.fields.get? actionKey = none) :
    envelope.toFlatTable = envelope.toTable := by
  rw [toFlatTable, hsorted.ofList_cons, Table.contains, hunnamed]
  rfl

theorem toFlatTable_of_named {value : Value}
    (hnamed : envelope.fields.get? actionKey = some value) :
    envelope.toFlatTable = envelope.fields := by
  rw [toFlatTable, hsorted.ofList_cons, Table.contains, hnamed]
  rfl

theorem toFlatTable_of_consistent (hconsistent : envelope.Consistent) :
    envelope.toFlatTable = envelope.toTable := by
  rcases hconsistent with hunnamed | hnamed
  · exact toFlatTable_of_unnamed hsorted hunnamed
  · rw [toFlatTable_of_named hsorted hnamed, toTable, hsorted.insert_of_get?_eq_some hnamed]

/-- Two frames are the same only if the field says what the action says. -/
theorem consistent_of_frame_eq
    (hframe : (Value.object envelope.toTable).render = (Value.object envelope.toFlatTable).render) :
    envelope.Consistent := by
  cases hfound : envelope.fields.get? actionKey with
  | none => exact .inl hfound
  | some value =>
      obtain ⟨earlier, later, hfields, hinsert⟩ := hsorted.exists_split hfound
      have hwritten := String.ofList_injective hframe
      rw [toFlatTable_of_named hsorted hfound, toTable, hinsert, hfields] at hwritten
      have hvalue : value = .text envelope.action :=
        write_eq_writeText_iff.1 (write_of_write_object hwritten).symm
      exact .inr (hvalue ▸ hfound)

end

/-! ## The text with both -/

/-- The text with the action and all fields is parsed as the table of them. -/
theorem parse_toFlatJson {envelope : Envelope} (hexact : Value.ExactEntries envelope.fields)
    (hsound : Sound levelLimit (.object envelope.fields)) :
    parse envelope.toFlatJson = .ok (.object envelope.toFlatTable) := by
  obtain ⟨below, hlevels, hsorted, hfields⟩ := hsound.exists_tableOf
  have hexacts := Value.exactEntries_iff.1 hexact
  have hentries : ∀ entry ∈ (actionKey, Value.text envelope.action) :: envelope.fields,
      ReadsBack (readValue below) entry.2 :=
    List.forall_mem_cons.2 ⟨readValue_text below envelope.action, fun entry member =>
      readValue_write (hexacts entry member) (hfields entry member)⟩
  have hread := readValue_object hentries []
  rw [List.append_nil] at hread
  rw [parse, readAll, toFlatJson, Value.render, String.toList_ofList, hlevels, hread]
  rfl

/-- An envelope is written alike by all three exactly if no field contradicts its action: the
frames are the same text, and, without doubles and within 127 levels, the text that holds both is
parsed as the same envelope. -/
theorem encodings_agree_iff {envelope : Envelope}
    (hcanonical : (Value.object envelope.fields).Canonical) :
    ((Payload.ofEnvelope envelope).frame = (Payload.ofEnvelopeValue envelope).frame ↔
      envelope.Consistent) ∧
    (Value.ExactEntries envelope.fields → (Value.object envelope.fields).depth ≤ 127 →
      ((∃ read, ofJson envelope.toFlatJson = .ok read ∧ ofJson envelope.toJson = .ok read) ↔
        envelope.Consistent)) := by
  have hsorted := hcanonical.1
  constructor
  · constructor
    · intro hframe
      exact consistent_of_frame_eq hsorted hframe
    · intro hconsistent
      have hrender := congrArg (fun table => (Value.object table).render)
        (toFlatTable_of_consistent hsorted hconsistent)
      exact hrender.symm
  · intro hexact hdepth
    have hsound : Sound levelLimit (.object envelope.fields) := ⟨hcanonical, hdepth⟩
    have hflat : ofJson envelope.toFlatJson = ofTable envelope.toFlatTable := by
      simp only [ofJson, parse_toFlatJson hexact hsound, ofValue]
    have hjson := ofJson_toJson hsorted hexact
      (hsound.insert (sound_text envelope.action) actionKey)
    rw [hflat, hjson]
    constructor
    · rintro ⟨read, htable, hread⟩
      cases hread
      obtain ⟨haction, -⟩ := ofTable_eq_ok htable
      cases hfound : envelope.fields.get? actionKey with
      | none => exact .inl hfound
      | some value =>
          rw [toFlatTable_of_named hsorted hfound] at haction
          exact .inr haction
    · intro hconsistent
      refine ⟨_, ?_, rfl⟩
      rw [toFlatTable_of_consistent hsorted hconsistent]
      simp only [ofTable, get?_toTable_action, erase_toTable hsorted]

theorem contradicting_field_told_apart :
    let contradicting : Envelope := ⟨"Open", [("action", .text "Close"), ("id", .ofNat 7)]⟩
    let repeating : Envelope := ⟨"Open", [("action", .text "Open"), ("id", .ofNat 7)]⟩
    (Payload.ofEnvelope contradicting).frame ≠ (Payload.ofEnvelopeValue contradicting).frame ∧
      (¬ ∃ read, ofJson contradicting.toFlatJson = .ok read ∧
        ofJson contradicting.toJson = .ok read) ∧
      (Payload.ofEnvelope repeating).frame = (Payload.ofEnvelopeValue repeating).frame ∧
      ∃ read, ofJson repeating.toFlatJson = .ok read ∧ ofJson repeating.toJson = .ok read := by
  intro contradicting repeating
  have hsorted : Table.Sorted contradicting.fields ∧ Table.Sorted repeating.fields := by decide
  have hinconsistent : ¬ contradicting.Consistent := by
    rintro (hunnamed | hnamed)
    · exact absurd hunnamed (by decide)
    · exact absurd hnamed (by decide)
  have hconsistent : repeating.Consistent := .inr rfl
  have hcanonical : (Value.object contradicting.fields).Canonical :=
    ⟨hsorted.1, trivial, trivial, trivial⟩
  have hcanonicalSame : (Value.object repeating.fields).Canonical :=
    ⟨hsorted.2, trivial, trivial, trivial⟩
  obtain ⟨hframe, hparsed⟩ := encodings_agree_iff hcanonical
  obtain ⟨hframeSame, hparsedSame⟩ := encodings_agree_iff hcanonicalSame
  have hwithin := hparsed ⟨trivial, trivial, trivial⟩ (by decide)
  have hwithinSame := hparsedSame ⟨trivial, trivial, trivial⟩ (by decide)
  exact ⟨fun hsame => hinconsistent (hframe.1 hsame), fun hread => hinconsistent (hwithin.1 hread),
    hframeSame.2 hconsistent, hwithinSame.2 hconsistent⟩

end Lifeline.Envelope
