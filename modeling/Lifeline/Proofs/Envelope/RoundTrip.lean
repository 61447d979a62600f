import Lifeline.Envelope.Basic
import Lifeline.Proofs.Json.Extent

/-!
# Envelopes read back

The text of an envelope is parsed as the envelope without a field named as the
action is (`ofJson_toJson`).  An envelope that came from a text has no such
field and nests no deeper than the reader may go, so it survives being written
and parsed once more (`ofJson_parsed`, `Parsed.ofJson_toJson`).  Where it holds
doubles, its action and the other fields survive if it can be parsed at all
(`Parsed.reread`).

Without doubles an envelope survives exactly if it has no such field and what is
written for it stays within the limit of levels (`survives_text_iff`).  Decoding
does not go through a text and knows no limit.
-/

namespace Lifeline.Envelope

open Json

/-- What holds of every envelope that came from a text. -/
structure Parsed (envelope : Envelope) : Prop where
  sound : Sound levelLimit (.object envelope.fields)
  unnamed : envelope.fields.get? actionKey = none

/-- An envelope without fields could have come from a text. -/
theorem parsed_new (action : String) : (Envelope.new action).Parsed where
  sound := sound_object_iff.2 tableOf_nil
  unnamed := rfl

theorem ofTable_eq_ok {entries : Object} {envelope : Envelope}
    (htable : ofTable entries = .ok envelope) :
    entries.get? actionKey = some (.text envelope.action) ∧
      envelope.fields = entries.erase actionKey := by
  unfold ofTable at htable
  split at htable
  · next action haction =>
      cases htable
      exact ⟨haction, rfl⟩
  · cases htable

theorem ofJson_eq_ok {raw : String} {envelope : Envelope} (hjson : ofJson raw = .ok envelope) :
    ∃ entries, parse raw = .ok (.object entries) ∧ ofTable entries = .ok envelope := by
  unfold ofJson at hjson
  split at hjson
  · next value hparse =>
      cases value with
      | object entries => exact ⟨entries, hparse, hjson⟩
      | _ => cases hjson
  · cases hjson

theorem ofJson_parsed {raw : String} {envelope : Envelope} (hjson : ofJson raw = .ok envelope) :
    Parsed envelope := by
  obtain ⟨entries, hparse, htable⟩ := ofJson_eq_ok hjson
  have hsound := parse_sound hparse
  obtain ⟨haction, hfields⟩ := ofTable_eq_ok htable
  constructor
  · rw [hfields]
    exact hsound.erase actionKey
  · rw [hfields, Table.get?_erase hsound.1.1, if_pos rfl]

theorem exactEntries_insert {entries : Object} (hentries : Value.ExactEntries entries)
    {value : Value} (hvalue : value.Exact) (key : String) :
    Value.ExactEntries (Table.insert entries key value) :=
  Value.exactEntries_iff.2 (Table.forall_insert hvalue (Value.exactEntries_iff.1 hentries) key)

theorem get?_toTable_action (envelope : Envelope) :
    envelope.toTable.get? actionKey = some (.text envelope.action) := by
  rw [toTable, Table.get?_insert, if_pos rfl]

theorem erase_toTable {envelope : Envelope} (hsorted : Table.Sorted envelope.fields) :
    envelope.toTable.erase actionKey = envelope.fields.erase actionKey :=
  hsorted.erase_insert actionKey _

/-- The text of an envelope is parsed as the envelope without a field named as the action is.
Such a field is not written, so it does not matter how deep it nests. -/
theorem ofJson_toJson {envelope : Envelope} (hsorted : Table.Sorted envelope.fields)
    (hexact : Value.ExactEntries envelope.fields)
    (hsound : Sound levelLimit (.object envelope.toTable)) :
    ofJson envelope.toJson = .ok ⟨envelope.action, envelope.fields.erase actionKey⟩ := by
  have hexactAction : (Value.text envelope.action).Exact := trivial
  have hparse : parse envelope.toJson = .ok (.object envelope.toTable) :=
    parse_render (exactEntries_insert hexact hexactAction actionKey) hsound
  simp only [ofJson, hparse, ofValue, ofTable, get?_toTable_action, erase_toTable hsorted]

/-- The text of an envelope is an object, which sets it apart from the reserved texts. -/
theorem toJson_ne (envelope : Envelope) {text : String} (hhead : text.toList.head? ≠ some '{') :
    envelope.toJson ≠ text := by
  rintro rfl
  apply hhead
  rw [toJson, Value.render, String.toList_ofList]
  rfl

namespace Parsed

variable {envelope : Envelope} (hparsed : Parsed envelope)

include hparsed

/-- An envelope that came from a text means the same when it is written again. -/
theorem ofJson_toJson (hexact : Value.ExactEntries envelope.fields) :
    ofJson envelope.toJson = .ok envelope := by
  have hsound := hparsed.sound.insert (sound_text envelope.action) actionKey
  rw [Envelope.ofJson_toJson hparsed.sound.1.1 hexact hsound,
    Table.erase_of_get?_eq_none hparsed.unnamed]

theorem withField {key : String} (hkey : key ≠ actionKey) {value : Value} (hvalue : Sound 0 value) :
    Parsed (envelope.withField key value) where
  sound := hparsed.sound.insert hvalue key
  unnamed := by
    rw [Envelope.withField, Table.get?_insert, if_neg (Ne.symm hkey), hparsed.unnamed]

/-- If the text of an envelope is parsed, its action and the fields without doubles are as they
were. -/
theorem reread {read : Envelope} (hjson : ofJson envelope.toJson = .ok read) :
    read.action = envelope.action ∧ ∀ key value, key ≠ actionKey →
      envelope.get? key = some value → value.Exact → read.get? key = some value := by
  obtain ⟨entries, hparse, htable⟩ := ofJson_eq_ok hjson
  obtain ⟨haction, hfields⟩ := ofTable_eq_ok htable
  have hsound := hparsed.sound.insert (sound_text envelope.action) actionKey
  obtain ⟨table, heq, hkept⟩ := parse_render_object hsound hparse
  obtain rfl : entries = table := by simpa using heq
  constructor
  · have hwritten := hkept actionKey (.text envelope.action)
      (by rw [Table.get?_insert, if_pos rfl]) trivial
    rw [haction] at hwritten
    simpa using hwritten
  · intro key value hkey hget hexact
    have hwritten := hkept key value (by rw [Table.get?_insert, if_neg hkey]; exact hget) hexact
    rw [Envelope.get?, hfields, Table.get?_erase (parse_sound hparse).1.1, if_neg hkey]
    exact hwritten

end Parsed

/-! ## What survives -/

theorem canonical_toTable {envelope : Envelope}
    (hcanonical : (Value.object envelope.fields).Canonical) :
    (Value.object envelope.toTable).Canonical := by
  have hentries := Value.canonicalEntries_iff.1 hcanonical.2
  have haction : (Value.text envelope.action).Canonical := trivial
  exact ⟨hcanonical.1.insert actionKey _,
    Value.canonicalEntries_iff.2 (Table.forall_insert haction hentries actionKey)⟩

/-- An object that reads as an envelope is the table of that envelope. -/
theorem toTable_of_ofTable {entries : Object} (hsorted : Table.Sorted entries) {envelope : Envelope}
    (htable : ofTable entries = .ok envelope) : envelope.toTable = entries := by
  obtain ⟨haction, hfields⟩ := ofTable_eq_ok htable
  rw [toTable, hfields]
  exact hsorted.insert_erase haction

/-- What was parsed nests within the limit, the action included. -/
theorem depth_toTable_of_ofJson {raw : String} {envelope : Envelope}
    (hjson : ofJson raw = .ok envelope) : (Value.object envelope.toTable).depth ≤ levelLimit := by
  obtain ⟨entries, hparse, htable⟩ := ofJson_eq_ok hjson
  have hsound := parse_sound hparse
  rw [toTable_of_ofTable hsound.1.1 htable]
  exact hsound.2

theorem decode_take {envelope : Envelope} (hsorted : Table.Sorted envelope.fields) :
    envelope.decode take = .ok ⟨envelope.action, envelope.fields.erase actionKey⟩ := by
  have htake : take (.object envelope.toTable) =
      .ok ⟨envelope.action, envelope.toTable.erase actionKey⟩ := by
    rw [take, get?_toTable_action]
    rfl
  rw [decode, htake, erase_toTable hsorted]

/-- An envelope without doubles survives being written and parsed exactly if no field is named as
the action is and at most 127 levels are open at once in what is written; within this limit only
such a field is lost.  Decoded, it is lost at any depth, and it alone. -/
theorem survives_text_iff {envelope : Envelope}
    (hcanonical : (Value.object envelope.fields).Canonical)
    (hexact : Value.ExactEntries envelope.fields) :
    (ofJson envelope.toJson = .ok envelope ↔
      envelope.fields.get? actionKey = none ∧ (Value.object envelope.toTable).depth ≤ 127) ∧
    ((Value.object envelope.toTable).depth ≤ 127 →
      ofJson envelope.toJson = .ok ⟨envelope.action, envelope.fields.erase actionKey⟩) ∧
    envelope.decode take = .ok ⟨envelope.action, envelope.fields.erase actionKey⟩ := by
  have hwithin : (Value.object envelope.toTable).depth ≤ 127 →
      ofJson envelope.toJson = .ok ⟨envelope.action, envelope.fields.erase actionKey⟩ :=
    fun hdepth => ofJson_toJson hcanonical.1 hexact ⟨canonical_toTable hcanonical, hdepth⟩
  refine ⟨⟨?_, ?_⟩, hwithin, decode_take hcanonical.1⟩
  · intro hjson
    exact ⟨(ofJson_parsed hjson).unnamed, depth_toTable_of_ofJson hjson⟩
  · rintro ⟨hunnamed, hdepth⟩
    rw [hwithin hdepth, Table.erase_of_get?_eq_none hunnamed]

/-- A field that is named as the action is does not survive; the envelope without it does. -/
theorem misnamed_field_lost :
    let envelope : Envelope :=
      ⟨"Op\"en\n", [("action", .array []), ("id", .ofNat 18446744073709551615)]⟩
    let kept : Envelope := ⟨"Op\"en\n", [("id", .ofNat 18446744073709551615)]⟩
    ofJson envelope.toJson ≠ .ok envelope ∧
      ofJson envelope.toJson = .ok kept ∧
      envelope.decode take = .ok kept ∧
      ofJson kept.toJson = .ok kept := by
  intro envelope kept
  have hsorted : Table.Sorted envelope.fields := by decide
  have hcanonical : (Value.object envelope.fields).Canonical :=
    ⟨hsorted, trivial, trivial, trivial⟩
  have hexact : Value.ExactEntries envelope.fields := ⟨trivial, trivial, trivial⟩
  have hcanonicalKept : (Value.object kept.fields).Canonical :=
    ⟨(Table.sorted_cons.1 hsorted).2, trivial, trivial⟩
  have hexactKept : Value.ExactEntries kept.fields := ⟨trivial, trivial⟩
  obtain ⟨hsurvives, hwithin, hdecode⟩ := survives_text_iff hcanonical hexact
  have hkept := (survives_text_iff hcanonicalKept hexactKept).1
  refine ⟨fun hsame => ?_, hwithin (by decide), hdecode, hkept.2 ⟨rfl, by decide⟩⟩
  exact absurd (hsurvives.1 hsame).1 (by decide)

end Lifeline.Envelope
