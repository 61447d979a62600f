import Lifeline.Json.Decode

/-!
# Envelopes

Every structured message is a Json object with a text field `action`; the other
fields are kept as they came.  An envelope may hold a field that is itself named
`action`, put there by its maker; `toJson` then writes the action alone, while
`toFlatJson` writes both, the action first.
-/

namespace Lifeline

open Json

inductive EnvelopeError
  | invalidJson (fault : Fault) (text : String)
  | notAnObject (found : Value)
  | missingAction
  | decode (complaint : Mismatch)
  | keyNotText

namespace EnvelopeError

/-- The kind of a value that is not an object, in a phrase. -/
def phrase : Value → String
  | .null => "null"
  | .boolean _ => "a boolean"
  | .number _ => "a number"
  | .text _ => "a string"
  | .array _ => "an array"
  | .object _ => "an object"

def message : EnvelopeError → String
  | .invalidJson fault text => "Invalid JSON: " ++ fault.message text.toList
  | .notAnObject found => "Expected a JSON object, got " ++ phrase found
  | .missingAction => "Missing string field `action`"
  | .decode complaint => "Failed to decode envelope: " ++ complaint.message
  | .keyNotText => "Failed to encode payload: " ++ Cause.keyNotText.message

end EnvelopeError

structure Envelope where
  action : String
  fields : Object
  deriving DecidableEq

namespace Envelope

def actionKey : String := "action"

def new (action : String) : Envelope := ⟨action, []⟩

/-- Adds a field or replaces it. -/
def withField (envelope : Envelope) (key : String) (value : Value) : Envelope :=
  { envelope with fields := envelope.fields.insert key value }

def get? (envelope : Envelope) (key : String) : Option Value := envelope.fields.get? key

/-- All fields and the action as one table; the action wins over a field of its name. -/
def toTable (envelope : Envelope) : Object :=
  envelope.fields.insert actionKey (.text envelope.action)

def toJson (envelope : Envelope) : String := (Value.object envelope.toTable).render

/-- The action and then the fields, all written even if a field is named `action`. -/
def toFlatJson (envelope : Envelope) : String :=
  (Value.object ((actionKey, .text envelope.action) :: envelope.fields)).render

/-- The action and then the fields stored one after the other; a field named
`action` wins. -/
def toFlatValue (envelope : Envelope) : Value :=
  .object (Table.ofList ((actionKey, .text envelope.action) :: envelope.fields))

/-- A one-line summary. -/
def summary (envelope : Envelope) : String :=
  "Envelope(action=" ++ envelope.action ++ ", fields=" ++ toString envelope.fields.length ++ ")"

def ofTable (entries : Object) : Except EnvelopeError Envelope :=
  match entries.get? actionKey with
  | some (.text action) => .ok ⟨action, entries.erase actionKey⟩
  | _ => .error .missingAction

def ofValue : Value → Except EnvelopeError Envelope
  | .object entries => ofTable entries
  | value => .error (.notAnObject value)

/-- Parses an envelope from its text. -/
def ofJson (text : String) : Except EnvelopeError Envelope :=
  match parse text with
  | .ok value => ofValue value
  | .error fault => .error (.invalidJson fault text)

/-- What is known of an envelope while its entries are read one by one. -/
structure Draft where
  action : Option String
  fields : Object

def readFlatEntry (draft : Draft) (key : String) : Reader Draft :=
  fun text =>
    if key = actionKey then
      match draft.action with
      | some _ => .error (.before (.mismatch (.duplicateField actionKey)) (passBrace text))
      | none => do
          let (action, rest) ← readScalar Scalar.text (← readColon text)
          .ok ({ draft with action := some action }, rest)
    else do
      let (fields, rest) ← storeEntry (readValue (levelLimit - 1)) draft.fields key text
      .ok ({ draft with fields := fields }, rest)

/-- Reads an envelope entry by entry, without building the object first; the
action may come only once. -/
def readFlat : Reader Envelope :=
  fun text => match skipGap text with
    | '{' :: rest => do
        let (draft, rest) ← readEntries readFlatEntry true (rest.length + 1) ⟨none, []⟩ rest
        match draft.action with
        | some action => .ok (⟨action, draft.fields⟩, ← closeObject rest)
        | none => .error (.before (.mismatch (.missingField actionKey)) (passBrace rest))
    | rest => readScalar (Scalar.never "struct Envelope") rest

def ofFlatJson (text : String) : Except Fault Envelope := readAll readFlat text.toList

/-- Decodes the whole envelope, its action included. -/
def decode {α : Type} (taker : Taker α) (envelope : Envelope) : Except EnvelopeError α :=
  match taker (.object envelope.toTable) with
  | .ok value => .ok value
  | .error complaint => .error (.decode complaint)

/-- An envelope as a decoding target: the entries without the action. -/
def take : Taker Envelope
  | .object entries => match Table.get? entries actionKey with
      | some value => do
          let action ← takeScalar Scalar.text value
          .ok ⟨action, Table.erase entries actionKey⟩
      | none => .error (.missingField actionKey)
  | value => .error (.wrongType value.found "struct Envelope")

end Envelope

end Lifeline
