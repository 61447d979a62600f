import Lifeline.Json.Skip

/-!
# Typed values

A scalar of the right type is recognised in the same way whether it comes from a
text or from a value.  A record is described once, by its fields and a draft
that they fill in; it is then read from a text, in the order in which the fields
stand there, or taken from a value, in the order of the keys.  A field that
never came is for the draft's completion to supply or to report.
-/

namespace Lifeline.Json

abbrev Scalar (α : Type) := Found → Except Mismatch α

namespace Scalar

def text : Scalar String
  | .text value => .ok value
  | found => .error (.wrongType found "a string")

def boolean : Scalar Bool
  | .boolean value => .ok value
  | found => .error (.wrongType found "a boolean")

/-- A whole number between two bounds, the upper one left out. -/
def whole (name : String) (least beyond : Int) : Scalar Int
  | .number (.whole value fits) =>
      if least ≤ value ∧ value < beyond then .ok value
      else .error (.wrongValue (.number (.whole value fits)) name)
  | found => .error (.wrongType found name)

/-- A count below a bound. -/
def count (name : String) (beyond : Nat) : Scalar Nat :=
  fun found => (whole name 0 beyond found).map Int.toNat

def word16 : Scalar Nat := count "u16" Decimal.beyond16

def word64 : Scalar Nat := count "u64" Decimal.beyond64

def unit : Scalar Unit
  | .null => .ok ()
  | found => .error (.wrongType found "unit")

/-- The wrong type, whatever was found. -/
def never {α : Type} (expected : String) : Scalar α :=
  fun found => .error (.wrongType found expected)

end Scalar

/-- Recognises what stands at the beginning of a text that is not blank.  Of a
list or an object only the opening bracket is looked at, and it is left to read. -/
def readFound : Reader Found
  | [] => .error (.on .endInValue [])
  | '[' :: rest => .ok (.sequence, '[' :: rest)
  | '{' :: rest => .ok (.map, '{' :: rest)
  | text => do
      let (value, rest) ← readValue 0 text
      .ok (value.found, rest)

def readScalar {α : Type} (scalar : Scalar α) : Reader α :=
  fun text => do
    let (found, rest) ← readFound (skipGap text)
    match scalar found with
    | .ok value => .ok (value, rest)
    | .error complaint => .error (.before (.mismatch complaint) rest)

/-- A word out of a list, or an object with such a word as its only key and null
as its value. -/
def readChoice {α : Type} (choices : List (String × α)) : Reader α :=
  let choose (found : Found) : Except Mismatch α :=
    match found with
    | .text name => match choices.lookup name with
        | some choice => .ok choice
        | none => .error (.unknownVariant name (choices.map Prod.fst))
    | found => .error (.wrongType found "variant identifier")
  fun text => match skipGap text with
    | [] => .error (.on .endInValue [])
    | '"' :: rest => readScalar choose ('"' :: rest)
    | '{' :: rest => match skipGap rest with
        | [] => .error (.on .endInObject [])
        | '"' :: rest => do
            let (choice, rest) ← readScalar choose ('"' :: rest)
            let rest ← readColon rest
            let ((), rest) ← readScalar Scalar.unit rest
            match skipGap rest with
            | [] => .error (.before .endInObject [])
            | '}' :: rest => .ok (choice, rest)
            | rest => .error (.before .expectedValue rest)
        | '}' :: rest => .error (.on .expectedValue ('}' :: rest))
        | rest => .error (.on .keyNotText rest)
    | rest => .error (.on .expectedValue rest)

/-- The same for a value. -/
def chooseFrom {α : Type} (choices : List (String × α)) (value : Value) : Except Mismatch α :=
  let named (name : String) : Except Mismatch α :=
    match choices.lookup name with
    | some choice => .ok choice
    | none => .error (.unknownVariant name (choices.map Prod.fst))
  match value with
  | .text name => named name
  | .object [(name, inner)] => do
      let choice ← named name
      Scalar.unit inner.found
      .ok choice
  | .object _ => .error (.wrongValue .map "map with a single key")
  | value => .error (.wrongType value.found "string or map")

/-- One field of a record: `read` fills it in, by a reader or from a value. -/
structure Field (M : Type → Type) (Draft : Type) where
  name : String
  isSet : Draft → Bool
  read : Draft → M Draft

/-- A record under construction is a `Draft`; `finish` completes it, or names
the first field that is missing. -/
structure Record (M : Type → Type) (Draft α : Type) where
  name : String
  fields : List (Field M Draft)
  closed : Bool
  blank : Draft
  finish : Draft → Except String α

namespace Record

variable {M : Type → Type} {Draft α : Type}

def fieldNames (record : Record M Draft α) : List String := record.fields.map Field.name

def field? (record : Record M Draft α) (name : String) : Option (Field M Draft) :=
  record.fields.find? (·.name == name)

def expectation (record : Record M Draft α) : String := "struct " ++ record.name

end Record

/-- A field of a draft with a reader for its value. -/
def Field.ofReader {Draft β : Type} (name : String) (get : Draft → Option β)
    (set : Draft → β → Draft) (reader : Reader β) : Field Reader Draft where
  name := name
  isSet draft := (get draft).isSome
  read draft := fun text => do
    let (value, rest) ← reader text
    .ok (set draft value, rest)

/-- After a fault inside an object: the closing brace is passed if it is next. -/
def passBrace (text : List Char) : List Char :=
  match skipGap text with
  | '}' :: rest => rest
  | rest => rest

/-- After a fault inside a list: the closing bracket, or a comma, is passed if it is next. -/
def passBracket (text : List Char) : List Char :=
  match skipGap text with
  | ']' :: rest => rest
  | ',' :: rest => skipGap rest
  | rest => rest

/-- Reads the value of one key of a record into the draft. -/
def readField {Draft α : Type} (record : Record Reader Draft α) (draft : Draft) (key : String) :
    Reader Draft :=
  fun text => match record.field? key with
    | some field =>
        if field.isSet draft then
          .error (.before (.mismatch (.duplicateField key)) (passBrace text))
        else do field.read draft (← readColon text)
    | none =>
        if record.closed then
          .error (.before (.mismatch (.unknownField key record.fieldNames)) (passBrace text))
        else do .ok (draft, ← skipValue (← readColon text))

/-- Reads the items of a list into the fields of a record, in their order. -/
def readFieldsInOrder {Draft : Type} (first : Bool) (fields : List (Field Reader Draft))
    (draft : Draft) : Reader Draft :=
  fun text => match fields with
    | [] => .ok (draft, text)
    | field :: others => do
        match ← nextItem first text with
        | (false, rest) => .ok (draft, rest)
        | (true, rest) =>
            let (draft, rest) ← field.read draft rest
            readFieldsInOrder false others draft rest

/-- A record is an object with its fields in any order, or a list with their
values in the order of the record. -/
def readRecord {Draft α : Type} (record : Record Reader Draft α) : Reader α :=
  fun text => match skipGap text with
    | '{' :: rest => do
        let (draft, rest) ←
          readEntries (readField record) true (rest.length + 1) record.blank rest
        match record.finish draft with
        | .ok value => .ok (value, ← closeObject rest)
        | .error name => .error (.before (.mismatch (.missingField name)) (passBrace rest))
    | '[' :: rest => do
        let (draft, rest) ← readFieldsInOrder true record.fields record.blank rest
        match record.finish draft with
        | .ok value => .ok (value, ← closeList rest)
        | .error name =>
            let expected :=
              record.expectation ++ " with " ++ toString record.fields.length ++ " elements"
            .error (.before (.mismatch (.wrongLength (record.fieldNames.idxOf name) expected))
              (passBracket rest))
    | rest => readScalar (Scalar.never record.expectation) rest

abbrev Taker (α : Type) := Value → Except Mismatch α

def Field.ofTaker {Draft β : Type} (name : String) (get : Draft → Option β)
    (set : Draft → β → Draft) (taker : Taker β) : Field Taker Draft where
  name := name
  isSet draft := (get draft).isSome
  read draft value := (taker value).map (set draft)

/-- Takes the value of one key of a record into the draft. -/
def takeField {Draft α : Type} (record : Record Taker Draft α) (draft : Draft)
    (entry : String × Value) : Except Mismatch Draft :=
  match record.field? entry.1 with
  | some field => field.read draft entry.2
  | none =>
      if record.closed then .error (.unknownField entry.1 record.fieldNames) else .ok draft

/-- Takes a record from the entries of an object; the first complaint in the
order of the keys wins, and only then are missing fields looked for. -/
def takeRecord {Draft α : Type} (record : Record Taker Draft α) (entries : Object) :
    Except Mismatch α := do
  let draft ← entries.foldlM (takeField record) record.blank
  match record.finish draft with
  | .ok value => .ok value
  | .error name => .error (.missingField name)

/-- A scalar of a value. -/
def takeScalar {α : Type} (scalar : Scalar α) : Taker α := fun value => scalar value.found

def takeList {α : Type} (taker : Taker α) : Taker (List α)
  | .array items => items.mapM taker
  | value => .error (.wrongType value.found "a sequence")

/-- Null stands for nothing. -/
def takeOption {α : Type} (taker : Taker α) : Taker (Option α)
  | .null => .ok none
  | value => (taker value).map some

end Lifeline.Json
