import Lifeline.Status.Severity

/-!
# Typed messages

The messages that handlers decode envelopes into, each with the record that
describes it and the text that shows its fields in the order of the record.
-/

namespace Lifeline.Message

open Json

/-- What the gateway says of a socket: its handle. -/
structure Peer where
  handle : Nat
  deriving DecidableEq

structure PeerDraft where
  handle : Option Nat

def Peer.record : Record Taker PeerDraft Peer where
  name := "Peer"
  closed := false
  blank := ⟨none⟩
  fields := [.ofTaker "handle" PeerDraft.handle
    (fun draft value => { draft with handle := some value }) (takeScalar Scalar.word64)]
  finish draft := match draft.handle with
    | none => .error "handle"
    | some handle => .ok ⟨handle⟩

/-- A record wants an object. -/
def takeObject {Draft α : Type} (record : Record Taker Draft α) : Taker α
  | .object entries => takeRecord record entries
  | value => .error (.wrongType value.found record.expectation)

def Peer.take : Taker Peer := takeObject Peer.record

def Peer.shown (peer : Peer) : Value := .object [("handle", .ofNat peer.handle)]

structure Closing where
  action : String
  id : Nat
  deriving DecidableEq

structure ClosingDraft where
  action : Option String
  id : Option Nat

def Closing.record : Record Taker ClosingDraft Closing where
  name := "Close"
  closed := false
  blank := ⟨none, none⟩
  fields := [
    .ofTaker "action" ClosingDraft.action (fun draft value => { draft with action := some value })
      (takeScalar Scalar.text),
    .ofTaker "id" ClosingDraft.id (fun draft value => { draft with id := some value })
      (takeScalar Scalar.word64)]
  finish draft := match draft.action, draft.id with
    | none, _ => .error "action"
    | _, none => .error "id"
    | some action, some id => .ok ⟨action, id⟩

def Closing.take : Taker Closing := takeObject Closing.record

def Closing.shown (closing : Closing) : Value :=
  .object [("action", .text closing.action), ("id", .ofNat closing.id)]

/-- A note that people write to each other. -/
structure Note where
  text : String
  sender : Option Int
  tags : List String
  bold : Bool
  deriving DecidableEq

structure NoteDraft where
  text : Option String
  sender : Option (Option Int)
  tags : Option (List String)
  bold : Option Bool

def int32 : Scalar Int := Scalar.whole "i32" (-2147483648) 2147483648

def Note.record : Record Taker NoteDraft Note where
  name := "Note"
  closed := false
  blank := ⟨none, none, none, none⟩
  fields := [
    .ofTaker "text" NoteDraft.text (fun draft value => { draft with text := some value })
      (takeScalar Scalar.text),
    .ofTaker "from" NoteDraft.sender (fun draft value => { draft with sender := some value })
      (takeOption (takeScalar int32)),
    .ofTaker "tags" NoteDraft.tags (fun draft value => { draft with tags := some value })
      (takeList (takeScalar Scalar.text)),
    .ofTaker "bold" NoteDraft.bold (fun draft value => { draft with bold := some value })
      (takeScalar Scalar.boolean)]
  finish draft := match draft.text with
    | none => .error "text"
    | some text => .ok ⟨text, draft.sender.getD none, draft.tags.getD [], draft.bold.getD false⟩

def Note.take : Taker Note := takeObject Note.record

def Note.shown (note : Note) : Value :=
  .object [("text", .text note.text),
    ("from", (note.sender.bind Value.whole?).getD .null),
    ("tags", .array (note.tags.map Value.text)),
    ("bold", .boolean note.bold)]

/-- A message with exactly its own fields. -/
structure Strict where
  action : String
  n : Int
  deriving DecidableEq

structure StrictDraft where
  action : Option String
  n : Option Int

def int8 : Scalar Int := Scalar.whole "i8" (-128) 128

def Strict.record : Record Taker StrictDraft Strict where
  name := "Strict"
  closed := true
  blank := ⟨none, none⟩
  fields := [
    .ofTaker "action" StrictDraft.action (fun draft value => { draft with action := some value })
      (takeScalar Scalar.text),
    .ofTaker "n" StrictDraft.n (fun draft value => { draft with n := some value })
      (takeScalar int8)]
  finish draft := match draft.action, draft.n with
    | none, _ => .error "action"
    | _, none => .error "n"
    | some action, some n => .ok ⟨action, n⟩

def Strict.take : Taker Strict := takeObject Strict.record

def Strict.shown (strict : Strict) : Value :=
  .object [("action", .text strict.action), ("n", (Value.whole? strict.n).getD .null)]

structure Leveled where
  severity : Severity
  deriving DecidableEq

structure LeveledDraft where
  severity : Option Severity

def Leveled.record : Record Taker LeveledDraft Leveled where
  name := "Leveled"
  closed := false
  blank := ⟨none⟩
  fields := [.ofTaker "severity" LeveledDraft.severity
    (fun draft value => { draft with severity := some value }) Severity.take]
  finish draft := match draft.severity with
    | none => .error "severity"
    | some severity => .ok ⟨severity⟩

def Leveled.take : Taker Leveled := takeObject Leveled.record

def Leveled.shown (leveled : Leveled) : Value :=
  .object [("severity", .text leveled.severity.word)]

/-- An object all of whose values are texts. -/
def takeTexts : Taker (List (String × String))
  | .object entries => entries.mapM fun entry => do
      let text ← takeScalar Scalar.text entry.2
      .ok (entry.1, text)
  | value => .error (.wrongType value.found "a map")

def shownTexts (texts : List (String × String)) : Value :=
  .object (texts.map fun entry => (entry.1, .text entry.2))

/-- A list of any values. -/
def takeValues : Taker (List Value) := takeList .ok

end Lifeline.Message
