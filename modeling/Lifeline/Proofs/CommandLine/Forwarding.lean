import Lifeline.CommandLine.Forwarder
import Lifeline.Proofs.Connection.Sends
import Lifeline.Proofs.Envelope.RoundTrip

/-!
# What becomes of lines

A line that is not blank is sent once, in its turn, and its frame carries it:
what is no Json becomes the text of a note, a quoted text goes out without its
quotes, and any other value is read back from its frame
(`Forward.carries_payloadOf`).  A forwarder reads its lines from the front and
loses none of them (`run_reads`), comes to their end if it turns to its input
often enough (`run_finishes`), and asks its connection for nothing else
(`sendsAsked_lived`), which takes the calls in their order.
-/

namespace Lifeline

open Json

/-! ## What a frame carries -/

namespace Forward

/-- The frame says what the line says. -/
structure Carries (line frame : String) : Prop where
  /-- What is no Json is the text of a note that holds nothing else. -/
  note : (∀ value, Json.parse line ≠ .ok value) →
    Envelope.ofJson frame = .ok ⟨"Note", [("text", .text line)]⟩
  content : ∀ content, Json.parse line = .ok (.text content) → frame = content
  value : ∀ value, Json.parse line = .ok value → (∀ content, value ≠ .text content) →
    value.Exact → Json.parse frame = .ok value

theorem ofJson_note (line : String) :
    Envelope.ofJson ((Envelope.new noteAction).withField textKey (.text line)).toJson =
      .ok ⟨"Note", [("text", .text line)]⟩ := by
  have hparsed : ((Envelope.new noteAction).withField textKey (.text line)).Parsed :=
    (Envelope.parsed_new noteAction).withField (by decide) (sound_text line)
  exact hparsed.ofJson_toJson ⟨trivial, trivial⟩

theorem frame_json {value : Value} (hvalue : ∀ content, value ≠ .text content) :
    (Payload.json value).frame = value.render := by
  cases value with
  | text content => exact absurd rfl (hvalue content)
  | _ => rfl

theorem payloadOf_json {line : String} {value : Value} (hparse : Json.parse line = .ok value) :
    payloadOf line = .json value := by
  rw [payloadOf, hparse]

theorem payloadOf_note {line : String} (hinvalid : ∀ value, Json.parse line ≠ .ok value) :
    payloadOf line = .ofEnvelope ((Envelope.new noteAction).withField textKey (.text line)) := by
  rw [payloadOf]
  cases hparse : Json.parse line with
  | ok value => exact absurd hparse (hinvalid value)
  | error fault => rfl

/-- What a line is sent as carries it. -/
theorem carries_payloadOf (line : String) : Carries line (payloadOf line).frame where
  note := by
    intro hinvalid
    rw [payloadOf_note hinvalid]
    exact ofJson_note line
  content := by
    intro content hparse
    rw [payloadOf_json hparse]
    rfl
  value := by
    intro value hparse hvalue hexact
    rw [payloadOf_json hparse, frame_json hvalue]
    exact parse_render hexact (parse_sound hparse)

theorem payload?_eq (line : String) :
    payload? line =
      if Text.trimmed line = "" then none else some (payloadOf (Text.trimmed line)) := by
  simp [payload?]

/-- Each line that is not blank has one payload, whose frame carries it. -/
theorem carries_payloads (lines : List String) :
    List.Forall₂ (fun line payload => Carries (Text.trimmed line) payload.frame)
      (lines.filter (Text.trimmed · ≠ "")) (payloads lines) := by
  induction lines with
  | nil => exact .nil
  | cons line lines ih =>
      have hpayload := payload?_eq line
      rw [payloads] at ih ⊢
      by_cases hblank : Text.trimmed line = ""
      · rw [if_pos hblank] at hpayload
        rw [List.filterMap_cons_none hpayload, List.filter_cons_of_neg (by simp [hblank])]
        exact ih
      · rw [if_neg hblank] at hpayload
        rw [List.filterMap_cons_some hpayload, List.filter_cons_of_pos (by simp [hblank])]
        exact .cons (carries_payloadOf _) ih

end Forward

namespace Forwarder

open Connection (Mailbox)

variable {H : Type}

/-! ## Turns of a forwarder -/

/-- The calls to send, with their payloads and answers. -/
def callsIn (effects : List (Effect H)) : List (Payload × Except ClientError Unit) :=
  effects.filterMap fun
    | .sent payload answer => some (payload, answer)
    | _ => none

theorem callsIn_append (earlier later : List (Effect H)) :
    callsIn (earlier ++ later) = callsIn earlier ++ callsIn later :=
  List.filterMap_append

theorem callsIn_noticed (notices : List (Mailbox.Notice H)) :
    callsIn (notices.map Effect.noticed) = [] := by
  simp [callsIn]

theorem callsIn_submit (payload : Payload) (forwarder : Forwarder) :
    callsIn (submit (H := H) payload forwarder).2 =
      [(payload, forwarder.mailbox.state.requestAnswer)] := by
  rw [submit, callsIn_append]
  split <;> rfl

/-- What an event leads to.  Only a forwarder that has not ended turns to its input. -/
inductive Turn (setup : Setup H) (forwarder : Forwarder) :
    Event → Forwarder × List (Effect H) → Prop
  | aside (event : Mailbox.Event) : Turn setup forwarder (.aside event)
      ({ forwarder with mailbox := (Mailbox.react setup event forwarder.mailbox).1 },
        (Mailbox.react setup event forwarder.mailbox).2.map .noticed)
  | idle (event : Event) (hevent : ∀ other, event ≠ .aside other)
      (hended : forwarder.ended ≠ none) : Turn setup forwarder event (forwarder, [])
  | failed (reason : String) (hreading : forwarder.ended = none) :
      Turn setup forwarder (.fail reason)
        ({ forwarder with ended := some (.error (.unreadable reason)) }, [])
  | finished (hreading : forwarder.ended = none) (hlines : forwarder.lines = []) :
      Turn setup forwarder .read ({ forwarder with ended := some (.ok ()) }, [])
  | skipped (line : String) (rest : List String) (hreading : forwarder.ended = none)
      (hlines : forwarder.lines = line :: rest) (hblank : Forward.payload? line = none) :
      Turn setup forwarder .read ({ forwarder with lines := rest }, [])
  | submitted (line : String) (rest : List String) (payload : Payload)
      (hreading : forwarder.ended = none) (hlines : forwarder.lines = line :: rest)
      (hpayload : Forward.payload? line = some payload) :
      Turn setup forwarder .read (submit payload { forwarder with lines := rest })

theorem readLine_turn (setup : Setup H) {forwarder : Forwarder}
    (hreading : forwarder.ended = none) :
    Turn setup forwarder .read (readLine forwarder) := by
  unfold readLine
  split
  · next hlines => exact .finished hreading hlines
  · next line rest hlines =>
      split
      · next hblank => exact .skipped line rest hreading hlines hblank
      · next payload hpayload => exact .submitted line rest payload hreading hlines hpayload

theorem step_turn (setup : Setup H) (event : Event) (forwarder : Forwarder) :
    Turn setup forwarder event (step setup event forwarder) := by
  cases event with
  | aside event => exact .aside event
  | read =>
      cases hended : forwarder.ended with
      | none =>
          have hstep : step setup .read forwarder = readLine forwarder := by simp [step, hended]
          exact hstep ▸ readLine_turn setup hended
      | some result =>
          have hstep : step setup .read forwarder = (forwarder, []) := by simp [step, hended]
          exact hstep ▸ .idle .read nofun (by simp [hended])
  | fail reason =>
      cases hended : forwarder.ended with
      | none =>
          have hstep : step setup (.fail reason) forwarder =
              ({ forwarder with ended := some (.error (.unreadable reason)) }, []) := by
            simp [step, hended]
          exact hstep ▸ .failed reason hended
      | some result =>
          have hstep : step setup (.fail reason) forwarder = (forwarder, []) := by
            simp [step, hended]
          exact hstep ▸ .idle (.fail reason) nofun (by simp [hended])

section Turns

variable {setup : Setup H} {forwarder : Forwarder} {event : Event}
  {outcome : Forwarder × List (Effect H)}

/-- The lines that a turn takes have one call each, unless they are blank. -/
theorem Turn.reads (hturn : Turn setup forwarder event outcome) :
    ∃ read, forwarder.lines = read ++ outcome.1.lines ∧
      (callsIn outcome.2).map (·.1) = Forward.payloads read := by
  cases hturn with
  | aside event => exact ⟨[], rfl, by rw [callsIn_noticed]; rfl⟩
  | idle | failed | finished => exact ⟨[], rfl, rfl⟩
  | skipped line rest _ hlines hblank =>
      exact ⟨[line], hlines, by simp [Forward.payloads, hblank, callsIn]⟩
  | submitted line rest payload _ hlines hpayload =>
      exact ⟨[line], hlines, by simp [Forward.payloads, hpayload, callsIn_submit]⟩

theorem Turn.running (hturn : Turn setup forwarder event outcome)
    (hgoes : outcome.1.mailbox.state.stopped = false) :
    forwarder.mailbox.state.stopped = false := by
  cases hturn with
  | aside event => exact Mailbox.running_of_react hgoes
  | _ => exact hgoes

/-- A connection that goes on refuses nothing. -/
theorem Turn.granted (hturn : Turn setup forwarder event outcome)
    (hgoes : outcome.1.mailbox.state.stopped = false) :
    ∀ call ∈ callsIn outcome.2, call.2 = .ok () := by
  have hanswer : forwarder.mailbox.state.requestAnswer = .ok () :=
    if_neg (by simp [hturn.running hgoes])
  cases hturn with
  | aside event => simp [callsIn_noticed]
  | submitted line rest payload =>
      rw [callsIn_submit]
      simpa using hanswer
  | _ => exact List.forall_mem_nil _

end Turns

/-! ## Runs of a forwarder -/

section Runs

variable (setup : Setup H)

theorem run_cons (event : Event) (events : List Event) (forwarder : Forwarder) :
    run setup (event :: events) forwarder =
      ((step setup event).andThen (run setup events)) forwarder := rfl

/-- What was read is gone from the front of the lines, and has its calls. -/
theorem run_reads (events : List Event) (forwarder : Forwarder) :
    ∃ read, forwarder.lines = read ++ (run setup events forwarder).1.lines ∧
      (callsIn (run setup events forwarder).2).map (·.1) = Forward.payloads read := by
  induction events generalizing forwarder with
  | nil => exact ⟨[], rfl, rfl⟩
  | cons event events ih =>
      obtain ⟨first, hfirst, hcalls⟩ := (step_turn setup event forwarder).reads
      obtain ⟨later, hlater, hothers⟩ := ih (step setup event forwarder).1
      refine ⟨first ++ later, ?_, ?_⟩
      · rw [hfirst, hlater, List.append_assoc]
        rfl
      · rw [run_cons, Transition.andThen, callsIn_append, List.map_append, hcalls, hothers]
        exact (List.filterMap_append ..).symm

variable {setup}

theorem running_of_run {events : List Event} {forwarder : Forwarder}
    (hgoes : (run setup events forwarder).1.mailbox.state.stopped = false) :
    forwarder.mailbox.state.stopped = false := by
  induction events generalizing forwarder with
  | nil => exact hgoes
  | cons event events ih => exact (step_turn setup event forwarder).running (ih hgoes)

theorem run_granted {events : List Event} {forwarder : Forwarder}
    (hgoes : (run setup events forwarder).1.mailbox.state.stopped = false) :
    ∀ call ∈ callsIn (run setup events forwarder).2, call.2 = .ok () := by
  induction events generalizing forwarder with
  | nil => exact List.forall_mem_nil _
  | cons event events ih =>
      rw [run_cons, Transition.andThen, callsIn_append, List.forall_mem_append]
      exact ⟨(step_turn setup event forwarder).granted (running_of_run hgoes), ih hgoes⟩

/-- Nothing is read any more. -/
theorem run_ended (setup : Setup H) (events : List Event) {forwarder : Forwarder}
    (hended : forwarder.ended ≠ none) :
    (run setup events forwarder).1.lines = forwarder.lines ∧
      (run setup events forwarder).1.ended = forwarder.ended := by
  induction events generalizing forwarder with
  | nil => exact ⟨rfl, rfl⟩
  | cons event events ih =>
      have hsame : (step setup event forwarder).1.lines = forwarder.lines ∧
          (step setup event forwarder).1.ended = forwarder.ended := by
        have hturn := step_turn setup event forwarder
        generalize step setup event forwarder = outcome at hturn ⊢
        cases hturn with
        | aside | idle => exact ⟨rfl, rfl⟩
        | failed _ hreading => exact absurd hreading hended
        | finished hreading => exact absurd hreading hended
        | skipped _ _ hreading => exact absurd hreading hended
        | submitted _ _ _ hreading => exact absurd hreading hended
      obtain ⟨hlines, hend⟩ := ih (hsame.2 ▸ hended)
      exact ⟨hlines.trans hsame.1, hend.trans hsame.2⟩

/-- A forwarder that turns to its input more often than there are lines comes to their end, if the
input does not fail and the connection goes on. -/
theorem run_finishes {events : List Event} (hintact : ∀ reason, .fail reason ∉ events)
    {forwarder : Forwarder} (hreading : forwarder.ended = none)
    (hoften : forwarder.lines.length < events.count .read)
    (hgoes : (run setup events forwarder).1.mailbox.state.stopped = false) :
    (run setup events forwarder).1.lines = [] ∧
      (run setup events forwarder).1.ended = some (.ok ()) := by
  induction events generalizing forwarder with
  | nil => exact absurd hoften (Nat.not_lt_zero _)
  | cons event events ih =>
      have hrest : ∀ reason, .fail reason ∉ events := fun reason hmem =>
        hintact reason (List.mem_cons_of_mem _ hmem)
      have hturn := step_turn setup event forwarder
      rw [run_cons, Transition.andThen] at hgoes ⊢
      dsimp only at hgoes ⊢
      have hrunning := hturn.running (running_of_run hgoes)
      generalize step setup event forwarder = outcome at hturn hgoes ⊢
      -- what is left to read shrinks with each turn to the input, and so does the number of turns
      cases hturn with
      | aside event => exact ih hrest hreading (by simpa using hoften) hgoes
      | idle _ _ hended => exact absurd hreading hended
      | failed reason => exact absurd List.mem_cons_self (hintact reason)
      | finished _ hlines =>
          have hended : { forwarder with ended := some (.ok ()) }.ended ≠ none := by simp
          obtain ⟨hleft, hend⟩ := run_ended setup events hended
          exact ⟨hleft.trans hlines, hend⟩
      | skipped line rest _ hlines =>
          rw [hlines] at hoften
          exact ih hrest hreading (by simpa using hoften) hgoes
      | submitted line rest payload _ hlines =>
          rw [hlines] at hoften
          have hgranted :
              (submit (H := H) payload { forwarder with lines := rest }).1.ended = none := by
            simp [submit, Connection.State.requestAnswer, hrunning, endOf]
          exact ih hrest hgranted (by simpa [submit] using hoften) hgoes

end Runs

/-! ## The connection of a forwarder -/

/-- What the connection gets to see of an event that has some effects. -/
def posts (forwarder : Forwarder) (effects : List (Effect H)) : Event → List Mailbox.Event
  | .aside event => [event]
  | _ => (callsIn effects).map fun call => .ask ⟨forwarder.calls, .send call.1⟩

/-- What the connection lives through in a run. -/
def lived (setup : Setup H) : Forwarder → List Event → List Mailbox.Event
  | _, [] => []
  | forwarder, event :: events =>
      posts forwarder (step setup event forwarder).2 event ++
        lived setup (step setup event forwarder).1 events

theorem sendsAsked_asks (number : Nat) (calls : List (Payload × Except ClientError Unit)) :
    Mailbox.sendsAsked (calls.map fun call => .ask ⟨number, .send call.1⟩) = calls.map (·.1) := by
  induction calls with
  | nil => rfl
  | cons call calls ih => exact congrArg (call.1 :: ·) ih

section Turns

variable {setup : Setup H} {forwarder : Forwarder} {event : Event}
  {outcome : Forwarder × List (Effect H)}

theorem posts_eq_nil (hevent : ∀ other, event ≠ .aside other) :
    posts (H := H) forwarder [] event = [] := by
  cases event with
  | aside other => exact absurd rfl (hevent other)
  | _ => rfl

theorem Turn.mailbox_eq (hturn : Turn setup forwarder event outcome) :
    outcome.1.mailbox =
      (Mailbox.run setup (posts forwarder outcome.2 event) forwarder.mailbox).1 := by
  cases hturn with
  | idle _ hevent =>
      rw [posts_eq_nil hevent]
      rfl
  | submitted line rest payload =>
      rw [posts, callsIn_submit]
      · rfl
      · exact nofun
  | _ => rfl

/-- Where nobody else asks to send something, the calls are all that is asked. -/
theorem Turn.sendsAsked_posts (hturn : Turn setup forwarder event outcome)
    (hothers : ∀ call payload, event ≠ .aside (.ask ⟨call, .send payload⟩)) :
    Mailbox.sendsAsked (posts forwarder outcome.2 event) = (callsIn outcome.2).map (·.1) := by
  cases event with
  | aside event =>
      cases hturn with
      | idle _ hevent => exact absurd rfl (hevent event)
      | aside =>
          rw [callsIn_noticed]
          cases event with
          | ask letter =>
              obtain ⟨call, request⟩ := letter
              cases request with
              | send payload => exact absurd rfl (hothers call payload)
              | reconnect | close => rfl
          | _ => rfl
  | read | fail => exact sendsAsked_asks _ _

end Turns

theorem run_mailbox (setup : Setup H) (events : List Event) (forwarder : Forwarder) :
    (run setup events forwarder).1.mailbox =
      (Mailbox.run setup (lived setup forwarder events) forwarder.mailbox).1 := by
  induction events generalizing forwarder with
  | nil => rfl
  | cons event events ih =>
      have hfirst := (step_turn setup event forwarder).mailbox_eq
      rw [lived, Mailbox.run_append, Transition.andThen, ← hfirst]
      exact ih _

theorem sendsAsked_lived (setup : Setup H) {events : List Event}
    (hothers : ∀ call payload, .aside (.ask ⟨call, .send payload⟩) ∉ events)
    (forwarder : Forwarder) :
    Mailbox.sendsAsked (lived setup forwarder events) =
      (callsIn (run setup events forwarder).2).map (·.1) := by
  induction events generalizing forwarder with
  | nil => rfl
  | cons event events ih =>
      have hfirst : ∀ call payload, event ≠ .aside (.ask ⟨call, .send payload⟩) := by
        rintro call payload rfl
        exact hothers call payload List.mem_cons_self
      have hrest : ∀ call payload, .aside (.ask ⟨call, .send payload⟩) ∉ events :=
        fun call payload hmem => hothers call payload (List.mem_cons_of_mem _ hmem)
      have hposts := (step_turn setup event forwarder).sendsAsked_posts hfirst
      rw [lived, Mailbox.sendsAsked_append, hposts, ih hrest, run_cons, Transition.andThen,
        callsIn_append, List.map_append]

/-! ## Lines and calls -/

/-- The call is granted, and what it sends carries the line. -/
def Sends (line : String) (call : Payload × Except ClientError Unit) : Prop :=
  call.2 = .ok () ∧ Forward.Carries (Text.trimmed line) call.1.frame

/-- As long as the connection goes on, each line that was read and is not blank has been sent once,
in its turn, by a call that was granted and whose frame carries the line.  All lines have been read
once the forwarder has turned to its input more often than there are lines, unless the input has
failed.  What the connection has taken to send, and then what is still queued, is what was queued at
first and what the calls handed over, if nobody else asks it to send anything. -/
theorem lines_sent_once (setup : Setup H) (mailbox : Mailbox) (lines : List String)
    (events : List Event)
    (hopen : (run setup events (start mailbox lines)).1.mailbox.state.stopped = false) :
    let outcome := run setup events (start mailbox lines)
    let calls := callsIn outcome.2
    let life := lived setup (start mailbox lines) events
    (∃ read, lines = read ++ outcome.1.lines ∧
      List.Forall₂ Sends (read.filter (Text.trimmed · ≠ "")) calls) ∧
      ((∀ reason, .fail reason ∉ events) → lines.length < events.count .read →
        outcome.1.lines = [] ∧ outcome.1.ended = some (.ok ())) ∧
      outcome.1.mailbox = (Mailbox.run setup life mailbox).1 ∧
      ((∀ call payload, .aside (.ask ⟨call, .send payload⟩) ∉ events) →
        Mailbox.sendsTaken (Mailbox.stimuli setup mailbox life) ++
            Mailbox.sendsIn outcome.1.mailbox.queue =
          Mailbox.sendsIn mailbox.queue ++ calls.map (·.1)) := by
  intro outcome calls life
  have hlife : outcome.1.mailbox = (Mailbox.run setup life mailbox).1 :=
    run_mailbox setup events (start mailbox lines)
  refine ⟨?_, ?_, hlife, ?_⟩
  · obtain ⟨read, hread, hcalls⟩ := run_reads setup events (start mailbox lines)
    have hcarried := Forward.carries_payloads read
    rw [← hcalls, List.forall₂_map_right_iff] at hcarried
    refine ⟨read, hread, List.Forall₂.flip ?_⟩
    exact (List.forall₂_and_left _ _).2 ⟨run_granted hopen, hcarried.flip⟩
  · intro hintact hoften
    exact run_finishes hintact rfl hoften hopen
  · intro hothers
    rw [hlife]
    have hgoes : (Mailbox.run setup life mailbox).1.state.stopped = false := hlife ▸ hopen
    rw [Mailbox.sends_accounted setup life hgoes, sendsAsked_lived setup hothers]

/-- A value, a blank line, a text and something that is no Json. -/
def typed : List String :=
  ["\xa0\x7b\"b\": 1, \"a\": [2], \"b\": 3\x7d\t", " \u3000", "\"quo\\ted\"", "say \"hi\""]

/-- The link is open after the first line, and the last call has not been taken at the end. -/
def typing : List Event :=
  [.read, .aside (.take 5 true), .aside (.occur 10 true (.report ⟨1, .opened⟩)), .read, .read,
    .aside (.take 20 true), .read, .read]

def rehearsed : Setup Empty := Connection.Setup.bare ⟨25000, 5000, 2000⟩

def unsent : Mailbox := (Mailbox.opening rehearsed 0).1

/-- The two entries of one key are one entry, the text goes out without its quotes, and what is
no Json is the text of a note. -/
theorem typed_lines_sent :
    let outcome := run rehearsed typing (start unsent typed)
    outcome.1.mailbox.state.stopped = false ∧ outcome.1.ended = some (.ok ()) ∧
      ∃ value content note : Payload × Except ClientError Unit,
        callsIn outcome.2 = [value, content, note] ∧
          Json.parse value.1.frame =
            .ok (.object [("a", .array [.ofNat 2]), ("b", .ofNat 3)]) ∧
          content.1.frame = "quo\ted" ∧
          Envelope.ofJson note.1.frame = .ok ⟨"Note", [("text", .text "say \"hi\"")]⟩ ∧
          Mailbox.sendsIn outcome.1.mailbox.queue = [note.1] := by
  have hopen : (run rehearsed typing (start unsent typed)).1.mailbox.state.stopped = false := by
    decide +kernel
  have hqueued : (Mailbox.sendsIn
      (run rehearsed typing (start unsent typed)).1.mailbox.queue).length = 1 := by decide +kernel
  have hintact : ∀ reason, .fail reason ∉ typing := by simp [typing]
  have hothers : ∀ call payload, .aside (.ask ⟨call, .send payload⟩) ∉ typing := by simp [typing]
  have hplain : typed.filter (Text.trimmed · ≠ "") =
      ["\xa0\x7b\"b\": 1, \"a\": [2], \"b\": 3\x7d\t", "\"quo\\ted\"", "say \"hi\""] := by
    decide +kernel
  have hsent := lines_sent_once rehearsed unsent typed typing hopen
  -- from here on the run is known by these facts alone, so that nothing unfolds it
  dsimp only at hsent ⊢
  generalize run rehearsed typing (start unsent typed) = outcome at hsent hopen hqueued ⊢
  obtain ⟨⟨read, hread, hcalls⟩, hfinish, -, htaken⟩ := hsent
  obtain ⟨hleft, hended⟩ := hfinish hintact (by decide)
  have htaken := htaken hothers
  rw [hleft, List.append_nil] at hread
  rw [← hread, hplain] at hcalls
  obtain ⟨value, later, ⟨-, hvalue⟩, hlater, hfirst⟩ := List.forall₂_cons_left_iff.1 hcalls
  obtain ⟨content, last, ⟨-, hcontent⟩, hlast, rfl⟩ := List.forall₂_cons_left_iff.1 hlater
  obtain ⟨note, rest, ⟨-, hnote⟩, hrest, rfl⟩ := List.forall₂_cons_left_iff.1 hlast
  obtain rfl := List.forall₂_nil_left_iff.1 hrest
  rw [hfirst] at htaken
  have htrimmed : Text.trimmed "say \"hi\"" = "say \"hi\"" := by decide +kernel
  have hinvalid : (Json.parse "say \"hi\"").toOption = none := by decide +kernel
  rw [htrimmed] at hnote
  refine ⟨hopen, hended, value, content, note, hfirst, ?_, ?_, ?_, ?_⟩
  · exact hvalue.value _ (by decide +kernel) nofun ⟨⟨trivial, trivial⟩, trivial, trivial⟩
  · exact hcontent.content _ (by decide +kernel)
  · refine hnote.note fun value hparse => ?_
    rw [hparse] at hinvalid
    cases hinvalid
  · have hsplit : _ = [value.1, content.1] ++ [note.1] := htaken
    exact (List.append_inj' hsplit hqueued).2

end Forwarder

end Lifeline
