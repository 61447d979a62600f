import Lifeline.Config.Document
import Lifeline.Proofs.Config.Written
import Lifeline.Proofs.Json.Records
import Mathlib.Data.Option.Basic

/-!
# The same settings from variables and from a document

Some of the nine settings are assigned, the port among them, and the others keep
their defaults.  The variables of an assignment hold each of its values as a text;
its documents hold them in three sections, whose entries stand in any order, as do
the sections.  The configuration is the same whichever of them it is loaded from
(`loaders_agree`).
-/

namespace Lifeline

open Json

namespace Config

/-- Values for some of the settings. -/
structure Assignment where
  name : Option String
  environment : Option Environment
  host : Option String
  port : UInt16
  secure : Option Bool
  path : Option String
  pingInterval : Option UInt64
  reconnectDelay : Option UInt64
  pongTimeout : Option UInt64

namespace Assignment

/-- No duration is zero. -/
structure Positive (assigned : Assignment) : Prop where
  pingInterval : assigned.pingInterval ≠ some 0
  reconnectDelay : assigned.reconnectDelay ≠ some 0
  pongTimeout : assigned.pongTimeout ≠ some 0

/-- The configuration with these values, and with defaults for the rest. -/
def config (assigned : Assignment) : Config where
  app :=
    { name := assigned.name.getD Default.name
      environment := assigned.environment.getD Default.environment }
  endpoint :=
    { host := assigned.host.getD Default.host
      port := assigned.port
      secure := assigned.secure.getD false
      path := assigned.path.getD Default.path }
  liveness :=
    { pingInterval := assigned.pingInterval.getD Default.pingInterval
      reconnectDelay := assigned.reconnectDelay.getD Default.reconnectDelay
      pongTimeout := assigned.pongTimeout.getD Default.pongTimeout }

/-! ## Variables -/

/-- The value of a setting as a text. -/
def text? (assigned : Assignment) : Setting → Option String
  | .name => assigned.name
  | .environment => assigned.environment.map Environment.word
  | .host => assigned.host
  | .port => some (toString assigned.port.toNat)
  | .secure => assigned.secure.map toString
  | .path => assigned.path
  | .pingInterval => assigned.pingInterval.map fun duration => toString duration.toNat
  | .reconnectDelay => assigned.reconnectDelay.map fun duration => toString duration.toNat
  | .pongTimeout => assigned.pongTimeout.map fun duration => toString duration.toNat

theorem spells_toString (n : Nat) : Decimal.Spells (toString n).toList n := by
  have hdigits : (toString n).toList = Decimal.digits n := String.toList_ofList
  rw [hdigits]
  exact Decimal.spells_digits n

theorem durationOf_toString {duration : UInt64} (hpositive : duration ≠ 0) :
    durationOf (toString duration.toNat) = some duration := by
  have hnonzero : duration.toNat ≠ 0 := fun hzero => hpositive (UInt64.toNat_inj.1 hzero)
  exact durationOf_eq_some_iff.2
    ⟨⟨_, Text.padded_refl _, spells_toString _⟩, Nat.pos_of_ne_zero hnonzero⟩

theorem portOf_toString (port : UInt16) : portOf (toString port.toNat) = some port :=
  portOf_eq_some_iff.2 (spells_toString _)

theorem switchOf_toString (value : Bool) : switchOf (toString value) = some value := by
  cases value <;> decide +kernel

theorem environmentOf_word (environment : Environment) :
    environmentOf environment.word = some environment := by
  cases environment <;> decide +kernel

/-- A setting that may be left out has its value or its default. -/
theorem optional_eq_ok {β : Type} {given : Variables} {setting : Setting}
    {read : String → Option β} {write : β → String} {value : Option β} {default : β}
    (hgiven : given setting.variable = value.map write)
    (hread : ∀ part ∈ value, read (write part) = some part) :
    optional given setting read default = .ok (value.getD default) := by
  rw [optional, hgiven]
  cases value with
  | none => rfl
  | some part =>
      rw [Option.map_some]
      simp only [hread part rfl, Option.getD_some]

theorem ofVariables_eq {assigned : Assignment} (hpositive : assigned.Positive) {given : Variables}
    (hgiven : ∀ setting : Setting, given setting.variable = assigned.text? setting) :
    ofVariables given = .ok assigned.config := by
  have hduration {setting : Setting} {value : Option UInt64} (default : UInt64)
      (htext : given setting.variable = value.map fun duration => toString duration.toNat)
      (hvalue : value ≠ some 0) :
      optional given setting durationOf default = .ok (value.getD default) := by
    apply optional_eq_ok htext
    intro duration hmember
    apply durationOf_toString
    rintro rfl
    exact hvalue hmember
  have hsecure : optional given .secure switchOf false = .ok (assigned.secure.getD false) :=
    optional_eq_ok (hgiven .secure) fun value _ => switchOf_toString value
  have hport : required given .port portOf = .ok assigned.port := by
    simp only [required, hgiven .port, text?, portOf_toString]
  have henvironment : (given Setting.environment.variable).bind environmentOf =
      assigned.environment := by
    rw [hgiven .environment, text?]
    cases assigned.environment with
    | none => rfl
    | some environment => exact environmentOf_word environment
  rw [ofVariables, hduration _ (hgiven .pingInterval) hpositive.pingInterval,
    hduration _ (hgiven .reconnectDelay) hpositive.reconnectDelay,
    hduration _ (hgiven .pongTimeout) hpositive.pongTimeout, hport, hsecure]
  simp only [henvironment, hgiven .name, hgiven .host, hgiven .path]
  rfl

/-! ## Documents -/

/-- The entries of the section `app`. -/
def app (assigned : Assignment) : List (String × Value) :=
  [assigned.name.map fun name => ("name", .text name),
    assigned.environment.map fun environment => ("env", .text environment.word)].reduceOption

def endpoint (assigned : Assignment) : List (String × Value) :=
  [assigned.host.map fun host => ("host", .text host),
    (some assigned.port).map fun port => ("port", .ofNat port.toNat),
    assigned.secure.map fun secure => ("secure", .boolean secure),
    assigned.path.map fun path => ("path", .text path)].reduceOption

def liveness (assigned : Assignment) : List (String × Value) :=
  [assigned.pingInterval.map fun duration => ("ping_interval_ms", .ofNat duration.toNat),
    assigned.reconnectDelay.map fun duration => ("reconnect_delay_ms", .ofNat duration.toNat),
    assigned.pongTimeout.map fun duration => ("pong_timeout_ms", .ofNat duration.toNat)
  ].reduceOption

/-- A document of the assignment: its sections, and the entries of each, in any order. -/
def IsDocument (assigned : Assignment) (document : Value) : Prop :=
  ∃ app endpoint liveness sections : List (String × Value),
    app.Perm assigned.app ∧ endpoint.Perm assigned.endpoint ∧ liveness.Perm assigned.liveness ∧
    sections.Perm
      [("app", .object app), ("endpoint", .object endpoint), ("liveness", .object liveness)] ∧
    document = .object sections

/-! ### Sections -/

/-- What may stand in the section `app`, with the parts of a draft that it fills in. -/
def appParts (assigned : Assignment) : List (Option (Filling AppDraft)) :=
  [assigned.name.map fun name =>
      .ofPart AppDraft.name (fun draft value => { draft with name := some value })
        "name" (.text name) name,
    assigned.environment.map fun environment =>
      .ofPart AppDraft.environment (fun draft value => { draft with environment := some value })
        "env" (.text environment.word) environment]

def endpointParts (assigned : Assignment) : List (Option (Filling EndpointDraft)) :=
  [assigned.host.map fun host =>
      .ofPart EndpointDraft.host (fun draft value => { draft with host := some value })
        "host" (.text host) host,
    (some assigned.port).map fun port =>
      .ofPart EndpointDraft.port (fun draft value => { draft with port := some value })
        "port" (.ofNat port.toNat) port.toNat,
    assigned.secure.map fun secure =>
      .ofPart EndpointDraft.secure (fun draft value => { draft with secure := some value })
        "secure" (.boolean secure) secure,
    assigned.path.map fun path =>
      .ofPart EndpointDraft.path (fun draft value => { draft with path := some value })
        "path" (.text path) path]

def livenessParts (assigned : Assignment) : List (Option (Filling LivenessDraft)) :=
  [assigned.pingInterval.map fun duration =>
      .ofPart LivenessDraft.pingInterval
        (fun draft value => { draft with pingInterval := some value })
        "ping_interval_ms" (.ofNat duration.toNat) duration.toNat,
    assigned.reconnectDelay.map fun duration =>
      .ofPart LivenessDraft.reconnectDelay
        (fun draft value => { draft with reconnectDelay := some value })
        "reconnect_delay_ms" (.ofNat duration.toNat) duration.toNat,
    assigned.pongTimeout.map fun duration =>
      .ofPart LivenessDraft.pongTimeout
        (fun draft value => { draft with pongTimeout := some value })
        "pong_timeout_ms" (.ofNat duration.toNat) duration.toNat]

theorem app_eq (assigned : Assignment) :
    assigned.app = assigned.appParts.reduceOption.map Filling.entry := by
  simp only [← List.reduceOption_map, appParts, List.map_cons, List.map_nil, Option.map_map]
  rfl

theorem endpoint_eq (assigned : Assignment) :
    assigned.endpoint = assigned.endpointParts.reduceOption.map Filling.entry := by
  simp only [← List.reduceOption_map, endpointParts, List.map_cons, List.map_nil, Option.map_map]
  rfl

theorem liveness_eq (assigned : Assignment) :
    assigned.liveness = assigned.livenessParts.reduceOption.map Filling.entry := by
  simp only [← List.reduceOption_map, livenessParts, List.map_cons, List.map_nil, Option.map_map]
  rfl

theorem reads_text (levels : Nat) (text : String) :
    Reads levels (.text text) (readScalar Scalar.text) text := reads_scalar rfl rfl

theorem reads_environment (levels : Nat) (environment : Environment) :
    Reads levels (.text environment.word) readEnvironment environment := by
  apply reads_choice
  cases environment <;> rfl

theorem reads_duration (levels : Nat) (duration : UInt64) :
    Reads levels (.ofNat duration.toNat) (readScalar Scalar.word64) duration.toNat :=
  reads_scalar rfl (Scalar.count_ofNat duration.toNat_lt (Nat.le_refl _))

theorem reads_port (levels : Nat) (port : UInt16) :
    Reads levels (.ofNat port.toNat) (readScalar Scalar.word16) port.toNat :=
  reads_scalar rfl (Scalar.count_ofNat port.toNat_lt (by decide))

section

variable {assigned : Assignment} {levels : Nat} {listed : List (String × Value)}

theorem readApp_reads (hlisted : listed.Perm assigned.app) :
    Reads (levels + 1) (.object listed) (readRecord appRecord) assigned.config.app := by
  apply readRecord_parts _ _ (app_eq assigned ▸ hlisted)
  · obtain ⟨name, environment⟩ := assigned
    cases name <;> cases environment <;> rfl
  · simp only [appParts, List.pairwise_cons, List.Pairwise.nil, List.forall_mem_cons,
      List.not_mem_nil, IsEmpty.forall_iff, implies_true, and_true, Option.forall_mem_map]
    exact fun _ _ _ _ => ⟨fun _ => rfl, fun _ => rfl, fun _ => rfl⟩
  · simp only [appParts, List.forall_mem_cons, List.not_mem_nil, IsEmpty.forall_iff, implies_true,
      and_true, Option.forall_mem_map]
    exact ⟨fun name _ => ⟨Filling.fits_ofReader rfl (reads_text levels name), rfl⟩,
      fun environment _ => ⟨Filling.fits_ofReader rfl (reads_environment levels environment), rfl⟩⟩

theorem readEndpoint_reads (hlisted : listed.Perm assigned.endpoint) :
    Reads (levels + 1) (.object listed) (readRecord endpointRecord) assigned.config.endpoint := by
  apply readRecord_parts _ _ (endpoint_eq assigned ▸ hlisted)
  · have hport : UInt16.ofNat assigned.port.toNat = assigned.port := UInt16.ofNat_toNat
    obtain ⟨_, _, host, port, secure, path⟩ := assigned
    cases host <;> cases secure <;> cases path <;>
      exact congrArg (fun port => Except.ok (EndpointSettings.mk _ port _ _)) hport
  · simp only [endpointParts, List.pairwise_cons, List.Pairwise.nil, List.forall_mem_cons,
      List.not_mem_nil, IsEmpty.forall_iff, implies_true, and_true, Option.forall_mem_map]
    and_intros <;> exact fun _ _ _ _ => ⟨fun _ => rfl, fun _ => rfl, fun _ => rfl⟩
  · simp only [endpointParts, List.forall_mem_cons, List.not_mem_nil, IsEmpty.forall_iff,
      implies_true, and_true, Option.forall_mem_map]
    exact ⟨fun host _ => ⟨Filling.fits_ofReader rfl (reads_text levels host), rfl⟩,
      fun port _ => ⟨Filling.fits_ofReader rfl (reads_port levels port), rfl⟩,
      fun secure _ => ⟨Filling.fits_ofReader rfl (reads_scalar rfl rfl), rfl⟩,
      fun path _ => ⟨Filling.fits_ofReader rfl (reads_text levels path), rfl⟩⟩

theorem readLiveness_reads (hlisted : listed.Perm assigned.liveness) :
    Reads (levels + 1) (.object listed) (readRecord livenessRecord) assigned.config.liveness := by
  apply readRecord_parts _ _ (liveness_eq assigned ▸ hlisted)
  · have hvalue (duration : UInt64) : UInt64.ofNat duration.toNat = duration := UInt64.ofNat_toNat
    obtain ⟨_, _, _, _, _, _, pingInterval, reconnectDelay, pongTimeout⟩ := assigned
    cases pingInterval <;> cases reconnectDelay <;> cases pongTimeout <;>
      simp [livenessParts, filled, List.reduceOption, Filling.ofPart, livenessRecord, config,
        hvalue]
  · simp only [livenessParts, List.pairwise_cons, List.Pairwise.nil, List.forall_mem_cons,
      List.not_mem_nil, IsEmpty.forall_iff, implies_true, and_true, Option.forall_mem_map]
    and_intros <;> exact fun _ _ _ _ => ⟨fun _ => rfl, fun _ => rfl, fun _ => rfl⟩
  · simp only [livenessParts, List.forall_mem_cons, List.not_mem_nil, IsEmpty.forall_iff,
      implies_true, and_true, Option.forall_mem_map]
    have hduration (duration : UInt64) := reads_duration levels duration
    exact ⟨fun duration _ => ⟨Filling.fits_ofReader rfl (hduration duration), rfl⟩,
      fun duration _ => ⟨Filling.fits_ofReader rfl (hduration duration), rfl⟩,
      fun duration _ => ⟨Filling.fits_ofReader rfl (hduration duration), rfl⟩⟩

end

/-! ### Whole documents -/

section

variable {assigned : Assignment} {document : Value}

theorem readConfig_reads (hdocument : assigned.IsDocument document) (levels : Nat) :
    Reads (levels + 2) document (readRecord configRecord) assigned.config := by
  obtain ⟨app, endpoint, liveness, sections, happ, hendpoint, hliveness, hsections, rfl⟩ :=
    hdocument
  let fillings : List (Filling ConfigDraft) := [
    .ofPart ConfigDraft.app (fun draft value => { draft with app := some value })
      "app" (.object app) assigned.config.app,
    .ofPart ConfigDraft.endpoint (fun draft value => { draft with endpoint := some value })
      "endpoint" (.object endpoint) assigned.config.endpoint,
    .ofPart ConfigDraft.liveness (fun draft value => { draft with liveness := some value })
      "liveness" (.object liveness) assigned.config.liveness]
  have hapart : fillings.Pairwise Filling.Apart := by
    simp only [fillings, List.pairwise_cons, List.Pairwise.nil, List.forall_mem_cons,
      List.not_mem_nil, IsEmpty.forall_iff, implies_true, and_true]
    and_intros <;> exact ⟨fun _ => rfl, fun _ => rfl, fun _ => rfl⟩
  have hfits : ∀ filling ∈ fillings, filling.Fits (levels + 1) configRecord := by
    simp only [fillings, List.forall_mem_cons, List.not_mem_nil, IsEmpty.forall_iff, implies_true,
      and_true]
    exact ⟨Filling.fits_ofReader rfl (readApp_reads happ),
      Filling.fits_ofReader rfl (readEndpoint_reads hendpoint),
      Filling.fits_ofReader rfl (readLiveness_reads hliveness)⟩
  have hblank : ∀ filling ∈ fillings, filling.isSet configRecord.blank = false := by
    simp only [fillings, List.forall_mem_cons, List.not_mem_nil, IsEmpty.forall_iff, implies_true,
      and_true]
    exact ⟨rfl, rfl, rfl⟩
  exact readRecord_reads hapart hfits hblank hsections rfl

theorem ofDocument_eq (hdocument : assigned.IsDocument document) {text : String}
    (hlisted : asListed text = .ok document) : ofDocument text = .ok assigned.config :=
  readAll_of_reads (readConfig_reads hdocument 125) hlisted

theorem readsBack_section {levels : Nat} {parts : List (Option (String × Value))}
    {listed : List (String × Value)} (hlisted : listed.Perm parts.reduceOption)
    (hparts : ∀ part ∈ parts, ∀ entry ∈ part, ReadsBack (readAsListed levels) entry.2) :
    ReadsBack (readAsListed (levels + 1)) (.object listed) := by
  apply readAsListed_object
  intro entry member
  exact hparts _ (List.reduceOption_mem_iff.1 (hlisted.mem_iff.1 member)) entry rfl

/-- A document is listed in its rendering as it is. -/
theorem asListed_render (hdocument : assigned.IsDocument document) :
    asListed document.render = .ok document := by
  obtain ⟨app, endpoint, liveness, sections, happ, hendpoint, hliveness, hsections, rfl⟩ :=
    hdocument
  have htext (text : String) : ReadsBack (readAsListed 125) (.text text) :=
    readAsListed_readsBack (readValue_text 125 text) (by simp)
  have hboolean (value : Bool) : ReadsBack (readAsListed 125) (.boolean value) :=
    readAsListed_readsBack (readValue_boolean 125 value) (by simp)
  have hcount (n : Nat) : ReadsBack (readAsListed 125) (.ofNat n) :=
    readAsListed_readsBack (readValue_number 125 trivial) (by simp [Value.ofNat])
  have hread : ReadsBack (readAsListed 127) (.object sections) := by
    apply readAsListed_object
    intro entry member
    have hentry := hsections.mem_iff.1 member
    simp only [List.mem_cons, List.not_mem_nil, or_false] at hentry
    -- one level is taken by the document and one by each section
    rcases hentry with rfl | rfl | rfl
    · apply readsBack_section happ
      simp only [List.forall_mem_cons, List.not_mem_nil, IsEmpty.forall_iff, implies_true, and_true,
        Option.forall_mem_map]
      exact ⟨fun name _ => htext name, fun environment _ => htext environment.word⟩
    · apply readsBack_section hendpoint
      simp only [List.forall_mem_cons, List.not_mem_nil, IsEmpty.forall_iff, implies_true, and_true,
        Option.forall_mem_map]
      exact ⟨fun host _ => htext host, fun port _ => hcount _, fun secure _ => hboolean secure,
        fun path _ => htext path⟩
    · apply readsBack_section hliveness
      simp only [List.forall_mem_cons, List.not_mem_nil, IsEmpty.forall_iff, implies_true, and_true,
        Option.forall_mem_map]
      exact ⟨fun duration _ => hcount _, fun duration _ => hcount _, fun duration _ => hcount _⟩
  have hwhole := hread [] endsNumber_nil
  rw [List.append_nil] at hwhole
  refine readAll_eq_ok_iff.2 ⟨[], ?_, rfl⟩
  rw [Value.render, String.toList_ofList]
  exact hwhole

end

end Assignment

/-- The variables and the documents of an assignment without zero durations are both loaded, and
the configuration is the same: the values that are assigned, and the defaults for the others.  A
document may be rendered or be any other text that lists the same sections and entries. -/
theorem loaders_agree (assigned : Assignment) (hpositive : assigned.Positive) (given : Variables)
    (hgiven : ∀ setting : Setting, given setting.variable = assigned.text? setting)
    (document : Value) (hdocument : assigned.IsDocument document) :
    ofVariables given = .ok assigned.config ∧
      ofDocument document.render = .ok assigned.config ∧
      ∀ text, asListed text = .ok document → ofDocument text = .ok assigned.config :=
  ⟨assigned.ofVariables_eq hpositive hgiven,
    assigned.ofDocument_eq hdocument (assigned.asListed_render hdocument),
    fun _ => assigned.ofDocument_eq hdocument⟩

/-- A name with a quote in it, a port, a choice of security and a timeout. -/
def quoted : Assignment where
  name := some "a\""
  environment := none
  host := none
  port := 443
  secure := some true
  path := none
  pingInterval := none
  reconnectDelay := none
  pongTimeout := some 300

/-- Sections and entries stand in another order, and the text has blanks and its own escape. -/
theorem quoted_loaded :
    let given : Variables := fun name =>
      [("APP_NAME", "a\""), ("TETHER_PORT", "443"), ("TETHER_SECURE", "true"),
        ("TETHER_PONG_TIMEOUT_MS", "300")].lookup name
    let text := "\x7b \"liveness\": \x7b\"pong_timeout_ms\":300\x7d,\n" ++
      "\"endpoint\":\x7b\"secure\":true, \"port\": 443\x7d," ++
      "\"app\":\x7b\"name\":\"a\\u0022\"\x7d \x7d"
    ofVariables given = .ok quoted.config ∧ ofDocument text = .ok quoted.config := by
  intro given text
  have hpositive : quoted.Positive := ⟨by decide, by decide, by decide⟩
  have hgiven : ∀ setting : Setting, given setting.variable = quoted.text? setting := by
    intro setting
    cases setting <;> decide +kernel
  let app : List (String × Value) := [("name", .text "a\"")]
  let endpoint : List (String × Value) := [("secure", .boolean true), ("port", .ofNat 443)]
  let liveness : List (String × Value) := [("pong_timeout_ms", .ofNat 300)]
  let document : Value :=
    .object [("liveness", .object liveness), ("endpoint", .object endpoint), ("app", .object app)]
  have hdocument : quoted.IsDocument document := by
    refine ⟨app, endpoint, liveness, _, ?_, ?_, ?_, ?_, rfl⟩
    all_goals decide +kernel
  have hlisted : asListed text = .ok document := by decide +kernel
  obtain ⟨hvariables, -, htexts⟩ := loaders_agree quoted hpositive given hgiven document hdocument
  exact ⟨hvariables, htexts text hlisted⟩

end Config

end Lifeline
