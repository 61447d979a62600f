import Lifeline.Proofs.Config.Written

/-!
# Which variables make a configuration

Five of the nine variables can be wrong, and only the port has to be there.  They
are looked at in a fixed order, and each check either passes or ends everything
with its own complaint (`Checks`).  So a configuration results exactly if all five
are sound, and otherwise the first that is not sound is named
(`first_fault_reported`).
-/

namespace Lifeline.Config

open Decimal (Spells)
open Text (Padded)

/-- What the variable of a setting may hold. -/
def WellWritten (setting : Setting) (raw : String) : Prop :=
  match setting with
  | .pingInterval | .reconnectDelay | .pongTimeout =>
      ∃ core n, Padded raw.toList core ∧ Spells core n ∧ 1 ≤ n ∧ n ≤ 18446744073709551615
  | .port => ∃ n, Spells raw.toList n ∧ n ≤ 65535
  | .secure => ∃ word, Padded raw.toList word.toList ∧
      lowered word ∈ ["1", "true", "yes", "on", "0", "false", "no", "off"]
  | .name | .environment | .host | .path => True

/-- The variable holds what it may hold; only that of the port has to be set. -/
def Sound (given : Variables) (setting : Setting) : Prop :=
  match given setting.variable with
  | none => setting ≠ .port
  | some raw => WellWritten setting raw

/-- The settings that can be wrong, in the order in which they are looked at. -/
def checked : List Setting := [.pingInterval, .reconnectDelay, .pongTimeout, .port, .secure]

/-- What there is to say against a variable: that it is not set, or its value as it was given. -/
def complaint (given : Variables) (setting : Setting) : ConfigError :=
  match given setting.variable with
  | none => .missing setting
  | some raw => .invalid setting raw

/-- The error is the complaint about the first of the settings that is not sound. -/
def FirstFault (given : Variables) (settings : List Setting) (error : ConfigError) : Prop :=
  ∃ before setting after, settings = before ++ setting :: after ∧
    (∀ earlier ∈ before, Sound given earlier) ∧ ¬ Sound given setting ∧
      error = complaint given setting

section

variable {given : Variables} {setting : Setting} {error : ConfigError}

theorem not_firstFault_nil : ¬ FirstFault given [] error := by
  rintro ⟨before, setting, after, hsplit, -⟩
  simp at hsplit

theorem firstFault_cons_iff {settings : List Setting} :
    FirstFault given (setting :: settings) error ↔
      ¬ Sound given setting ∧ error = complaint given setting ∨
        Sound given setting ∧ FirstFault given settings error := by
  constructor
  · rintro ⟨before, faulty, after, hsplit, hbefore, hfaulty, herror⟩
    cases before with
    | nil =>
        cases hsplit
        exact .inl ⟨hfaulty, herror⟩
    | cons first before =>
        cases hsplit
        obtain ⟨hfirst, hlater⟩ := List.forall_mem_cons.1 hbefore
        exact .inr ⟨hfirst, before, faulty, after, rfl, hlater, hfaulty, herror⟩
  · rintro (⟨hfaulty, herror⟩ | ⟨hsound, before, faulty, after, rfl, hbefore, hfaulty, herror⟩)
    · exact ⟨[], setting, settings, rfl, List.forall_mem_nil _, hfaulty, herror⟩
    · exact ⟨setting :: before, faulty, after, rfl, List.forall_mem_cons.2 ⟨hsound, hbefore⟩,
        hfaulty, herror⟩

/-- There is a first fault unless everything is sound. -/
theorem exists_firstFault_iff {settings : List Setting} :
    (∃ error, FirstFault given settings error) ↔ ∃ setting ∈ settings, ¬ Sound given setting := by
  induction settings with
  | nil => simp [not_firstFault_nil]
  | cons setting settings ih =>
      simp only [firstFault_cons_iff, exists_or, exists_and_left, ih]
      by_cases hsound : Sound given setting <;> simp [hsound]

/-- Faults depend on no other variables than those of the settings. -/
theorem firstFault_congr {settings : List Setting} {other : Variables}
    (hsame : ∀ setting ∈ settings, other setting.variable = given setting.variable) :
    FirstFault other settings error ↔ FirstFault given settings error := by
  induction settings with
  | nil => exact iff_of_false not_firstFault_nil not_firstFault_nil
  | cons setting settings ih =>
      obtain ⟨hfirst, hlater⟩ := List.forall_mem_cons.1 hsame
      rw [firstFault_cons_iff, firstFault_cons_iff, ih hlater, Sound, complaint, hfirst]
      rfl

/-! ## Checks -/

/-- The check fails exactly if the setting is not sound, and then with the complaint about it. -/
def Checks {α : Type} (given : Variables) (setting : Setting) (check : Except ConfigError α) :
    Prop :=
  ∀ error, check = .error error ↔ ¬ Sound given setting ∧ error = complaint given setting

section

variable {α : Type} {read : String → Option α}
  (hread : ∀ raw, (∃ value, read raw = some value) ↔ WellWritten setting raw)

include hread

theorem optional_checks (hfree : setting ≠ .port) (default : α) :
    Checks given setting (optional given setting read default) := by
  intro error
  rw [optional, Sound, complaint]
  cases given setting.variable with
  | none => simp [hfree]
  | some raw =>
      dsimp only
      rw [← hread]
      cases read raw <;> simp [eq_comm]

theorem required_checks (hport : setting = .port) :
    Checks given setting (required given setting read) := by
  intro error
  rw [required, Sound, complaint]
  cases given setting.variable with
  | none => simp [hport, eq_comm]
  | some raw =>
      dsimp only
      rw [← hread]
      cases read raw <;> simp [eq_comm]

end

/-- A check in front of others: it decides, unless it passes. -/
theorem bind_eq_error_iff {α β : Type} {check : Except ConfigError α} {settings : List Setting}
    {next : α → Except ConfigError β} (hcheck : Checks given setting check)
    (hnext : ∀ value, next value = .error error ↔ FirstFault given settings error) :
    check >>= next = .error error ↔ FirstFault given (setting :: settings) error := by
  rw [firstFault_cons_iff, ← hcheck]
  cases check with
  | error found =>
      have hfaulty : ¬ Sound given setting := ((hcheck found).1 rfl).1
      simp [bind, Except.bind, hfaulty]
  | ok value =>
      have hsound : Sound given setting := by
        by_contra hfaulty
        exact absurd ((hcheck _).2 ⟨hfaulty, rfl⟩) (by simp)
      simp [bind, Except.bind, hsound, hnext]

theorem duration_wellWritten (raw : String) :
    (∃ duration, durationOf raw = some duration) ↔
      ∃ core n, Padded raw.toList core ∧ Spells core n ∧ 1 ≤ n ∧ n ≤ 18446744073709551615 := by
  simp only [durationOf_eq_some_iff]
  constructor
  · rintro ⟨duration, ⟨core, hpadded, hspells⟩, hpositive⟩
    exact ⟨core, duration.toNat, hpadded, hspells, hpositive, Nat.le_of_lt_succ duration.toNat_lt⟩
  · rintro ⟨core, n, hpadded, hspells, hpositive, hbound⟩
    have hvalue : (UInt64.ofNat n).toNat = n := UInt64.toNat_ofNat_of_lt' (Nat.lt_succ_of_le hbound)
    exact ⟨UInt64.ofNat n, ⟨core, hpadded, hvalue.symm ▸ hspells⟩, hvalue.symm ▸ hpositive⟩

theorem port_wellWritten (raw : String) :
    (∃ port, portOf raw = some port) ↔ WellWritten .port raw := by
  simp only [portOf_eq_some_iff, WellWritten]
  constructor
  · rintro ⟨port, hspells⟩
    exact ⟨port.toNat, hspells, Nat.le_of_lt_succ port.toNat_lt⟩
  · rintro ⟨n, hspells, hbound⟩
    have hvalue : (UInt16.ofNat n).toNat = n := UInt16.toNat_ofNat_of_lt' (Nat.lt_succ_of_le hbound)
    exact ⟨UInt16.ofNat n, hvalue.symm ▸ hspells⟩

theorem switch_wellWritten (raw : String) :
    (∃ value, switchOf raw = some value) ↔ WellWritten .secure raw := by
  have hwords (word : String) : (∃ value, word ∈ switchWords value) ↔
      word ∈ ["1", "true", "yes", "on", "0", "false", "no", "off"] := by
    rw [Bool.exists_bool, or_comm, ← List.mem_append]
    rfl
  simp only [switchOf_eq_some_iff, WellWritten]
  rw [exists_comm]
  simp only [exists_and_left, hwords]

/-- The first variable that is not sound, in the order of the checks, is what a failure names. -/
theorem ofVariables_eq_error_iff :
    ofVariables given = .error error ↔ FirstFault given checked error := by
  apply bind_eq_error_iff (optional_checks duration_wellWritten (by decide) _)
  intro pingInterval
  apply bind_eq_error_iff (optional_checks duration_wellWritten (by decide) _)
  intro reconnectDelay
  apply bind_eq_error_iff (optional_checks duration_wellWritten (by decide) _)
  intro pongTimeout
  apply bind_eq_error_iff (required_checks port_wellWritten rfl)
  intro port
  apply bind_eq_error_iff (optional_checks switch_wellWritten (by decide) _)
  intro secure
  exact iff_of_false (by simp) not_firstFault_nil

end

/-- A configuration results exactly from sound variables.  Otherwise the first of the five that is
not sound is named, with its value as it was given, or as missing; and of the other variables none
makes any difference to this. -/
theorem first_fault_reported (given : Variables) :
    ((∃ config, ofVariables given = .ok config) ↔ ∀ setting ∈ checked, Sound given setting) ∧
    (∀ error, ofVariables given = .error error ↔ FirstFault given checked error) ∧
    ∀ other : Variables, (∀ setting ∈ checked, other setting.variable = given setting.variable) →
      ∀ error, ofVariables other = .error error ↔ ofVariables given = .error error := by
  refine ⟨?_, fun error => ofVariables_eq_error_iff, ?_⟩
  · have hfails : (∃ error, ofVariables given = .error error) ↔
        ∃ setting ∈ checked, ¬ Sound given setting := by
      simp only [ofVariables_eq_error_iff, exists_firstFault_iff]
    have hdone : (∃ config, ofVariables given = .ok config) ↔
        ¬ ∃ error, ofVariables given = .error error := by
      cases ofVariables given <;> simp
    rw [hdone, hfails]
    simp only [not_exists, not_and, not_not]
  · intro other hsame error
    rw [ofVariables_eq_error_iff, ofVariables_eq_error_iff, firstFault_congr hsame]

/-- A delay of zero between blanks, no port, and a word that is no switch. -/
def troubled : Variables := fun name =>
  [("TETHER_PING_INTERVAL_MS", " +0025\u3000"), ("TETHER_RECONNECT_DELAY_MS", " 0"),
    ("TETHER_SECURE", "maybe")].lookup name

/-- Of three faults the first is reported, whatever the other variables hold. -/
theorem zero_delay_named_first :
    let renamed : Variables := fun name => if name = "APP_ENV" then some "" else troubled name
    ofVariables troubled = .error (.invalid .reconnectDelay " 0") ∧
      ofVariables renamed = .error (.invalid .reconnectDelay " 0") ∧
      FirstFault troubled checked (.invalid .reconnectDelay " 0") := by
  intro renamed
  obtain ⟨-, hreported, hothers⟩ := first_fault_reported troubled
  have hfault : ofVariables troubled = .error (.invalid .reconnectDelay " 0") := by decide +kernel
  have hsame : ∀ setting ∈ checked, renamed setting.variable = troubled setting.variable := by
    decide +kernel
  exact ⟨hfault, (hothers renamed hsame _).2 hfault, (hreported _).1 hfault⟩

end Lifeline.Config
