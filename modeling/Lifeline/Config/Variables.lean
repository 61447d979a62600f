import Lifeline.Config.Basic
import Lifeline.Decimal.Whole
import Lifeline.Text.Blank

/-!
# Configuration from variables

Each setting has a variable of its own.  Durations may be surrounded by blanks
and must not be zero; the port is taken as it stands.  An environment that is
not known is development.  Of several faults the first in the order ping
interval, reconnect delay, pong timeout, port, security is reported.
-/

namespace Lifeline

inductive Setting
  | name
  | environment
  | host
  | port
  | secure
  | path
  | pingInterval
  | reconnectDelay
  | pongTimeout
  deriving DecidableEq

def Setting.variable : Setting → String
  | .name => "APP_NAME"
  | .environment => "APP_ENV"
  | .host => "TETHER_HOST"
  | .port => "TETHER_PORT"
  | .secure => "TETHER_SECURE"
  | .path => "TETHER_PATH"
  | .pingInterval => "TETHER_PING_INTERVAL_MS"
  | .reconnectDelay => "TETHER_RECONNECT_DELAY_MS"
  | .pongTimeout => "TETHER_PONG_TIMEOUT_MS"

inductive ConfigError
  | missing (setting : Setting)
  | invalid (setting : Setting) (raw : String)
  deriving DecidableEq

def ConfigError.message : ConfigError → String
  | .missing setting => "Missing required environment variable: " ++ setting.variable
  | .invalid setting raw => "Invalid value for " ++ setting.variable ++ ": " ++ raw

/-- The value of each variable, if it is set. -/
abbrev Variables := String → Option String

namespace Config

/-- Words are compared without regard to the case of ASCII letters. -/
def lowered (text : String) : String := text.map Char.toLower

def environmentOf (raw : String) : Option Environment :=
  Environment.all.find? fun environment => lowered raw == environment.word

/-- The words for yes and no, in any case and with blanks around them. -/
def switchOf (raw : String) : Option Bool :=
  let word := lowered (Text.trimmed raw)
  if word ∈ ["1", "true", "yes", "on"] then some true
  else if word ∈ ["0", "false", "no", "off"] then some false
  else none

/-- A positive number of milliseconds with blanks around it. -/
def durationOf (raw : String) : Option UInt64 :=
  match Decimal.readCount Decimal.beyond64 (Text.trim raw.toList) with
  | some (count + 1) => some (UInt64.ofNat (count + 1))
  | _ => none

def portOf (raw : String) : Option UInt16 :=
  (Decimal.readCount Decimal.beyond16 raw.toList).map UInt16.ofNat

/-- A setting with a default: only a value that is present can be wrong. -/
def optional {α : Type} (given : Variables) (setting : Setting) (read : String → Option α)
    (default : α) : Except ConfigError α :=
  match given setting.variable with
  | none => .ok default
  | some raw => match read raw with
      | some value => .ok value
      | none => .error (.invalid setting raw)

def required {α : Type} (given : Variables) (setting : Setting) (read : String → Option α) :
    Except ConfigError α :=
  match given setting.variable with
  | none => .error (.missing setting)
  | some raw => match read raw with
      | some value => .ok value
      | none => .error (.invalid setting raw)

/-- The configuration that a set of variables describes. -/
def ofVariables (given : Variables) : Except ConfigError Config := do
  let pingInterval ← optional given .pingInterval durationOf Default.pingInterval
  let reconnectDelay ← optional given .reconnectDelay durationOf Default.reconnectDelay
  let pongTimeout ← optional given .pongTimeout durationOf Default.pongTimeout
  let port ← required given .port portOf
  let secure ← optional given .secure switchOf false
  let environment := (given Setting.environment.variable).bind environmentOf
  .ok
    { app :=
        { name := (given Setting.name.variable).getD Default.name
          environment := environment.getD Default.environment }
      endpoint :=
        { host := (given Setting.host.variable).getD Default.host
          port := port
          secure := secure
          path := (given Setting.path.variable).getD Default.path }
      liveness := ⟨pingInterval, reconnectDelay, pongTimeout⟩ }

end Config

end Lifeline
