import Lifeline.Config.Basic

/-!
# Log presets

How a program logs depends on where it is deployed: at length for a developer,
as Json lines in production, one line per event otherwise.
-/

namespace Lifeline

inductive LogFormat
  | pretty
  | compact
  | json
  deriving DecidableEq

structure LogPreset where
  directives : String
  format : LogFormat
  spanEvents : Bool
  fileLine : Bool
  deriving DecidableEq

namespace LogPreset

def standard : LogPreset := ⟨"info", .compact, false, false⟩

def development : LogPreset where
  directives := "info,tether_common=debug,tether_client=debug,tether_gateway=debug"
  format := .pretty
  spanEvents := true
  fileLine := true

def production : LogPreset := { standard with format := .json }

def forEnvironment : Environment → LogPreset
  | .development => development
  | .staging => standard
  | .production => production

def withDirectives (preset : LogPreset) (directives : String) : LogPreset :=
  { preset with directives := directives }

end LogPreset

/-- Installing a preset a second time is refused. -/
inductive LogPresetError
  | alreadyInitialized
  deriving DecidableEq

def LogPresetError.message : LogPresetError → String
  | .alreadyInitialized => "Tracing subscriber already initialized"

end Lifeline
