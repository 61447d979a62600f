import Lifeline.CommandLine.Dotenv
import Lifeline.Gateway.Listen
import Lifeline.LogPreset

/-!
# Starting a program

Two programs share one configuration: the client, which dials the endpoint, and
the gateway, which serves it.  A configuration that cannot be loaded is reported
on the error stream, since nothing logs yet; later failures are logged.  A
program that fails to start exits with one.
-/

namespace Lifeline

inductive Program
  | client
  | gateway
  deriving DecidableEq

namespace Program

def failureHeading : Program → String
  | .client => "Client failed"
  | .gateway => "Gateway failed to start"

end Program

/-- How far a program gets. -/
inductive StartUp
  | misconfigured (error : ConfigError)
  | failed (environment : Environment) (failure : Failure)
  /-- It gives up in the middle: a variable cannot hold what a file assigns to it,
  or the gateway cannot mount its path. -/
  | broken
  | connecting (config : Config) (endpoint : Endpoint)
  | serving (config : Config) (router : Router)
  deriving DecidableEq

namespace StartUp

def ofConfig (program : Program) (network : Gateway.Network) (config : Config) : StartUp :=
  match program with
  | .client => match Endpoint.ofSettings config.endpoint with
      | .ok endpoint => .connecting config endpoint
      | .error error => .failed config.app.environment (.ofEndpointError error)
  | .gateway => match Gateway.launch network config with
      | .failed failure => .failed config.app.environment failure
      | .refused => .broken
      | .serving _ router => .serving config router

def of (program : Program) (network : Gateway.Network) (given : Variables) : StartUp :=
  match Config.ofVariables given with
  | .error error => .misconfigured error
  | .ok config => ofConfig program network config

/-- Starts with the variables that are set and with those of a file, if there is one. -/
def ofFile (program : Program) (network : Gateway.Network) (given : Variables) :
    Option String → StartUp
  | none => of program network given
  | some content => match Dotenv.supplement given content with
      | some supplemented => of program network supplemented
      | none => .broken

/-- The exit code; a client without lines to send ends well. -/
def exitCode : StartUp → Nat
  | .misconfigured _ => 1
  | .failed _ _ => 1
  | .broken => 101
  | .connecting _ _ => 0
  | .serving _ _ => 0

def errorText : StartUp → String
  | .misconfigured error => "Failed to load configuration: " ++ error.message ++ "\n"
  | _ => ""

/-- The failure that is logged, if logs are written as Json. -/
def loggedFailure? : StartUp → Option Failure
  | .failed environment failure =>
      if (LogPreset.forEnvironment environment).format = .json then some failure else none
  | _ => none

end StartUp

end Lifeline
