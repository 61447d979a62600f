import Lifeline.Config.Variables
import Lifeline.Endpoint

/-!
# Failures of the programs

Whatever stops a program falls under one of four heads.  Network failures may
pass, so trying again can help; a wrong configuration stays wrong.
-/

namespace Lifeline

inductive Failure
  | config (error : ConfigError)
  | endpoint (reason : String)
  | bind (address reason : String)
  | transport (reason : String)
  deriving DecidableEq

namespace Failure

def ofEndpointError (error : EndpointError) : Failure := .endpoint error.message

def message : Failure → String
  | .config error => error.message
  | .endpoint reason => "Invalid endpoint: " ++ reason
  | .bind address reason => "Failed to bind " ++ address ++ ": " ++ reason
  | .transport reason => "Transport error: " ++ reason

def code : Failure → String
  | .config _ => "CONFIG_ERROR"
  | .endpoint _ => "INVALID_ENDPOINT"
  | .bind _ _ => "BIND_FAILED"
  | .transport _ => "TRANSPORT_ERROR"

def isRetryable : Failure → Bool
  | .config _ => false
  | .endpoint _ => false
  | .bind _ _ => true
  | .transport _ => true

end Failure

end Lifeline
