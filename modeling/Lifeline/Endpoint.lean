import Lifeline.Config.Basic
import Lifeline.Text.Blank
import Lifeline.Text.Quoted

/-!
# Endpoints

An endpoint names the socket that a client dials.  Its host is not blank, and
its path starts with a slash and holds neither blanks nor a fragment; a missing
slash is supplied.  An endpoint is built by `Endpoint.of` only.
-/

namespace Lifeline

inductive EndpointError
  | emptyHost
  | invalidPath (path : String)
  deriving DecidableEq

def EndpointError.message : EndpointError → String
  | .emptyHost => "Endpoint host is empty"
  | .invalidPath path => "Invalid endpoint path: " ++ Text.quoted path

structure Endpoint where
  host : String
  port : UInt16
  secure : Bool
  path : String
  deriving DecidableEq

namespace Endpoint

/-- Blanks and the sign that starts a fragment have no place in a path. -/
def isBarred (c : Char) : Bool := Text.isBlank c || c == '#'

def of (host : String) (port : UInt16) (secure : Bool) (path : String) :
    Except EndpointError Endpoint :=
  if host.toList.all Text.isBlank then .error .emptyHost
  else if path.toList.any isBarred then .error (.invalidPath path)
  else
    match path.toList with
    | '/' :: _ => .ok ⟨host, port, secure, path⟩
    | _ => .ok ⟨host, port, secure, "/" ++ path⟩

def ofSettings (settings : EndpointSettings) : Except EndpointError Endpoint :=
  of settings.host settings.port settings.secure settings.path

def scheme (endpoint : Endpoint) : String := if endpoint.secure then "wss" else "ws"

/-- `scheme://host:port/path`. -/
def url (endpoint : Endpoint) : String :=
  endpoint.scheme ++ "://" ++ endpoint.host ++ ":" ++ toString endpoint.port.toNat ++ endpoint.path

end Endpoint

end Lifeline
