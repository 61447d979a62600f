import Lifeline.Address
import Lifeline.Transport.Session
import Lifeline.Uri

/-!
# Dialing

A url is dialed if it names a host and either a port or a scheme that stands for
one.  On a network that reaches nobody a dial ends at once, and the reason tells
how far it came: to the url, to the host it names, or to the network.
-/

namespace Lifeline

inductive DialError
  | url (error : UriError)
  | noHost
  | unsupportedScheme
  | unknownHost (error : LookupError)
  /-- The address makes sense on a link only, and the url names none. -/
  | noLink
  | unreachable
  deriving DecidableEq

def DialError.message : DialError → String
  | .url error => "HTTP format error: " ++ error.message
  | .noHost => "URL error: No host name in the URL"
  | .unsupportedScheme => "URL error: URL scheme not supported"
  | .unknownHost error => "IO error: " ++ error.message
  | .noLink => "IO error: Invalid argument (os error 22)"
  | .unreachable => "IO error: Network is unreachable (os error 101)"

namespace Dial

/-- The port that a scheme stands for. -/
def schemePort? (scheme : String) : Option UInt16 :=
  if scheme = "ws" then some 80 else if scheme = "wss" then some 443 else none

/-- The host and the port that a url names; a port that is written decides,
whatever the scheme. -/
def check (url : String) : Except DialError (String × UInt16) := do
  let uri ← (Uri.parse url).mapError .url
  if uri.authority.isEmpty then .error .noHost
  else match uri.port?.or (uri.scheme.bind schemePort?) with
    | some port => .ok (uri.host, port)
    | none => .error .unsupportedScheme

/-- Why a dial of a host fails on a network that reaches nobody. -/
def hostFailure (host : String) : DialError :=
  match Address.lookup host with
  | .error error => .unknownHost error
  | .ok (.four _) => .unreachable
  | .ok (.six groups) => if Address.isLinkLocal groups then .noLink else .unreachable

/-- Why a dial fails on such a network. -/
def failure (url : String) : DialError :=
  match check url with
  | .ok (host, _) => hostFailure host
  | .error error => error

/-- The events of a transport that is dialed on such a network. -/
def events (url : String) : List TransportEvent :=
  Session.events (Session.run [⟨true, .handshake (some (failure url).message)⟩] .handshaking).2

end Dial

end Lifeline
