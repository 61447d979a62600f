import Lifeline.Gateway.Head
import Lifeline.Gateway.Route

/-!
# Requests to the gateway

One request is answered by its method, its path and, on the socket route, the
headers that ask for an upgrade.  The conditions of an upgrade are checked in a
fixed order and the first that fails is named in the answer.
-/

namespace Lifeline.Gateway

structure Response where
  status : Nat
  body : String
  deriving DecidableEq

inductive UpgradeFault
  | connection
  | protocol
  | version
  | key
  /-- The request speaks a version that knows no upgrades. -/
  | outdated
  deriving DecidableEq

def UpgradeFault.message : UpgradeFault → String
  | .connection => "Connection header did not include 'upgrade'"
  | .protocol => "`Upgrade` header did not include 'websocket'"
  | .version => "`Sec-WebSocket-Version` header did not include '13'"
  | .key => "`Sec-WebSocket-Key` header missing"
  | .outdated => "WebSocket request couldn't be upgraded since no upgrade state was present"

def UpgradeFault.status : UpgradeFault → Nat
  | .outdated => 426
  | _ => 400

namespace Request

/-- The value of the first header with a name. -/
def header? (request : Request) (name : String) : Option String :=
  (request.headers.find? (·.name == name)).map Header.value

def lowered (text : String) : String := text.map Char.toLower

/-- Whether `part` occurs in `whole`. -/
def occurs (part : List Char) : List Char → Bool
  | [] => part.isEmpty
  | c :: rest => part.isPrefixOf (c :: rest) || occurs part rest

def upgradeFault? (request : Request) : Option UpgradeFault :=
  let value (name : String) : String := lowered ((request.header? name).getD "")
  if !occurs "upgrade".toList (value "connection").toList then some .connection
  else if value "upgrade" != "websocket" then some .protocol
  else if value "sec-websocket-version" != "13" then some .version
  else if (request.header? "sec-websocket-key").isNone then some .key
  else if !request.current then some .outdated
  else none

end Request

/-- The answer of a gateway that is mounted as `router`. -/
def respond (router : Router) (request : Request) : Response :=
  match router.destination request.uri.path with
  | .nowhere => ⟨404, ""⟩
  | .health =>
      if request.method = "GET" then ⟨200, "OK"⟩
      else if request.method = "HEAD" then ⟨200, ""⟩
      else ⟨405, ""⟩
  | .socket =>
      if request.method = "GET" then
        match request.upgradeFault? with
        | some fault => ⟨fault.status, fault.message⟩
        | none => ⟨101, ""⟩
      else ⟨405, ""⟩

/-- The answer to the text of a request. -/
def answer (router : Router) (text : String) : Response :=
  match Request.parse text with
  | .ok request => respond router request
  | .error refusal => ⟨refusal.status, ""⟩

end Lifeline.Gateway
