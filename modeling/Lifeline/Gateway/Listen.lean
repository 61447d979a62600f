import Lifeline.Address
import Lifeline.Failure
import Lifeline.Gateway.Route

/-!
# Listening

A gateway binds the address of its configuration and mounts its routes.  The
machine has no links, so that any number of thirty-two bits can be bound; what
else may stand in the way is a port that is already taken.
-/

namespace Lifeline.Gateway

/-- Which ports of this machine are taken, with the address that holds each. -/
structure Network where
  taken : List (Address × UInt16)

/-- A machine on which nothing listens yet. -/
def Network.idle : Network := ⟨[]⟩

/-- Listening on a mapped address is listening on the one it stands for. -/
def plain : Address → Address
  | .four bits => .four bits
  | .six groups => match Address.mapped? groups with
      | some bits => .four bits
      | none => .six groups

/-- Whether listeners on two addresses cannot share a port. -/
def clashes (one other : Address) : Bool :=
  let isAny (address : Address) : Bool :=
    address == Address.anyFour || address == Address.anySix
  one == other || isAny one || isAny other

def isTaken (network : Network) (address : Address) (port : UInt16) : Bool :=
  port != 0 && network.taken.any fun (holder, used) =>
    used == port && clashes (plain holder) (plain address)

/-- The host without the brackets that may stand around a number in groups. -/
def hostOf (settings : EndpointSettings) : String :=
  match settings.host.toList with
  | '[' :: rest =>
      let inner := String.ofList rest.dropLast
      if rest.getLast? = some ']' ∧ (Address.readSix inner).isSome then inner else settings.host
  | _ => settings.host

/-- Why an address cannot be bound, whatever listens already. -/
def obstacle? (address : Address) : Option String :=
  match plain address with
  | .four _ => none
  | .six groups =>
      if Address.isShared groups || Address.isLinkLocal groups then
        some "Invalid argument (os error 22)"
      else if address = Address.anySix then none
      else some "Cannot assign requested address (os error 99)"

/-- Binds the configured address and returns it.  A host that is not found is
reported as it was written, and any other fault with the address that was found. -/
def bind (network : Network) (settings : EndpointSettings) : Except Failure Address :=
  match Address.lookup (hostOf settings) with
  | .error error => .error (.bind settings.address error.message)
  | .ok address =>
      let refused (reason : String) : Except Failure Address :=
        .error (.bind (address.withPort settings.port) reason)
      match obstacle? address with
      | some reason => refused reason
      | none =>
          if isTaken network address settings.port then
            refused "Address already in use (os error 98)"
          else .ok address

/-- What becomes of a gateway that is started. -/
inductive Launch
  | failed (failure : Failure)
  /-- The configured path cannot be mounted. -/
  | refused
  | serving (address : Address) (router : Router)
  deriving DecidableEq

/-- Binds first and mounts the routes afterwards. -/
def launch (network : Network) (config : Config) : Launch :=
  match bind network config.endpoint with
  | .error failure => .failed failure
  | .ok address => match Router.mount config.endpoint.path with
      | none => .refused
      | some router => .serving address router

end Lifeline.Gateway
