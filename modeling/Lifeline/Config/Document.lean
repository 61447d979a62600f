import Lifeline.Config.Basic
import Lifeline.Json.Decode

/-!
# Configuration from a document

A configuration may also be written as a Json document with the sections `app`,
`endpoint` and `liveness`.  All sections must be there; inside them every field
but the port has a default.  Unlike variables, a document may set durations to
zero.
-/

namespace Lifeline.Config

open Json

def readEnvironment : Reader Environment :=
  readChoice (Environment.all.map fun environment => (environment.word, environment))

structure AppDraft where
  name : Option String
  environment : Option Environment

def appRecord : Record Reader AppDraft AppSettings where
  name := "AppSettings"
  closed := false
  blank := ⟨none, none⟩
  fields := [
    .ofReader "name" AppDraft.name (fun draft value => { draft with name := some value })
      (readScalar Scalar.text),
    .ofReader "env" AppDraft.environment
      (fun draft value => { draft with environment := some value }) readEnvironment]
  finish draft := .ok
    { name := draft.name.getD Default.name
      environment := draft.environment.getD Default.environment }

structure EndpointDraft where
  host : Option String
  port : Option Nat
  secure : Option Bool
  path : Option String

def endpointRecord : Record Reader EndpointDraft EndpointSettings where
  name := "EndpointConfig"
  closed := false
  blank := ⟨none, none, none, none⟩
  fields := [
    .ofReader "host" EndpointDraft.host (fun draft value => { draft with host := some value })
      (readScalar Scalar.text),
    .ofReader "port" EndpointDraft.port (fun draft value => { draft with port := some value })
      (readScalar Scalar.word16),
    .ofReader "secure" EndpointDraft.secure
      (fun draft value => { draft with secure := some value }) (readScalar Scalar.boolean),
    .ofReader "path" EndpointDraft.path (fun draft value => { draft with path := some value })
      (readScalar Scalar.text)]
  finish draft := match draft.port with
    | none => .error "port"
    | some port => .ok
        { host := draft.host.getD Default.host
          port := UInt16.ofNat port
          secure := draft.secure.getD false
          path := draft.path.getD Default.path }

structure LivenessDraft where
  pingInterval : Option Nat
  reconnectDelay : Option Nat
  pongTimeout : Option Nat

def livenessRecord : Record Reader LivenessDraft Liveness where
  name := "LivenessConfig"
  closed := false
  blank := ⟨none, none, none⟩
  fields := [
    .ofReader "ping_interval_ms" LivenessDraft.pingInterval
      (fun draft value => { draft with pingInterval := some value }) (readScalar Scalar.word64),
    .ofReader "reconnect_delay_ms" LivenessDraft.reconnectDelay
      (fun draft value => { draft with reconnectDelay := some value }) (readScalar Scalar.word64),
    .ofReader "pong_timeout_ms" LivenessDraft.pongTimeout
      (fun draft value => { draft with pongTimeout := some value }) (readScalar Scalar.word64)]
  finish draft := .ok
    { pingInterval := (draft.pingInterval.map UInt64.ofNat).getD Default.pingInterval
      reconnectDelay := (draft.reconnectDelay.map UInt64.ofNat).getD Default.reconnectDelay
      pongTimeout := (draft.pongTimeout.map UInt64.ofNat).getD Default.pongTimeout }

structure ConfigDraft where
  app : Option AppSettings
  endpoint : Option EndpointSettings
  liveness : Option Liveness

def configRecord : Record Reader ConfigDraft Config where
  name := "AppConfig"
  closed := false
  blank := ⟨none, none, none⟩
  fields := [
    .ofReader "app" ConfigDraft.app (fun draft value => { draft with app := some value })
      (readRecord appRecord),
    .ofReader "endpoint" ConfigDraft.endpoint
      (fun draft value => { draft with endpoint := some value }) (readRecord endpointRecord),
    .ofReader "liveness" ConfigDraft.liveness
      (fun draft value => { draft with liveness := some value }) (readRecord livenessRecord)]
  finish draft := match draft.app, draft.endpoint, draft.liveness with
    | none, _, _ => .error "app"
    | _, none, _ => .error "endpoint"
    | _, _, none => .error "liveness"
    | some app, some endpoint, some liveness => .ok ⟨app, endpoint, liveness⟩

/-- The configuration that a document describes. -/
def ofDocument (text : String) : Except Fault Config :=
  readAll (readRecord configRecord) text.toList

end Lifeline.Config
