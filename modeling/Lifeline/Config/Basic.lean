/-!
# Configuration

Nine settings in three sections: who the application is, where its connection
lives, and how often the connection is checked.  All but the port have defaults.
-/

namespace Lifeline

inductive Environment
  | development
  | staging
  | production
  deriving DecidableEq, Repr

namespace Environment

/-- The word a deployment environment is written with. -/
def word : Environment → String
  | .development => "development"
  | .staging => "staging"
  | .production => "production"

def all : List Environment := [.development, .staging, .production]

def isProduction (environment : Environment) : Bool := environment == .production

def isDevelopment (environment : Environment) : Bool := environment == .development

end Environment

structure AppSettings where
  name : String
  environment : Environment
  deriving DecidableEq

/-- Where the socket is served and dialed. -/
structure EndpointSettings where
  host : String
  port : UInt16
  secure : Bool
  path : String
  deriving DecidableEq

/-- The address to bind, `host:port`. -/
def EndpointSettings.address (settings : EndpointSettings) : String :=
  settings.host ++ ":" ++ toString settings.port.toNat

/-- How often a connection is pinged, and how long it is waited for; all in milliseconds. -/
structure Liveness where
  pingInterval : UInt64
  reconnectDelay : UInt64
  pongTimeout : UInt64
  deriving DecidableEq

structure Config where
  app : AppSettings
  endpoint : EndpointSettings
  liveness : Liveness
  deriving DecidableEq

namespace Config.Default

def name : String := "tether"

def environment : Environment := .development

def host : String := "127.0.0.1"

def path : String := "/ws"

def pingInterval : UInt64 := 25000

def reconnectDelay : UInt64 := 5000

def pongTimeout : UInt64 := 2000

end Config.Default

def Liveness.standard : Liveness where
  pingInterval := Config.Default.pingInterval
  reconnectDelay := Config.Default.reconnectDelay
  pongTimeout := Config.Default.pongTimeout

end Lifeline
