import Lifeline.CommandLine.Forwarder
import Lifeline.CommandLine.StartUp
import Lifeline.Gateway.Relay

/-!
# The command line

`client` and `gateway` start the two programs over the standard streams: the
client forwards the lines it reads to a connection whose transport is the
standard output, and the gateway serves one socket whose frames are lines.
-/

namespace Lifeline.CommandLine

/-- The file of variables in the working directory, if there is one. -/
def readFile : IO (Option String) := do
  let file ← (IO.FS.readFile ".env").toBaseIO
  return file.toOption

def readVariables (file : Option String) : IO Variables := do
  let settings := [Setting.name, .environment, .host, .port, .secure, .path, .pingInterval,
    .reconnectDelay, .pongTimeout].map Setting.variable
  let names := settings ++ ((file.map Dotenv.mentioned).getD []).filter fun name =>
    !name.isEmpty && !name.contains '\x00'
  let values ← names.mapM fun name => do return (name, ← IO.getEnv name)
  return fun name => (values.lookup name).join

/-- The connection of a client, which does what the client's handlers do. -/
def clientSetup (config : Config) (endpoint : Endpoint) : Setup Client.Handler :=
  ⟨endpoint.url, config.liveness, Client.registry, Client.respond⟩

/-- Turns of a forwarder, and then what its connection writes. -/
def forwardEvents (setup : Setup Client.Handler) (events : List Forwarder.Event)
    (forwarder : Forwarder) : Forwarder × List String :=
  let (stepped, effects) := Forwarder.run setup (events ++ [.aside (.take 0 true)]) forwarder
  (stepped, effects.filterMap fun
    | .noticed (.effect (.frame _ text)) => some text
    | _ => none)

partial def forward (setup : Setup Client.Handler) (forwarder : Forwarder)
    (input output : IO.FS.Stream) : IO Unit := do
  let line ← input.getLine
  if !line.isEmpty then
    let (forwarder, frames) := forwardEvents setup [.read] { forwarder with lines := [line] }
    frames.forM output.putStrLn
    output.flush
    forward setup forwarder input output

/-- Steps of the gateway, and then the writer of its only socket. -/
def serveInputs (inputs : List Gateway.Input) (gateway : Gateway) : Gateway × List String :=
  let (stepped, effects) := Gateway.run (inputs ++ [.write 1]) gateway
  (stepped, effects.filterMap fun
    | .written _ text => some text
    | .queued _ _ => none)

partial def serve (gateway : Gateway) (input output : IO.FS.Stream) : IO Unit := do
  let line ← input.getLine
  if !line.isEmpty then
    let text := String.ofList (line.toList.takeWhile fun c => c != '\n')
    let (gateway, frames) := serveInputs [.text 1 text] gateway
    frames.forM output.putStrLn
    output.flush
    serve gateway input output

def startProgram (program : Program) : IO UInt32 := do
  let file ← readFile
  let outcome := StartUp.ofFile program .idle (← readVariables file) file
  let input ← IO.getStdin
  let output ← IO.getStdout
  (← IO.getStderr).putStr outcome.errorText
  if let .failed _ failure := outcome then
    (← IO.getStderr).putStrLn (program.failureHeading ++ ": " ++ failure.message)
  match outcome with
  | .connecting config endpoint =>
      let setup := clientSetup config endpoint
      let start := Forwarder.start (Connection.Mailbox.opening setup 0).1 []
      let opened : Forwarder.Event := .aside (.occur 0 true (.report ⟨1, .opened⟩))
      forward setup (forwardEvents setup [opened] start).1 input output
  | .serving _ _ =>
      let (gateway, frames) := serveInputs [.connect, .greet 1 true] .empty
      frames.forM output.putStrLn
      output.flush
      serve gateway input output
  | _ => pure ()
  return UInt32.ofNat outcome.exitCode

end Lifeline.CommandLine

def main (arguments : List String) : IO UInt32 :=
  match arguments with
  | ["client"] => Lifeline.CommandLine.startProgram .client
  | ["gateway"] => Lifeline.CommandLine.startProgram .gateway
  | _ => do
      IO.eprintln "usage: lifeline client|gateway"
      return 2
