import ReverseTunnel.CommandLine.Client
import ReverseTunnel.CommandLine.Server
import ReverseTunnel.Server.Config
import ReverseTunnel.Server.Rehearsal

/-!
# The program

`server` in front of the arguments makes the program a server; else it is a client. Both speak
the control protocol over their standard streams: a server reads one request a line and writes
one answer a line, a client writes its request and reads its answer. What is decided is decided
by the library; here files, variables, streams, the clock and chance are read.
-/

namespace ReverseTunnel

open CommandLine

/-- The status of a clean end. -/
def exitDone : UInt32 := 0

/-- The status of a failure. -/
def exitFailed : UInt32 := 1

/-- The status of a command line that does not fit. -/
def exitMisused : UInt32 := 2

/-- The variables that the program looks at. -/
def variableNames : List String := [
  "HTTP_ADDR", "TUNNEL_DOMAIN", "TCP_PORT_START", "TCP_PORT_END", "TCP_BIND_ADDR",
  "TRUST_PROXY_HEADERS", "MAX_TUNNELS_PER_TOKEN", "MAX_TUNNEL_CREATES_PER_MINUTE", "AUTH_TOKEN",
  "TLS_CERT", "TLS_KEY", "SERVER_URL", "AUTHTOKEN", "TLS_CA"]

/-- The environment, as far as the program looks at it. -/
def readEnvironment : IO Environment := do
  variableNames.foldlM (fun env name => do
    let name := "SLUICE_" ++ name
    match ← IO.getEnv name with
    | some text => return env.put name (Text.Utf8.encode text)
    | none => return env) {}

/-- The content of a file, if it is there. -/
def readFile? (path : String) : IO (Option Bytes) := do
  try
    return some (← IO.FS.readBinFile path).toList
  catch _ =>
    return none

/-- Reports a failure. -/
def fail (message : String) : IO UInt32 := do
  IO.eprintln ("Error: " ++ message)
  return exitFailed

/-- Reports why a command line was not read to its end. -/
def reportStop (usage : String) : Stop → IO UInt32
  | .help => do
    IO.println usage
    return exitDone
  | .misuse misuse => do
    IO.eprintln ("error: " ++ misuse.message ++ "\n\n" ++ usage)
    return exitMisused

/-! ### The server -/

/-- A random id. -/
def drawId : IO String := do
  let cs ← (List.range Registry.idLength).mapM fun _ => do
    let n ← IO.rand 0 (Registry.idAlphabet.length - 1)
    return (Registry.idAlphabet[n]?).getD 'a'
  return String.ofList cs

/-- Answers requests as long as there are any. -/
partial def answerRequests (input output : IO.FS.Stream) (r : Server.Rehearsal)
    (number : Nat) : IO Unit := do
  let line ← input.getLine
  if line.isEmpty then return
  let draws ← (List.range Registry.idAttempts).mapM fun _ => drawId
  let now ← IO.monoNanosNow
  let me := toString number
  let r := { r with now }.connect me { input := Text.Utf8.encode line, ends := true, draws }
  if let some answer := r.answer? me then
    output.putStrLn ((Text.Utf8.decode? answer.toJson.print).getD "")
    output.flush
  answerRequests input output r (number + 1)

/-- What the server prints when it is asked for help. -/
def serverUsage : String := "Usage: reverse-tunnel server [--config <CONFIG>]"

/-- Runs the server. -/
def runServer (arguments : List String) : IO UInt32 := do
  match readServer arguments with
  | .error stop => reportStop serverUsage stop
  | .ok command =>
    let file := Server.ConfigFile.ofFile (← readFile? command.config)
    match Server.resolve (← readEnvironment) file with
    | .error e => fail ("Failed to load config from " ++ command.config ++ ": " ++ e.message)
    | .ok config =>
      let store := config.store?.getD {}
      let start : Server.Rehearsal :=
        { settings := config.settings, system := { shared := { store } } }
      answerRequests (← IO.getStdin) (← IO.getStdout) start 0
      return exitDone

/-! ### The client -/

/-- What the client prints when it is asked for help. -/
def clientUsage : String :=
  "Usage: reverse-tunnel [OPTIONS] http <ADDR> | tcp <ADDR>"

/-- Where the configuration of the client is, unless the command line says so. -/
def defaultConfig : IO String := do
  match ← IO.getEnv "XDG_CONFIG_HOME", ← IO.getEnv "HOME" with
  | some home, _ => return home ++ "/sluice/config.toml"
  | none, some home => return home ++ "/.config/sluice/config.toml"
  | none, none => return "./sluice/config.toml"

/-- All that is still to be read. -/
partial def readAll (input : IO.FS.Stream) (read : Bytes) : IO Bytes := do
  let piece ← input.read 65536
  if piece.isEmpty then return read else readAll input (read ++ piece.toList)

/-- Asks for a tunnel over the standard streams. -/
def askForTunnel (command : ClientCommand) (config : Client.Config) (endpoint : Endpoint) :
    IO UInt32 := do
  let request := command.request config.authtoken
  match Client.requestLine request with
  | .error e => fail (TunnelError.message (.line e))
  | .ok line =>
    let output ← IO.getStdout
    output.putStr ((Text.Utf8.decode? line).getD "")
    output.flush
    match Client.grantOf request.kind (← readAll (← IO.getStdin) []) with
    | .error e => fail e.message
    | .ok grant =>
      IO.eprintln (command.announcement endpoint.host grant)
      return exitDone

/-- Runs the client. -/
def runClient (arguments : List String) : IO UInt32 := do
  match readClient arguments with
  | .error stop => reportStop clientUsage stop
  | .ok command =>
    let path ← command.config.elim defaultConfig pure
    match Client.ConfigFile.ofFile? (← readFile? path) with
    | none => fail ("Failed to load client configuration: " ++ path)
    | some file =>
      let config := command.configure (Client.resolve (← readEnvironment) file)
      match Endpoint.parse config.serverUrl with
      | .error e => fail (TunnelError.message (.invalidUrl e.reason))
      | .ok endpoint => askForTunnel command config endpoint

end ReverseTunnel

/-- Runs the server or the client. -/
def main (arguments : List String) : IO UInt32 :=
  match arguments with
  | "server" :: rest => ReverseTunnel.runServer rest
  | arguments => ReverseTunnel.runClient arguments
