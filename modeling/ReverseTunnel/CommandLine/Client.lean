import ReverseTunnel.Client.Config
import ReverseTunnel.Client.HostLine
import ReverseTunnel.Client.Request
import ReverseTunnel.Client.Service
import ReverseTunnel.CommandLine.Arguments
import ReverseTunnel.Control.Message

/-!
# The command line of the client

The client has one command for each kind of tunnel. Where the server is and which token to show
may be given before or behind the name of the command.
-/

namespace ReverseTunnel.CommandLine

open Text

/-! ### What may be given -/

/-- The options of every command. -/
def commonOptions : List Opt := [
  { name := "config", letter := some 'c', allows := fun path => !path.isEmpty },
  { name := "server", letter := some 's' },
  { name := "authtoken" },
  { name := "ca", allows := fun path => !path.isEmpty }]

/-- A header field written as `Name: value`. Blanks around both parts do not count. -/
def readHeader? (text : String) : Option HeaderEntry := do
  let (name, value) ← splitFirst ':' text.toList
  let name := trimBy isBlank name
  if name.isEmpty then none
  else some ⟨String.ofList name, String.ofList (trimBy isBlank value)⟩

/-- A public port, which may be 0 for any. -/
def readPort? (text : String) : Option UInt16 :=
  ((signed? text).filter fun n => 0 ≤ n && n < 65536).map fun n => UInt16.ofNat n.toNat

/-- The command for a name. -/
def httpForm : Form where
  options := commonOptions ++ [
    { name := "upstream-tls-skip-verify", takesValue := false },
    { name := "subdomain" }, { name := "domain" }, { name := "basic-auth" },
    { name := "allow-cidr", repeats := true }, { name := "deny-cidr", repeats := true },
    { name := "allow-method", repeats := true }, { name := "allow-path", repeats := true },
    { name := "allow-path-prefix", repeats := true },
    { name := "request-header-add", repeats := true
      allows := fun text => (readHeader? text).isSome },
    { name := "request-header-remove", repeats := true },
    { name := "response-header-add", repeats := true
      allows := fun text => (readHeader? text).isSome },
    { name := "response-header-remove", repeats := true },
    { name := "host-header", allows := fun text => (HostMode.parse text).toBool },
    { name := "log-requests", takesValue := false }]
  operands := [{ name := "ADDR", allows := fun text => (Service.parse text).toBool }]

/-- The command for a port. -/
def tcpForm : Form where
  options := commonOptions ++ [
    { name := "remote-port", allows := fun text => (readPort? text).isSome }]
  operands := [{ name := "ADDR" }]

/-! ### What is meant -/

/-- What the client is to expose. -/
inductive Exposure where
  /-- A local web service under a name. -/
  | http (service : Service) (request : HttpTunnelRequest) (hostMode : HostMode)
      (trustsAnyCertificate logs : Bool)
  /-- A local address behind a port. -/
  | tcp (address : String) (port : UInt16)
  deriving DecidableEq, Repr

/-- What the client is to do. -/
structure ClientCommand where
  config : Option String := none
  server : Option String := none
  authtoken : Option String := none
  authority : Option String := none
  exposure : Exposure
  deriving DecidableEq, Repr

/-- The exposure of a web service that was asked for. The operand was checked before. -/
def httpExposure (given : Given) : Except Stop Exposure := do
  if given.has "subdomain" && given.has "domain" then
    throw (.misuse (.conflict "subdomain" "domain"))
  let address := given.operands.head?.getD ""
  let service ← (Service.parse address).mapError fun _ =>
    .misuse (.invalidValue "ADDR" address)
  let host := (given.value? "host-header").getD "preserve"
  let hostMode ← (HostMode.parse host).mapError fun _ =>
    .misuse (.invalidValue "host-header" host)
  let headers (name : String) := (given.values name).filterMap readHeader?
  let request : HttpTunnelRequest := {
    subdomain := (given.value? "subdomain").getD ""
    domain := (given.value? "domain").getD ""
    basicAuth := (given.value? "basic-auth").getD ""
    allowCidr := given.values "allow-cidr"
    denyCidr := given.values "deny-cidr"
    requestHeaderAdd := headers "request-header-add"
    requestHeaderRemove := given.values "request-header-remove"
    responseHeaderAdd := headers "response-header-add"
    responseHeaderRemove := given.values "response-header-remove"
    allowMethod := given.values "allow-method"
    allowPath := given.values "allow-path"
    allowPathPrefix := given.values "allow-path-prefix" }
  return .http service request hostMode (given.has "upstream-tls-skip-verify")
    (given.has "log-requests")

/-- The exposure of a local address that was asked for. -/
def tcpExposure (given : Given) : Exposure :=
  .tcp (localAddress (given.operands.head?.getD ""))
    (((given.value? "remote-port").bind readPort?).getD 0)

/-- What help is given for: the client, or one of its commands. -/
def readHelp : List String → Except Stop Unit
  | [] | ["http"] | ["tcp"] | ["help"] => .error .help
  | name :: _ => .error (.misuse (.unknownCommand name))

/-- What the arguments of the client mean. What stands behind the name of the command wins
over what stands before it. -/
def readClient (arguments : List String) : Except Stop ClientCommand := do
  let (before, rest) ← readRow ⟨commonOptions, []⟩ arguments.length {} arguments
  let command (given : Given) (exposure : Exposure) : ClientCommand :=
    let common (name : String) := (given.value? name).or (before.value? name)
    ⟨common "config", common "server", common "authtoken", common "ca", exposure⟩
  match rest with
  | [] => throw (.misuse .missingCommand)
  | "http" :: rest =>
    let given ← httpForm.read rest
    return command given (← httpExposure given)
  | "tcp" :: rest =>
    let given ← tcpForm.read rest
    return command given (tcpExposure given)
  | "help" :: rest =>
    readHelp rest
    throw .help
  | name :: _ => throw (.misuse (.unknownCommand name))

namespace ClientCommand

/-- The configuration with what the command line says, which wins over all else. -/
def configure (c : ClientCommand) (config : Client.Config) : Client.Config where
  serverUrl := c.server.getD config.serverUrl
  authtoken := (c.authtoken.map trim).getD config.authtoken
  authority := c.authority.or config.authority

/-- The request that the client sends with a token. -/
def request (c : ClientCommand) (authtoken : String) : TunnelRequest :=
  match c.exposure with
  | .http _ request _ _ _ => .http { request with authtoken }
  | .tcp _ port => .tcp ⟨authtoken, port⟩

/-- The line that is printed when the tunnel is open. -/
def announcement (c : ClientCommand) (serverHost : String) (grant : Client.Grant) : String :=
  let place := match grant with
    | .name answer => answer.url
    | .port port => s!"tcp://{serverHost}:{port.toNat}"
  let service := match c.exposure with
    | .http service _ _ _ _ => service.print
    | .tcp address _ => address
  "Forwarding " ++ place ++ " -> " ++ service

end ClientCommand

end ReverseTunnel.CommandLine
