import ReverseTunnel.Address.Socket
import ReverseTunnel.Environment
import ReverseTunnel.Server.Settings
import ReverseTunnel.Server.Store
import ReverseTunnel.Toml.File

/-!
# Configuration of the server

A setting is taken from the environment, else from the configuration file, else it has its
default. The settings are checked in a fixed order, and the first one that does not fit is
reported. A file that is missing, malformed or of the wrong types says nothing at all.

## Main definitions

* `ConfigFile.ofToml?`: the settings that a file gives.
* `resolve`: the configuration that the environment and a file make together.
* `Config.store?`, `Config.settings`: what the server starts with.
-/

namespace ReverseTunnel.Server

/-! ### The file -/

/-- A token that the server knows, and what is reserved for it. -/
structure TokenEntry where
  token : String := ""
  id : TokenId := 0
  subdomains : List String := []
  ports : List UInt16 := []
  deriving DecidableEq, Repr

/-- What a file says. -/
structure ConfigFile where
  httpAddress : Option String := none
  tunnelDomain : Option String := none
  ports : Option (UInt16 × UInt16) := none
  bindAddress : Option String := none
  trustsProxy : Option Bool := none
  maxTunnels : Option Int := none
  maxCreations : Option Int := none
  authToken : Option String := none
  certificate : Option String := none
  key : Option String := none
  tokens : List TokenEntry := []
  deriving DecidableEq, Repr

open Toml in
/-- The entry of a token: a table, or an array of its values in order. A date is a table of
fields with other names. -/
def TokenEntry.ofToml? (value : Value) : Option TokenEntry := do
  let fields ← match value with
    | .table fields => some fields
    | .array items => some (["token", "id", "subdomains", "tcp_ports"].zip items)
    | .date => some []
    | _ => none
  some {
    token := (← readField? fields ["token"] Value.string?).getD ""
    id := (← readField? fields ["id"] Value.integer?).getD 0
    subdomains := (← readField? fields ["subdomains"] (Value.listOf? Value.string?)).getD []
    ports := (← readField? fields ["tcp_ports"] (Value.listOf? Value.port?)).getD [] }

open Toml in
/-- What the fields of a file say. Fields of other names say nothing. -/
def ConfigFile.ofToml? (fields : List (String × Value)) : Option ConfigFile := do
  some {
    httpAddress := ← readField? fields ["http_addr"] Value.string?
    tunnelDomain := ← readField? fields ["tunnel_domain"] Value.string?
    ports := ← readField? fields ["tcp_port_range"] (Value.pairOf? Value.port?)
    bindAddress := ← readField? fields ["tcp_bind_addr"] Value.string?
    trustsProxy := ← readField? fields ["trust_proxy_headers"] Value.boolean?
    maxTunnels := ← readField? fields ["max_tunnels_per_token"] Value.integer?
    maxCreations := ← readField? fields ["max_tunnel_creates_per_minute"] Value.integer?
    authToken := ← readField? fields ["auth_token"] Value.string?
    certificate := ← readField? fields ["tls_cert", "cert_path"] Value.string?
    key := ← readField? fields ["tls_key", "key_path"] Value.string?
    tokens := (← readField? fields ["tokens"] (Value.listOf? TokenEntry.ofToml?)).getD [] }

/-- What a file says that may be missing. -/
def ConfigFile.ofFile (file : Option Bytes) : ConfigFile :=
  ((file.bind Toml.ofBytes?).bind ofToml?).getD {}

/-! ### The configuration -/

/-- The files with which the server proves who it is. -/
structure TlsFiles where
  certificate : String
  key : String
  deriving DecidableEq, Repr

/-- The configuration of a server. -/
structure Config where
  /-- Where visitors and clients connect. -/
  httpAddress : SocketAddress
  tunnelDomain : String
  ports : PortRange
  /-- Where public ports are bound. -/
  bindAddress : Ip
  /-- Whether the headers of a proxy in front tell the address of a visitor. -/
  trustsProxy : Bool
  maxTunnels : Int
  maxCreations : Int
  authToken : Option String
  tls : Option TlsFiles
  tokens : List TokenEntry
  deriving DecidableEq, Repr

/-- Why there is no configuration. -/
inductive ConfigError where
  | httpAddress (text : String)
  | tunnelDomain
  | ports (first last : UInt16)
  | bindAddress (text : String)
  | tls
  | tokens
  deriving DecidableEq, Repr

/-- The wording of the error. -/
def ConfigError.message : ConfigError → String
  | .httpAddress text => "Invalid listen address " ++ text ++ ": invalid socket address syntax"
  | .tunnelDomain =>
    "Tunnel domain required. Set SLUICE_TUNNEL_DOMAIN or tunnel_domain in config"
  | .ports first last => s!"Invalid TCP port range {first.toNat}-{last.toNat}"
  | .bindAddress text => "Invalid TCP bind address " ++ text ++ ": invalid IP address syntax"
  | .tls => "Both tls_cert and tls_key must be set to enable TLS"
  | .tokens => "Every [[tokens]] entry needs a token and a positive id"

/-! ### Resolution -/

/-- Where visitors and clients connect. -/
def resolveAddress (env : Environment) (file : ConfigFile) :
    Except ConfigError SocketAddress :=
  let text := ((env.text? "HTTP_ADDR").or file.httpAddress).getD "0.0.0.0:8080"
  (SocketAddress.parse? text).elim (.error (.httpAddress text)) .ok

/-- The tunnel domain, which has no default. -/
def resolveDomain (env : Environment) (file : ConfigFile) : Except ConfigError String :=
  let text := (env.text? "TUNNEL_DOMAIN").or file.tunnelDomain
  (text.filter fun d => !Text.blank d).elim (.error .tunnelDomain) .ok

/-- The public ports. Each end of the range is a setting by itself. -/
def resolvePorts (env : Environment) (file : ConfigFile) : Except ConfigError PortRange :=
  let first := ((env.port? "TCP_PORT_START").or (file.ports.map (·.1))).getD 30000
  let last := ((env.port? "TCP_PORT_END").or (file.ports.map (·.2))).getD 40000
  if first = 0 ∨ last < first then .error (.ports first last) else .ok ⟨first, last⟩

/-- Where public ports are bound. -/
def resolveBindAddress (env : Environment) (file : ConfigFile) : Except ConfigError Ip :=
  match (env.text? "TCP_BIND_ADDR").or file.bindAddress with
  | none => .ok (.v4 0)
  | some text => (Ip.parse? (Text.trim text)).elim (.error (.bindAddress text)) .ok

/-- The files for encryption: both or none. -/
def resolveTls (env : Environment) (file : ConfigFile) : Except ConfigError (Option TlsFiles) :=
  match (env.text? "TLS_CERT").or file.certificate, (env.text? "TLS_KEY").or file.key with
  | some certificate, some key => .ok (some ⟨certificate, key⟩)
  | none, none => .ok none
  | _, _ => .error .tls

/-- The tokens, each of which needs a text and an identity. -/
def checkTokens (tokens : List TokenEntry) : Except ConfigError (List TokenEntry) :=
  if tokens.any fun entry => Text.blank entry.token || entry.id ≤ 0 then .error .tokens
  else .ok tokens

/-- The configuration that the environment and a file make together. -/
def resolve (env : Environment) (file : ConfigFile) : Except ConfigError Config := do
  let httpAddress ← resolveAddress env file
  let tunnelDomain ← resolveDomain env file
  let ports ← resolvePorts env file
  let bindAddress ← resolveBindAddress env file
  let tls ← resolveTls env file
  let tokens ← checkTokens file.tokens
  let authToken := ((env.text? "AUTH_TOKEN").or file.authToken).map Text.trim
  .ok {
    httpAddress, tunnelDomain, ports, bindAddress, tls, tokens
    trustsProxy := ((env.boolean? "TRUST_PROXY_HEADERS").or file.trustsProxy).getD false
    maxTunnels := ((env.number? "MAX_TUNNELS_PER_TOKEN").or file.maxTunnels).getD 0
    maxCreations :=
      ((env.number? "MAX_TUNNEL_CREATES_PER_MINUTE").or file.maxCreations).getD 0
    authToken := authToken.filter fun token => !token.isEmpty }

/-! ### What the server starts with -/

/-- The store with a token and all that is reserved for it. -/
def TokenEntry.addTo (store : Store) (entry : TokenEntry) : Store :=
  let store := store.addToken (Text.trim entry.token) entry.id
  let store := entry.subdomains.foldl (fun s name => s.assign entry.id (.subdomain name)) store
  entry.ports.foldl (fun s port => s.assign entry.id (.port port)) store

namespace Config

/-- The store with all tokens, if there are any. Of two that are the same, the last one
counts. -/
def store? (c : Config) : Option Store :=
  if c.tokens.isEmpty then none else some (c.tokens.foldl TokenEntry.addTo {})

/-- The settings for sessions. Tokens are looked up if there is a store. -/
def settings (c : Config) : Settings where
  tunnelDomain := c.tunnelDomain
  authToken := c.authToken
  maxTunnels := c.maxTunnels
  maxCreations := c.maxCreations
  ports := c.ports
  validates := !c.tokens.isEmpty
  identifies := !c.tokens.isEmpty
  reserves := !c.tokens.isEmpty

end Config

end ReverseTunnel.Server
