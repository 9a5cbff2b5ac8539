import ReverseTunnel.Client.Endpoint
import ReverseTunnel.Environment
import ReverseTunnel.Toml.File

/-!
# Configuration of the client

Where the server is and which token to show it. A setting is taken from the environment, else
from the configuration file, else it has its default. A file that is there must be well formed.
-/

namespace ReverseTunnel.Client

/-- What a file says. -/
structure ConfigFile where
  serverUrl : Option String := none
  authtoken : Option String := none
  /-- The file with the certificates to trust. -/
  authority : Option String := none
  deriving DecidableEq, Repr

/-- What the fields of a file say. -/
def ConfigFile.ofToml? (fields : List (String × Toml.Value)) : Option ConfigFile := do
  some {
    serverUrl := ← Toml.readField? fields ["server_url", "server_addr"] Toml.Value.string?
    authtoken := ← Toml.readField? fields ["authtoken"] Toml.Value.string?
    authority := ← Toml.readField? fields ["tls_ca", "ca_cert_path"] Toml.Value.string? }

/-- What a file says. A missing file says nothing; a malformed one is no file at all. -/
def ConfigFile.ofFile? : Option Bytes → Option ConfigFile
  | none => some {}
  | some file => (Toml.ofBytes? file).bind ofToml?

/-- The configuration of a client. -/
structure Config where
  serverUrl : String
  authtoken : String
  authority : Option String
  deriving DecidableEq, Repr

/-- The configuration that the environment and a file make together. -/
def resolve (env : Environment) (file : ConfigFile) : Config where
  serverUrl := ((env.text? "SERVER_URL").or file.serverUrl).getD "http://127.0.0.1:8080"
  authtoken := (((env.text? "AUTHTOKEN").or file.authtoken).map Text.trim).getD ""
  authority := (env.text? "TLS_CA").or file.authority

/-- Whether the certificates to trust have to be read before the server is spoken to. -/
def Config.readsAuthority (c : Config) (endpoint : Endpoint) : Bool :=
  endpoint.tls && c.authority.isSome

end ReverseTunnel.Client
