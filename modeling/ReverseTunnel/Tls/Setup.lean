import ReverseTunnel.Tls.Certificate
import ReverseTunnel.Tls.Pem
import ReverseTunnel.TunnelError

/-!
# Securing connections

What is needed to secure a connection: the server needs certificates and a key; a client needs
authorities to trust, its own or those of the web. Which protocol may be spoken inside is
settled with the setup.
-/

namespace ReverseTunnel.Tls

/-- A setup: the protocols that may be spoken inside, best first. -/
structure Setup where
  protocols : List String
  deriving DecidableEq, Repr

/-- The setup of the public listener. The first certificate is its own, and the key has to
belong to it. -/
def server (certificate key : String) : Except TunnelError Setup := do
  let found ← (Pem.certificates certificate).mapError fun e => .certificate e.reason
  let (form, content) ← (Pem.privateKey key).mapError fun e => .certificate e.reason
  let fits := (found.head?.bind Certificate.ofBytes?).any fun c => form.fits content c.publicKey
  if fits then .ok ⟨["http/1.1"]⟩ else .error (.tls "Failed to build server config")

/-- The setup of a client, with its own authorities or those of the web. -/
def client (authorities : Option String) : Except TunnelError Setup :=
  match authorities with
  | none => .ok ⟨[]⟩
  | some text => do
    let found ← (Pem.certificates text).mapError fun e => .certificate e.reason
    if found.all Certificate.isAuthority then .ok ⟨[]⟩
    else .error (.certificate "Failed to add CA certificate")

/-- The setup for a local service. Requests to it are passed on as they come. -/
def service : Setup := ⟨["http/1.1"]⟩

end ReverseTunnel.Tls
