import ReverseTunnel.Server.Plan
import ReverseTunnel.Server.Registry
import ReverseTunnel.Server.Settings

/-!
# Sessions

What the server does from the moment that a client connects. The client opens one stream and
asks for one tunnel. Its token is looked at first, then the rest of the message, then whether
the token may have one more tunnel, then what the request asks for. The tunnel lives as long as
the connection; whatever it holds is given back when it ends.

## Main definitions

* `screen`: who asks, and whether they may ask at all.
* `claim`: a place becomes the token's own, or is its own already.
* `choosePort`, `chooseId`: where the tunnel appears.
* `session`: all of it.
-/

namespace ReverseTunnel.Server

/-! ### Admission -/

/-- Accepts a token: one that is valid, if tokens are looked up; else the shared one, if there
is one. -/
def authenticate (s : Settings) (token : String) : Trial Unit := do
  if s.validates then
    match ← ask (.validate token) with
    | some true => pure ()
    | some false => throw (.plain .unauthorized)
    | none => throw (.plain .authError)
  else
    match s.authToken with
    | none => pure ()
    | some expected =>
      if expected.isEmpty || Text.trim token == expected then pure ()
      else throw (.plain .unauthorized)

/-- Whom a token identifies. Only positive numbers identify. -/
def identify (s : Settings) (token : String) : Trial (Option TokenId) := do
  if s.identifies then
    match ← ask (.identify token) with
    | some id => pure (id.filter fun n => 0 < n)
    | none => throw (.plain .authError)
  else pure none

/-- A request that may go on to be served. -/
structure Admission where
  /-- Whom the token identifies. -/
  token : Option TokenId
  /-- What is asked for, if the kind is known. -/
  request : Option TunnelRequest

/-- Takes a slot and spends a request. A request that comes too soon does not keep its slot.
Tokens that identify nobody are not counted. -/
def charge (s : Settings) (token : Option TokenId) : Trial Unit := do
  let counted := token.getD 0
  unless ← ask (.acquire counted s.maxTunnels) do throw (.plain .tooManyTunnels)
  unless ← ask (.create counted s.maxCreations) do
    ask .release
    throw (.plain .rateLimited)

/-- Looks at a request as far as its kind does not matter. A malformed one costs nothing; one
of an unknown kind is paid for like any other. -/
def screen (s : Settings) (raw : RawRequest) : Trial Admission := do
  authenticate s raw.authtoken
  let token ← identify s raw.authtoken
  let request ← match raw.kind? with
    | none => pure none
    | some _ => some <$> liftExcept raw.decode
  charge s token
  pure ⟨token, request⟩
where
  liftExcept {α : Type} (e : Except Rejection α) : Trial α := ExceptT.mk (pure e)

/-! ### Reservations -/

/-- The rejection when nobody can say who has reserved a place. -/
def lookupFailed : Place → Rejection
  | .subdomain _ => ⟨.invalidRequest, "invalid subdomain"⟩
  | .port _ => .plain .authError

/-- The rejection when a place belongs to nobody and yet cannot be reserved. -/
def claimFailed : Place → Rejection
  | .subdomain _ => ⟨.allocationFailed, "failed to reserve subdomain"⟩
  | .port _ => ⟨.allocationFailed, "failed to reserve port"⟩

/-- Makes a place the token's own. If it cannot be reserved, somebody else may have been
faster, so its owner is asked for once more. -/
def claim (s : Settings) (place : Place) (token : Option TokenId) : Trial Unit := do
  if s.ownsPlaces then
    let some token := token | throw (.plain .unauthorized)
    let judge (owner : TokenId) : Trial Unit :=
      if owner = token then pure () else throw (.plain .unauthorized)
    match ← ask (.owner place) with
    | none => throw (lookupFailed place)
    | some (some owner) => judge owner
    | some none =>
      if ← ask (.reserve token place) then pure ()
      else
        match ← ask (.owner place) with
        | some (some owner) => judge owner
        | _ => throw (claimFailed place)
  else pure ()

/-- Whether a port is reserved, and not for this token. A port of which this cannot be said is
not offered. -/
def reservedForOther (s : Settings) (port : UInt16) (token : Option TokenId) : Trial Bool := do
  if s.ownsPlaces then
    match ← ask (.owner (.port port)) with
    | some (some owner) => pure (some owner != token)
    | some none => pure false
    | none => pure true
  else pure false

/-! ### Places -/

/-- Binds the first port that is neither reserved for somebody else nor taken. -/
def bindFirst (s : Settings) (token : Option TokenId) : List UInt16 → Trial UInt16
  | [] => throw (.plain .noPortsAvailable)
  | port :: rest => do
    if ← reservedForOther s port token then bindFirst s token rest
    else if ← ask (.bind port) then pure port
    else bindFirst s token rest

/-- Binds the port that is asked for, or any one of the range if none is. -/
def choosePort (s : Settings) (token : Option TokenId) (wanted : UInt16) : Trial UInt16 := do
  if wanted = 0 then
    let range ← ExceptT.mk (pure s.ports.check)
    bindFirst s token range.ports
  else
    ExceptT.mk (pure (s.ports.checkPort wanted))
    claim s (.port wanted) token
    unless ← ask (.bind wanted) do throw (.plain .portUnavailable)
    pure wanted

/-- The id that a request names, by a label or by a whole name under the tunnel domain; none if
it names none. It cannot name both. -/
def namedId (tunnelDomain : String) (request : HttpTunnelRequest) :
    Except Rejection (Option String) :=
  let label := Text.lower (Text.trim request.subdomain)
  let name := Text.trim request.domain
  match label.isEmpty, name.isEmpty with
  | true, true => .ok none
  | false, false => .error (.plain .invalidRequest)
  | false, true =>
    if Domain.isLabel label then .ok (some label)
    else .error ⟨.invalidRequest, "invalid subdomain"⟩
  | true, false =>
    match (Domain.label? (Domain.ofInput name) tunnelDomain).filter Domain.isLabel with
    | some id => .ok (some id)
    | none => .error ⟨.invalidRequest, "invalid domain"⟩

/-- The id under which a tunnel will be found: the one that is asked for, which is then the
token's own, or a random one. -/
def chooseId (s : Settings) (token : Option TokenId) (request : HttpTunnelRequest) :
    Trial String := do
  match ← ExceptT.mk (pure (namedId s.tunnelDomain request)) with
  | none =>
    match ← ask .draw with
    | some id => pure id
    | none => throw (.plain .allocationFailed)
  | some id =>
    claim s (.subdomain id) token
    pure id

/-- The id and the policy of a tunnel. -/
def prepare (s : Settings) (token : Option TokenId) (request : HttpTunnelRequest) :
    Trial (String × Policy) := do
  let id ← chooseId s token request
  let policy ← ExceptT.mk (pure ((Policy.ofRequest request).mapError FieldError.toRejection))
  pure (id, policy)

/-! ### Whole sessions -/

/-- Turns a request down. -/
def refuse (kind : Option TunnelKind) (r : Rejection) : Plan Unit := do
  let _ ← call (.send (.rejected kind r))
  call .linger
  call .close

/-- Serves a port. -/
def serveTcp (s : Settings) (token : Option TokenId) (request : TcpTunnelRequest) :
    Plan Unit := do
  match ← (choosePort s token request.remotePort).run with
  | .error r => refuse (some .tcp) r
  | .ok port =>
    if ← call (.send (.grantedPort port)) then
      call .await
      call (.unbind port)
      call .close
    else
      call .close
      call (.unbind port)

/-- Serves a name. -/
def serveHttp (s : Settings) (token : Option TokenId) (request : HttpTunnelRequest) :
    Plan Unit := do
  match ← (prepare s token request).run with
  | .error r => refuse (some .http) r
  | .ok (id, policy) =>
    if ← call (.register id policy) then
      if ← call (.send (.grantedName id (s.publicUrl id))) then call .await
      call (.unregister id)
      call .close
    else refuse (some .http) (.plain .registrationFailed)

/-- Serves a request that was admitted. Its slot is given back at the very end. -/
def serve (s : Settings) (admission : Admission) : Plan Unit := do
  match admission.request with
  | none => refuse none (.plain .unsupportedType)
  | some (.tcp request) => serveTcp s admission.token request
  | some (.http request) => serveHttp s admission.token request
  call .release

/-- Replies to the first message. -/
def respond (s : Settings) (raw : RawRequest) : Plan Unit := do
  match ← (screen s raw).run with
  | .error r => refuse raw.kind? r
  | .ok admission => serve s admission

/-- All that the server does for one client. -/
def session (s : Settings) : Plan Unit := do
  if ← call .accept then
    match ← call .receive with
    | .request raw => respond s raw
    | .malformed => refuse none (.plain .protocol)
    | .ended => call .close
  else call .close

end ReverseTunnel.Server
