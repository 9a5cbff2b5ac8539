import ReverseTunnel.Domain
import ReverseTunnel.Server.PortRange

/-!
# Settings of the server

What the operator decides about sessions: whom the server asks about tokens, how much a token
may have, and where tunnels appear.
-/

namespace ReverseTunnel.Server

/-- What the operator decides about sessions. -/
structure Settings where
  /-- The domain in front of which tunnels get their labels. -/
  tunnelDomain : String
  /-- The token that every client shows, if tokens are not looked up. -/
  authToken : Option String := none
  /-- The most tunnels that a token may have at once; 0 for no limit. -/
  maxTunnels : Int := 0
  /-- The most requests that a token may make in a minute; 0 for no limit. -/
  maxCreations : Int := 0
  /-- The public ports. -/
  ports : PortRange
  /-- Whether tokens are looked up to see if they are valid. -/
  validates : Bool := false
  /-- Whether tokens are looked up to see whom they identify. -/
  identifies : Bool := false
  /-- Whether there is a store of reservations. -/
  reserves : Bool := false
  deriving DecidableEq, Repr

namespace Settings

/-- Whether places belong to tokens. A reservation means nothing to a server that cannot tell
tokens apart. -/
def ownsPlaces (s : Settings) : Bool := s.identifies && s.reserves

/-- The address of a tunnel. -/
def publicUrl (s : Settings) (id : String) : String :=
  "https://" ++ id ++ "." ++ Domain.normalize s.tunnelDomain

end Settings

end ReverseTunnel.Server
