import ReverseTunnel.Server.Limiter
import ReverseTunnel.Text.Basic

/-!
# Tokens and reservations

The store knows which tokens are valid and whom they identify, and which names and ports are
reserved for whom. A reservation that is there is never replaced by another one that asks.
-/

namespace ReverseTunnel

/-- What can be reserved. -/
inductive Place where
  /-- A label in front of the tunnel domain. -/
  | subdomain (name : String)
  /-- A public port. -/
  | port (number : UInt16)
  deriving DecidableEq, Repr

/-- The text of a place. -/
def Place.text : Place → String
  | .subdomain name => name
  | .port number => toString number.toNat

/-- The form under which a place is compared: names without blanks around them, in small
letters. -/
def Place.normal : Place → Place
  | .subdomain name => .subdomain (Text.lower (Text.trim name))
  | .port number => .port number

/-- Valid tokens with their identities, and places with their owners. -/
structure Store where
  tokens : Table String TokenId := {}
  owners : Table Place TokenId := {}
  deriving DecidableEq, Repr

namespace Store

/-- The wording when a place of another owner is asked for. -/
def alreadyReserved : String := "already reserved"

/-! ### Tokens -/

/-- Makes a token valid, with an identity. -/
def addToken (s : Store) (token : String) (id : TokenId) : Store :=
  { s with tokens := s.tokens.put token id }

/-- Makes a token invalid. -/
def revokeToken (s : Store) (token : String) : Store :=
  { s with tokens := s.tokens.erase token }

/-- The identity of a token that a client shows, blanks around it aside. -/
def tokenId? (s : Store) (shown : String) : Option TokenId := s.tokens.get? (Text.trim shown)

/-- Whether a token that a client shows is valid. -/
def valid (s : Store) (shown : String) : Bool := s.tokens.contains (Text.trim shown)

/-! ### Reservations -/

/-- The owner of a place. -/
def owner? (s : Store) (place : Place) : Option TokenId := s.owners.get? place.normal

/-- Gives a place to an owner, whoever had it before. -/
def assign (s : Store) (owner : TokenId) (place : Place) : Store :=
  { s with owners := s.owners.put place.normal owner }

/-- Reserves a place for an owner. A place of another owner cannot be had. -/
def reserve? (s : Store) (owner : TokenId) (place : Place) : Option Store :=
  match s.owner? place with
  | none => some (s.assign owner place)
  | some current => if current = owner then some s else none

/-- Takes a place from whoever has it. -/
def unreserve (s : Store) (place : Place) : Store :=
  { s with owners := s.owners.erase place.normal }

end Store

end ReverseTunnel
