import ReverseTunnel.Policy.Basic
import ReverseTunnel.Table

/-!
# Live tunnels under public names

The registry holds the tunnels that visitors can reach, each under its id: the label in front
of the tunnel domain. An id that is taken stays with its tunnel until that tunnel ends.
-/

namespace ReverseTunnel

/-- A live tunnel: its id, the session that leads to its client, and its policy. -/
structure Tunnel (σ : Type) where
  id : String
  session : σ
  policy : Policy

/-- How a tunnel is shown in messages. -/
def Tunnel.describe {σ : Type} (tunnel : Tunnel σ) : String :=
  "HttpTunnelEntry \x7b id: " ++ Text.quoted tunnel.id ++ ", policy: " ++ tunnel.policy.describe
    ++ ", .. \x7d"

/-- The live tunnels by id. -/
structure Registry (σ : Type) where
  tunnels : Table String (Tunnel σ) := {}

/-- Why a tunnel cannot be registered. -/
inductive RegistryError where
  | emptyId
  | alreadyExists
  | idExhausted
  deriving DecidableEq, Repr

/-- The wording of the error. -/
def RegistryError.message : RegistryError → String
  | .emptyId => "tunnel id is empty"
  | .alreadyExists => "tunnel id already exists"
  | .idExhausted => "failed to allocate a unique id"

namespace Registry

variable {σ : Type}

/-- The form under which ids are compared: no blanks around them, small letters, not empty. -/
def normalId? (id : String) : Option String :=
  let id := Text.lower (Text.trim id)
  if id.isEmpty then none else some id

/-- The tunnel under an id. -/
def get? (r : Registry σ) (id : String) : Option (Tunnel σ) :=
  (normalId? id).bind r.tunnels.get?

/-- Whether an id is taken. -/
def contains (r : Registry σ) (id : String) : Bool := (r.get? id).isSome

/-- The number of live tunnels. -/
def size (r : Registry σ) : Nat := r.tunnels.size

/-- Adds a tunnel under its id, unless the id is taken. The tunnel carries the id in its
comparable form. -/
def register (r : Registry σ) (tunnel : Tunnel σ) :
    Except RegistryError (Tunnel σ × Registry σ) :=
  match normalId? tunnel.id with
  | none => .error .emptyId
  | some id =>
    if r.tunnels.contains id then .error .alreadyExists
    else
      let tunnel := { tunnel with id }
      .ok (tunnel, ⟨r.tunnels.put id tunnel⟩)

/-- Removes the tunnel under an id, if there is one. -/
def unregister (r : Registry σ) (id : String) : Registry σ :=
  match normalId? id with
  | none => r
  | some id => ⟨r.tunnels.erase id⟩

/-! ### Random ids -/

/-- The length of a random id. -/
def idLength : Nat := 8

/-- How many random ids are tried. -/
def idAttempts : Nat := 10

/-- The characters of a random id. -/
def idAlphabet : List Char := "abcdefghijklmnopqrstuvwxyz234567".toList

/-- Whether a text can be a random id. -/
def isRandomId (id : String) : Bool :=
  id.toList.length == idLength && id.toList.all idAlphabet.contains

/-- The first of the drawn ids that is free. After the allowed number of draws there is
none. -/
def allocate (r : Registry σ) (draws : List String) : Except RegistryError String :=
  match (draws.take idAttempts).find? fun id => !r.tunnels.contains id with
  | some id => .ok id
  | none => .error .idExhausted

end Registry

end ReverseTunnel
