import ReverseTunnel.Address.Ip

/-!
# Networks

A network is an address and the number of leading bits that its members share. It is kept in
masked form: the bits behind the shared ones are zero. The address of a network is read in the
wide spelling.
-/

namespace ReverseTunnel

/-- A network of either family, by the leading `length` bits of its members. -/
inductive Network where
  | v4 (bits : BitVec 32) (length : Nat)
  | v6 (bits : BitVec 128) (length : Nat)
  deriving DecidableEq, Repr

namespace Network

open Text

/-- The bits with all but the first `n` of them cleared. -/
def mask {w : Nat} (bits : BitVec w) (n : Nat) : BitVec w := (bits >>> (w - n)) <<< (w - n)

/-- The network of one address alone. -/
def single : Ip → Network
  | .v4 bits => .v4 bits 32
  | .v6 bits => .v6 bits 128

/-- The network around an address. -/
def around (ip : Ip) (length : Nat) : Network :=
  match ip with
  | .v4 bits => .v4 (mask bits length) length
  | .v6 bits => .v6 (mask bits length) length

/-- The length behind the slash: at most `digits` digits, at most `bound`. -/
def length? (digits bound : Nat) (cs : List Char) : Option Nat :=
  if cs.length > digits then none else (decimal? cs).filter (· ≤ bound)

/-- The network that `address/length` spells, in masked form. -/
def parseChars? (cs : List Char) : Option Network := do
  let (address, length) ← splitFirst '/' cs
  match ← Ip.parseChars? .wide address with
  | ip@(.v4 _) => (length? 2 32 length).map (around ip)
  | ip@(.v6 _) => (length? 3 128 length).map (around ip)

/-- Whether an address belongs to the network: same family, same leading bits. -/
def contains : Network → Ip → Bool
  | .v4 bits n, .v4 addr => mask addr n == bits
  | .v6 bits n, .v6 addr => mask addr n == bits
  | _, _ => false

/-- `address/length`, the address in canonical spelling. -/
def print : Network → String
  | .v4 bits n => (Ip.v4 bits).print ++ "/" ++ toString n
  | .v6 bits n => (Ip.v6 bits).print ++ "/" ++ toString n

end Network

end ReverseTunnel
