import ReverseTunnel.Control.Rejection

/-!
# The range of public ports

Tunnels behind a port get one of a range. The range is usable if it begins above 0 and does not
end before it begins.
-/

namespace ReverseTunnel

/-- A range of ports, ends included. -/
structure PortRange where
  first : UInt16
  last : UInt16
  deriving DecidableEq, Repr

namespace PortRange

/-- Whether the range has ports. -/
def usable (r : PortRange) : Bool := r.first != 0 && r.last != 0 && r.first ≤ r.last

/-- The range itself, if it is usable. -/
def check (r : PortRange) : Except Rejection PortRange :=
  if r.usable then .ok r else .error ⟨.invalidRequest, "invalid tcp port range"⟩

/-- Whether a port may be asked for. -/
def checkPort (r : PortRange) (port : UInt16) : Except Rejection Unit := do
  let r ← r.check
  if r.first ≤ port && port ≤ r.last then .ok ()
  else .error ⟨.invalidRequest, "requested port out of range"⟩

/-- The ports of the range, in increasing order. -/
def ports (r : PortRange) : List UInt16 :=
  (List.range' r.first.toNat (r.last.toNat + 1 - r.first.toNat)).map UInt16.ofNat

end PortRange

end ReverseTunnel
