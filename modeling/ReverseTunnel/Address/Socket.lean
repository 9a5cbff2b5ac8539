import ReverseTunnel.Address.Ip

/-!
# Socket addresses

An internet address with a port, written `1.2.3.4:80` or `[::1]:80`. A version 6 address may
carry the number of its zone behind a percent sign.
-/

namespace ReverseTunnel

/-- An internet address, the zone of a version 6 address, and a port. -/
structure SocketAddress where
  ip : Ip
  zone : Nat
  port : UInt16
  deriving DecidableEq, Repr

namespace SocketAddress

open Text

/-- A port: digits denoting a number below 65536. -/
def portDigits? (cs : List Char) : Option UInt16 :=
  ((decimal? cs).filter (· < 65536)).map UInt16.ofNat

/-- A version 6 address with an optional zone, as it stands between brackets. -/
def zoned? (cs : List Char) : Option (Ip × Nat) :=
  match splitFirst '%' cs with
  | none => (Ip.v6Bits? .standard cs).map (.v6 ·, 0)
  | some (addr, zone) => do
    let bits ← Ip.v6Bits? .standard addr
    let n ← (decimal? zone).filter (· < 4294967296)
    some (.v6 bits, n)

/-- The socket address that the characters spell. -/
def parseChars? (cs : List Char) : Option SocketAddress :=
  match cs with
  | '[' :: rest => do
    let (inner, after) ← splitFirst ']' rest
    let (ip, zone) ← zoned? inner
    let digits ← dropStart? [':'] after
    let port ← portDigits? digits
    some ⟨ip, zone, port⟩
  | _ => do
    let (host, digits) ← splitFirst ':' cs
    let bits ← Ip.v4Bits? .standard host
    let port ← portDigits? digits
    some ⟨.v4 bits, 0, port⟩

/-- The socket address that a text spells. -/
def parse? (s : String) : Option SocketAddress := parseChars? s.toList

/-- The canonical spelling. -/
def print (a : SocketAddress) : String :=
  let port := toString a.port.toNat
  match a.ip with
  | .v4 _ => a.ip.print ++ ":" ++ port
  | .v6 _ =>
    let zone := if a.zone = 0 then "" else "%" ++ toString a.zone
    "[" ++ a.ip.print ++ zone ++ "]:" ++ port

end SocketAddress

end ReverseTunnel
