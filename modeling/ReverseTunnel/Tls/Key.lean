import ReverseTunnel.Tls.Element

/-!
# Private keys

A private key is written in the form of its kind, or wrapped with the name of the kind. Of a key
only its public half is of interest here, because that half stands in a certificate as well. A
key that does not carry its public half is of no use.
-/

namespace ReverseTunnel

/-- The form in which a private key is written. -/
inductive KeyForm where
  /-- Two large primes, with the numbers that follow from them. -/
  | primes
  /-- A number and the point of a curve that follows from it. -/
  | curve
  /-- Either of them, behind the name of its kind. -/
  | wrapped
  deriving DecidableEq, Repr

namespace KeyForm

open Element

/-- The name of the kind that is made of primes. -/
def primesName : Bytes := [0x2A, 0x86, 0x48, 0x86, 0xF7, 0x0D, 0x01, 0x01, 0x01]

/-- The name of the kind that is made of a point. -/
def curveName : Bytes := [0x2A, 0x86, 0x48, 0xCE, 0x3D, 0x02, 0x01]

/-- The bits of the public half of a key made of primes: the modulus and the exponent. The
modulus has at least 2048 bits. -/
def ofPrimes? (bytes : Bytes) : Option Bytes := do
  match ← all? integer (← only? sequence bytes) with
  | [version, modulus, exponent, _, _, _, _, _, _] =>
    if version == [0] && (modulus.dropWhile (· == 0)).length ≥ 256 then
      some (write sequence (write integer modulus ++ write integer exponent))
    else none
  | _ => none

/-- The bits of the public half of a key made of a point: the point, uncompressed. -/
def ofCurve? (bytes : Bytes) : Option Bytes := do
  let (version, rest) ← read? integer (← only? sequence bytes)
  let rest ← skip? [octets] rest
  let rest := ((read? (field 0) rest).map (·.2)).getD rest
  match ← only? bits (← only? (field 1) rest) with
  | 0x00 :: 0x04 :: point => if version == [1] then some (0x04 :: point) else none
  | _ => none

/-- The bits of the public half of a key in some form. -/
def publicBits? (form : KeyForm) (bytes : Bytes) : Option Bytes :=
  match form with
  | .primes => ofPrimes? bytes
  | .curve => ofCurve? bytes
  | .wrapped => do
    let (version, rest) ← read? integer (← only? sequence bytes)
    let (kind, rest) ← read? sequence rest
    let (name, _) ← read? identifier kind
    let (inner, _) ← read? octets rest
    if version != [0] && version != [1] then none
    else if name == primesName then ofPrimes? inner
    else if name == curveName then ofCurve? inner
    else none

/-- Whether a key belongs to the public key of a certificate. -/
def fits (form : KeyForm) (key publicKey : Bytes) : Bool :=
  (do
    let written ← only? bits (← skip? [sequence] publicKey)
    some (written == 0x00 :: (← publicBits? form key))).getD false

end KeyForm

end ReverseTunnel
