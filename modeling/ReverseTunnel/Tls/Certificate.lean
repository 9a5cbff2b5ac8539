import ReverseTunnel.Tls.Element

/-!
# Certificates

A certificate is something signed, the way it is signed, and the signature. What is signed names
the issuer, the subject and the subject's public key. Only the form is looked at here: whose
signature it is, and whether it is right, is settled when a connection is made.
-/

namespace ReverseTunnel

/-- What is kept of a certificate. -/
structure Certificate where
  /-- The subject's public key: the kind of the key and its bits. -/
  publicKey : Bytes
  deriving DecidableEq, Repr

namespace Certificate

open Element

/-! ### Extensions -/

/-- An extension: its name, whether it has to be understood, and its value. -/
structure Extension where
  name : Bytes
  critical : Bool
  value : Bytes

/-- The extension that is written in the content of its element. -/
def Extension.ofBytes? (bytes : Bytes) : Option Extension := do
  let (name, rest) ← read? identifier bytes
  let (critical, rest) ← match read? boolean rest with
    | some ([0x00], rest) => some (false, rest)
    | some ([0xFF], rest) => some (true, rest)
    | some _ => none
    | none => some (false, rest)
  some { name, critical, value := ← only? octets rest }

/-- The extensions that are understood: usage of the key, other names of the subject, basic
constraints, constraints on names, lists of the revoked, extended usage. -/
def understood : List Bytes :=
  [15, 17, 19, 30, 31, 37].map fun (last : UInt8) => [0x55, 0x1D, last]

/-- Whether an extension may stand in a certificate. -/
def Extension.isFit (e : Extension) : Bool :=
  if understood.contains e.name then
    e.name == [0x55, 0x1D, 15] || (only? sequence e.value).isSome
  else !e.critical

/-- Whether what follows the public key is nothing, or extensions that may stand there, none of
those understood twice. -/
def isTail (bytes : Bytes) : Bool :=
  bytes.isEmpty ||
    (do
      let row ← only? sequence (← only? (field 3) bytes)
      let extensions ← (← all? sequence row).mapM Extension.ofBytes?
      let names := (extensions.map Extension.name).filter understood.contains
      some (extensions.all Extension.isFit && names.eraseDups.length == names.length)).getD false

/-! ### Certificates of both versions -/

/-- A certificate of version 3, the one that has extensions. -/
def ofBytes? (bytes : Bytes) : Option Certificate := do
  let (signed, rest) ← read? sequence (← only? sequence bytes)
  let (way, rest) ← read? sequence rest
  let signature ← only? bits rest
  let (version, rest) ← read? (field 0) signed
  let (wayWithin, rest) ← read? sequence (← skip? [integer] rest)
  let (publicKey, rest) ← read? sequence (← skip? [sequence, sequence, sequence] rest)
  if signature.head? == some 0 && version == write integer [2] && wayWithin == way
    && isTail rest then
    some ⟨publicKey⟩
  else none

/-- A certificate of version 1, as some old authorities still have. -/
def ofOldBytes? (bytes : Bytes) : Option Certificate := do
  let (signed, rest) ← read? sequence (← only? sequence bytes)
  let _ ← only? bits (← skip? [sequence] rest)
  let publicKey ← only? sequence
    (← skip? [integer, sequence, sequence, sequence, sequence] signed)
  some ⟨publicKey⟩

/-- Whether the certificate of an authority can be trusted as it stands. -/
def isAuthority (bytes : Bytes) : Bool := (ofBytes? bytes).isSome || (ofOldBytes? bytes).isSome

end Certificate

end ReverseTunnel
