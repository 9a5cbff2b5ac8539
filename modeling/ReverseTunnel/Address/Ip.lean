import ReverseTunnel.Text.Number
import ReverseTunnel.Text.Split

/-!
# Internet addresses

An address is its bits, 32 or 128 of them. `Ip.parse?` reads the standard spellings and
`Ip.print` writes the canonical one: dotted decimal for version 4, the shortest form with the
longest run of zero groups left out for version 6. The readers can also be asked for the wider
spellings that are common in lists of networks.
-/

namespace ReverseTunnel

/-- An internet address of either family. -/
inductive Ip where
  | v4 (bits : BitVec 32)
  | v6 (bits : BitVec 128)
  deriving DecidableEq, Repr

namespace Ip

open Text

/-! ### Reading -/

/-- Which spellings are read. -/
inductive Spelling where
  /-- The standard ones. -/
  | standard
  /-- Octets may begin with zeros as well, and `::` may stand for no group at all. -/
  | wide
  deriving DecidableEq, Repr

/-- One of the four parts of a dotted address: up to three digits, below 256, in the standard
spelling without leading zeros. -/
def octet? (spelling : Spelling) (cs : List Char) : Option Nat :=
  if cs.length > 3 then none
  else if spelling = .standard && cs.length > 1 && cs.head? == some '0' then none
  else (decimal? cs).filter (· < 256)

/-- Four octets with dots between them. -/
def v4Bits? (spelling : Spelling) (cs : List Char) : Option (BitVec 32) :=
  match (cs.splitOn '.').mapM (octet? spelling) with
  | some [a, b, c, d] => some (BitVec.ofNat 32 (((a * 256 + b) * 256 + c) * 256 + d))
  | _ => none

/-- The value of a hexadecimal digit of either case. -/
def hexDigit? (c : Char) : Option Nat :=
  if '0' ≤ c && c ≤ '9' then some (c.toNat - '0'.toNat)
  else if 'a' ≤ c && c ≤ 'f' then some (c.toNat - 'a'.toNat + 10)
  else if 'A' ≤ c && c ≤ 'F' then some (c.toNat - 'A'.toNat + 10)
  else none

/-- One group of a version 6 address: one to four hexadecimal digits. -/
def group? (cs : List Char) : Option Nat :=
  if cs.isEmpty || cs.length > 4 then none
  else (cs.mapM hexDigit?).map fun ds => ds.foldl (fun n d => n * 16 + d) 0

/-- Groups with colons between them; the empty text has none. -/
def groups? (cs : List Char) : Option (List Nat) :=
  if cs.isEmpty then some [] else (cs.splitOn ':').mapM group?

/-- Groups with colons between them, of which the last two may be written as a dotted
address. -/
def groupsEnding? (spelling : Spelling) (cs : List Char) : Option (List Nat) :=
  match splitLast ':' cs with
  | none =>
    match v4Bits? spelling cs with
    | some dotted => some [dotted.toNat / 65536, dotted.toNat % 65536]
    | none => groups? cs
  | some (before, last) =>
    match v4Bits? spelling last with
    | some dotted =>
      if before.isEmpty then none
      else (groups? before).map (· ++ [dotted.toNat / 65536, dotted.toNat % 65536])
    | none => groups? cs

/-- The bits of eight groups. -/
def ofGroups (groups : List Nat) : BitVec 128 :=
  BitVec.ofNat 128 (groups.foldl (fun n g => n * 65536 + g) 0)

/-- Eight groups, or fewer around one `::` that stands for the zero groups left out. In the
wide spelling none may be left out, but some group stands behind the `::` then. -/
def v6Bits? (spelling : Spelling) (cs : List Char) : Option (BitVec 128) :=
  match splitAtMark [':', ':'] cs with
  | none =>
    (groupsEnding? spelling cs).bind fun gs =>
      if gs.length = 8 then some (ofGroups gs) else none
  | some (left, right) => do
    let head ← groups? left
    let tail ← groupsEnding? spelling right
    let most := if spelling = .wide && !tail.isEmpty then 8 else 7
    if head.length + tail.length ≤ most then
      some (ofGroups (head ++ List.replicate (8 - head.length - tail.length) 0 ++ tail))
    else none

/-- The address of a text in one of the spellings asked for. -/
def parseChars? (spelling : Spelling) (cs : List Char) : Option Ip :=
  match v4Bits? spelling cs with
  | some bits => some (.v4 bits)
  | none => (v6Bits? spelling cs).map .v6

/-- The address that a text spells in the standard way. -/
def parse? (s : String) : Option Ip := parseChars? .standard s.toList

/-! ### Writing -/

/-- Dotted decimal. -/
def printV4 (bits : BitVec 32) : List Char :=
  let n := bits.toNat
  let octets := [n / 16777216, n / 65536 % 256, n / 256 % 256, n % 256]
  List.intercalate ['.'] (octets.map (Nat.toDigits 10))

/-- The eight groups of a version 6 address, most significant first. -/
def groups (bits : BitVec 128) : List Nat :=
  [7, 6, 5, 4, 3, 2, 1, 0].map fun i => bits.toNat >>> (16 * i) % 65536

/-- The length of the run of zeros at the start. -/
def zeroRun (gs : List Nat) : Nat := (gs.takeWhile (· == 0)).length

/-- The position and length of the first of the longest runs of zeros, looking from position
`i` on and holding `best` so far. -/
def longestZeroRun (best : Nat × Nat) (i : Nat) : List Nat → Nat × Nat
  | [] => best
  | g :: gs =>
    let run := zeroRun (g :: gs)
    longestZeroRun (if run > best.2 then (i, run) else best) (i + 1) gs

/-- Groups in hexadecimal with colons between them. -/
def printGroups (gs : List Nat) : List Char :=
  List.intercalate [':'] (gs.map (Nat.toDigits 16))

/-- The version 4 address that a version 6 address carries in its last bits, when the bits
before them are those of the mapped range `::ffff:0:0/96`. -/
def mapped? (bits : BitVec 128) : Option (BitVec 32) :=
  if bits.toNat / 4294967296 = 0xFFFF then some (BitVec.ofNat 32 (bits.toNat % 4294967296))
  else none

/-- The canonical form: a mapped address ends in dotted decimal; otherwise the first longest
run of two or more zero groups is left out. -/
def printV6 (bits : BitVec 128) : List Char :=
  match mapped? bits with
  | some dotted => "::ffff:".toList ++ printV4 dotted
  | none =>
    let gs := groups bits
    let (start, len) := longestZeroRun (0, 0) 0 gs
    if len ≥ 2 then
      printGroups (gs.take start) ++ [':', ':'] ++ printGroups (gs.drop (start + len))
    else printGroups gs

/-- The canonical spelling of an address. -/
def printChars : Ip → List Char
  | .v4 bits => printV4 bits
  | .v6 bits => printV6 bits

/-- The canonical spelling of an address. -/
def print (ip : Ip) : String := String.ofList ip.printChars

/-! ### Mapped addresses -/

/-- The address with a mapped version 6 address taken for the version 4 address it carries. -/
def unmap : Ip → Ip
  | .v6 bits =>
    match mapped? bits with
    | some dotted => .v4 dotted
    | none => .v6 bits
  | ip => ip

end Ip

end ReverseTunnel
