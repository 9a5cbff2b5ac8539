import ReverseTunnel.Address.Network
import ReverseTunnel.Proofs.Text.Split

/-!
# Blocks of addresses

A network is kept with all bits cleared behind its leading ones, and it contains an address if
clearing the address in the same way gives the same bits. What this decides is said here without
any clearing: a block is an address with a number of bits, and whoever shares these bits with the
address belongs to the block.

An address of version 4 can also be written as one of version 6, and so can a block. Whoever is
asked about such an address takes it for the one that is meant. A network does not: it is of the
family in which it was written, so a block in the mapped range contains no address that is asked
about.

## Main results

* `Network.mask_eq_mask_iff`: clearing compares leading bits.
* `Block.contains_network`: what a network contains.
* `Block.not_contains_of_mapped`: a mapped block contains nothing that is asked about.
* `Network.parseChars?_eq_some_iff`: which texts are read as networks.
-/

namespace ReverseTunnel

/-! ### Leading bits -/

/-- Two words have the same first `n` bits. -/
def SameLeading {w : Nat} (n : Nat) (a b : BitVec w) : Prop := ∀ i < n, a.getMsbD i = b.getMsbD i

instance {w n : Nat} {a b : BitVec w} : Decidable (SameLeading n a b) :=
  inferInstanceAs (Decidable (∀ i < n, a.getMsbD i = b.getMsbD i))

namespace Network

variable {w n : Nat} {a b : BitVec w}

/-- A mask keeps the first bits of an address and clears the others. -/
theorem getMsbD_mask (hn : n ≤ w) (i : Nat) :
    (mask a n).getMsbD i = (decide (i < n) && a.getMsbD i) := by
  rw [mask, BitVec.getMsbD_shiftLeft, BitVec.getMsbD_ushiftRight, Nat.add_sub_cancel]
  have hinside : decide (i + (w - n) < w) = decide (i < n) := decide_eq_decide.mpr (by omega)
  have hbehind : (!decide (i + (w - n) < w - n)) = true := by simp
  rw [hinside, hbehind, Bool.true_and]

/-- Clearing compares leading bits. -/
theorem mask_eq_mask_iff (hn : n ≤ w) : mask a n = mask b n ↔ SameLeading n a b := by
  constructor
  · intro h i hi
    have hbit := congrArg (BitVec.getMsbD · i) h
    simpa only [getMsbD_mask hn, hi, decide_true, Bool.true_and] using hbit
  · intro h
    refine BitVec.eq_of_getMsbD_eq fun i _ => ?_
    rw [getMsbD_mask hn, getMsbD_mask hn]
    by_cases hi : i < n
    · rw [h i hi]
    · rw [decide_eq_false hi, Bool.false_and, Bool.false_and]

/-- Nothing is cleared of a whole word. -/
theorem mask_width : mask a w = a := by
  rw [mask, Nat.sub_self, BitVec.ushiftRight_zero, BitVec.shiftLeft_zero]

/-- The first `n` bits of a word may be set, and no others are. -/
def Cleared {w : Nat} (bits : BitVec w) (n : Nat) : Prop :=
  n ≤ w ∧ ∀ i, n ≤ i → bits.getMsbD i = false

/-- Behind the length of the mask no bit is set any more. -/
theorem cleared_mask (hn : n ≤ w) : Cleared (mask a n) n := by
  refine ⟨hn, fun i hi => ?_⟩
  rw [getMsbD_mask hn, decide_eq_false (Nat.not_lt.mpr hi), Bool.false_and]

/-- A network is masked if no bit is set that its members need not share. -/
def Masked : Network → Prop
  | .v4 bits n => Cleared bits n
  | .v6 bits n => Cleared bits n

end Network

namespace Ip

/-- How many bits an address has. -/
def width : Ip → Nat
  | .v4 _ => 32
  | .v6 _ => 128

/-- Two addresses are of one family and have the same first `n` bits. -/
def Shares (n : Nat) : Ip → Ip → Prop
  | .v4 a, .v4 b => SameLeading n a b
  | .v6 a, .v6 b => SameLeading n a b
  | _, _ => False

/-- The mapped range is the one of its first 96 bits. -/
theorem mapped?_congr {n : Nat} {a b : BitVec 128} (hn : 96 ≤ n) (h : SameLeading n a b) :
    (mapped? a).isSome = (mapped? b).isSome := by
  have hshift : a >>> 32 = b >>> 32 := by
    refine BitVec.eq_of_getMsbD_eq fun i hi => ?_
    rw [BitVec.getMsbD_ushiftRight, BitVec.getMsbD_ushiftRight, h (i - 32) (by omega)]
  have hquotient : a.toNat / 4294967296 = b.toNat / 4294967296 := by
    have hnat := congrArg BitVec.toNat hshift
    simpa only [BitVec.toNat_ushiftRight, Nat.shiftRight_eq_div_pow] using hnat
  rw [mapped?, mapped?, hquotient]
  split <;> rfl

/-- An address that is still one of the new kind when it is unmapped was not a mapped one. -/
theorem mapped?_of_unmap_eq {ip : Ip} {bits : BitVec 128} (h : ip.unmap = .v6 bits) :
    mapped? bits = none := by
  rcases ip with _ | bits'
  · cases h
  · rw [unmap] at h
    split at h
    · cases h
    · cases h
      assumption

end Ip

/-! ### Blocks -/

/-- The addresses that share their first bits with one of them. -/
structure Block where
  address : Ip
  length : Nat
  fits : length ≤ address.width

namespace Block

variable {block : Block} {ip : Ip}

/-- The block of one address alone. -/
def single (ip : Ip) : Block := ⟨ip, ip.width, Nat.le_refl _⟩

/-- The network that is kept for a block. -/
def network (block : Block) : Network := .around block.address block.length

/-- A network contains what shares the bits of its block. -/
theorem contains_network :
    block.network.contains ip = true ↔ block.address.Shares block.length ip := by
  obtain ⟨address, n, hn⟩ := block
  rcases address with a | a <;> rcases ip with b | b
  · exact beq_iff_eq.trans (eq_comm.trans (Network.mask_eq_mask_iff hn))
  · exact iff_of_false Bool.false_ne_true not_false
  · exact iff_of_false Bool.false_ne_true not_false
  · exact beq_iff_eq.trans (eq_comm.trans (Network.mask_eq_mask_iff hn))

/-- A single address is its own network, since nothing in it is masked. -/
theorem network_single : (single ip).network = .single ip := by
  rcases ip with bits | bits
  · exact congrArg (Network.v4 · 32) Network.mask_width
  · exact congrArg (Network.v6 · 128) Network.mask_width

/-- The network that is kept for a block is masked. -/
theorem masked_network : block.network.Masked := by
  obtain ⟨address, n, hn⟩ := block
  rcases address with bits | bits
  · exact Network.cleared_mask hn
  · exact Network.cleared_mask hn

/-- A single address is masked, which is why no case is needed for it below. -/
theorem masked_single : (Network.single ip).Masked := network_single ▸ (single ip).masked_network

/-! ### Mapped blocks -/

/-- A block that lies in the mapped range, of which the bits behind the first 96 are those of an
address of version 4. -/
def IsMapped (block : Block) : Prop :=
  ∃ bits, block.address = .v6 bits ∧ (Ip.mapped? bits).isSome = true ∧ 96 ≤ block.length

/-- The block with a mapped one taken for the block of version 4 that it carries. -/
def unmap (block : Block) : Block :=
  match block with
  | ⟨.v4 bits, n, hn⟩ => ⟨.v4 bits, n, hn⟩
  | ⟨.v6 bits, n, hn⟩ =>
    match Ip.mapped? bits with
    | some dotted =>
      if 96 ≤ n then ⟨.v4 dotted, n - 96, Nat.sub_le_sub_right hn 96⟩ else ⟨.v6 bits, n, hn⟩
    | none => ⟨.v6 bits, n, hn⟩

/-- A block covers an address if, with mapped ones taken for what they carry, both are of one
family and share the first bits. -/
def Covers (block : Block) (ip : Ip) : Prop :=
  block.unmap.address.Shares block.unmap.length ip.unmap

/-- A block that is not of mapped addresses is left as it is. -/
theorem unmap_of_not_isMapped (h : ¬ block.IsMapped) : block.unmap = block := by
  obtain ⟨address, n, hn⟩ := block
  rcases address with bits | bits
  · rfl
  · rw [unmap]
    split
    · rename_i hmapped
      refine if_neg fun hlong => h ⟨bits, rfl, ?_, hlong⟩
      rw [hmapped]
      rfl
    · rfl

/-- One mapped address stands for the address that it carries. -/
theorem unmap_single : (single ip).unmap = single ip.unmap := by
  rcases ip with bits | bits
  · rfl
  · rw [single, unmap, Ip.unmap]
    rcases Ip.mapped? bits with _ | dotted
    · rfl
    · rfl

/-- A mapped block contains no address that is asked about. -/
theorem not_contains_of_mapped (h : block.IsMapped) : block.network.contains ip.unmap = false := by
  obtain ⟨bits, haddress, hmapped, hlong⟩ := h
  refine Bool.eq_false_iff.mpr fun hcontains => ?_
  rw [contains_network, haddress] at hcontains
  rcases hip : ip.unmap with other | other
  · rw [hip] at hcontains
    exact hcontains
  · rw [hip] at hcontains
    rw [Ip.mapped?_congr hlong hcontains, Ip.mapped?_of_unmap_eq hip] at hmapped
    cases hmapped

end Block

/-! ### Spelling -/

/-- How many digits the length of a network may have. -/
def Ip.lengthDigits : Ip → Nat
  | .v4 _ => 2
  | .v6 _ => 3

namespace Network

open Text

/-- Which digits are read as the length of a block: few enough of them, a number, and no more than
the address has bits. -/
theorem length?_eq_some_iff {digits bound n : Nat} {cs : List Char} :
    length? digits bound cs = some n ↔ cs.length ≤ digits ∧ decimal? cs = some n ∧ n ≤ bound := by
  rw [length?]
  split
  · rename_i hlong
    exact iff_of_false (fun h => nomatch h) fun h => absurd h.1 (Nat.not_le.mpr hlong)
  · rename_i hshort
    rw [and_iff_right (Nat.le_of_not_lt hshort), Option.filter_eq_some_iff, decide_eq_true_iff]

/-- What is read as a block is an address and a length. -/
theorem parseChars?_eq_some_iff {address length : List Char} {network : Network}
    (hslash : '/' ∉ address) :
    parseChars? (address ++ '/' :: length) = some network ↔
      ∃ block : Block, Ip.parseChars? .wide address = some block.address ∧
        length.length ≤ block.address.lengthDigits ∧ decimal? length = some block.length ∧
        block.network = network := by
  rw [parseChars?, splitFirst_append hslash, Option.bind_eq_bind, Option.bind_some,
    Option.bind_eq_bind, Option.bind_eq_some_iff]
  constructor
  · rintro ⟨bits | bits, hip, hlength⟩
    · obtain ⟨n, hn, rfl⟩ := Option.map_eq_some_iff.mp hlength
      obtain ⟨hdigits, hdecimal, hwidth⟩ := length?_eq_some_iff.mp hn
      exact ⟨⟨.v4 bits, n, hwidth⟩, hip, hdigits, hdecimal, rfl⟩
    · obtain ⟨n, hn, rfl⟩ := Option.map_eq_some_iff.mp hlength
      obtain ⟨hdigits, hdecimal, hwidth⟩ := length?_eq_some_iff.mp hn
      exact ⟨⟨.v6 bits, n, hwidth⟩, hip, hdigits, hdecimal, rfl⟩
  · rintro ⟨⟨bits | bits, n, hwidth⟩, hip, hdigits, hdecimal, rfl⟩
    · refine ⟨.v4 bits, hip, ?_⟩
      exact Option.map_eq_some_iff.mpr ⟨n, length?_eq_some_iff.mpr ⟨hdigits, hdecimal, hwidth⟩, rfl⟩
    · refine ⟨.v6 bits, hip, ?_⟩
      exact Option.map_eq_some_iff.mpr ⟨n, length?_eq_some_iff.mpr ⟨hdigits, hdecimal, hwidth⟩, rfl⟩

end Network

end ReverseTunnel
