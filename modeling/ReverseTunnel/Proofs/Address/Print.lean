import ReverseTunnel.Address.Socket
import ReverseTunnel.Proofs.Text.Number
import ReverseTunnel.Proofs.Text.Split

/-!
# Addresses that were printed

Every address is read from its own spelling. The spelling of a version 6 address leaves out a run
of zero groups; it does not matter that it is the longest, only that it is one of zeros, for the
reader puts in as many as are missing. The two colons that stand for it are found although groups
are separated by colons too, since no group is empty.

An address has only digits, dots and colons in its spelling, so what has any other character in it
is none.

## Main results

* `Ip.parseChars?_printChars`: every address is read from its spelling.
* `SocketAddress.parseChars?_v4`: so is an address of version 4 with a port.
* `Ip.isAddressChar_of_parseChars?`: what an address may be made of.
-/

namespace ReverseTunnel

open Text

namespace Ip

variable {spelling : Spelling} {cs : List Char} {gs : List Nat} {g n : Nat}

/-! ### Numbers -/

/-- The digits of a byte are read as that byte, in any of the spellings. -/
theorem octet?_toDigits (h : n < 256) : octet? spelling (Nat.toDigits 10 n) = some n := by
  have hlength : ¬ (Nat.toDigits 10 n).length > 3 :=
    Nat.not_lt.mpr ((Nat.length_toDigits_le_iff (by decide) (by decide)).mpr (by omega))
  have hzero : ((Nat.toDigits 10 n).length > 1 && (Nat.toDigits 10 n).head? == some '0') =
      false := by
    rcases Nat.eq_zero_or_pos n with rfl | hpos
    · decide
    · simp [Json.Number.head?_toDigits hpos]
  rw [octet?, if_neg hlength, Bool.and_assoc, hzero, Bool.and_false, if_neg Bool.false_ne_true,
    decimal?_toDigits, Option.filter_some, if_pos (decide_eq_true h)]

/-- The digit that is written for a number below sixteen is read as that number. -/
theorem hexDigit?_digitChar (h : n < 16) : hexDigit? n.digitChar = some n := by
  have hall : ∀ n < 16, hexDigit? (Nat.digitChar n) = some n := by decide
  exact hall n h

/-- The digits of a number are read as the number. -/
theorem mapM_hexDigit?_toDigits (n : Nat) :
    ∃ ds, (Nat.toDigits 16 n).mapM hexDigit? = some ds ∧
      ds.foldl (fun n d => n * 16 + d) 0 = n := by
  induction n using Nat.base_induction 16 (by decide) with
  | single m hm =>
    exact ⟨[m], by simp [Nat.toDigits_of_lt_base hm, hexDigit?_digitChar hm], by simp⟩
  | digit m k hk hm ih =>
    obtain ⟨ds, hds, hvalue⟩ := ih
    refine ⟨ds ++ [k], ?_, ?_⟩
    · rw [← Nat.toDigits_append_toDigits (by decide) hm hk, List.mapM_append, hds,
        Nat.toDigits_of_lt_base hk]
      simp [hexDigit?_digitChar hk]
    · rw [List.foldl_append, hvalue, List.foldl_cons, List.foldl_nil, Nat.mul_comm]

/-- The hexadecimal digits of a group are read as that group. -/
theorem group?_toDigits (h : g < 65536) : group? (Nat.toDigits 16 g) = some g := by
  have hempty : (Nat.toDigits 16 g).isEmpty = false := by simp [Nat.toDigits_ne_nil]
  have hlength : ¬ (Nat.toDigits 16 g).length > 4 :=
    Nat.not_lt.mpr ((Nat.length_toDigits_le_iff (by decide) (by decide)).mpr (by omega))
  obtain ⟨ds, hds, hvalue⟩ := mapM_hexDigit?_toDigits g
  rw [group?, hempty, decide_eq_false hlength, Bool.or_false, if_neg Bool.false_ne_true, hds,
    Option.map_some, hvalue]

/-- What is written for a number, in any base up to sixteen, are hexadecimal digits. -/
theorem isSome_hexDigit?_of_mem_toDigits {b : Nat} (hb : 1 < b) (hb' : b ≤ 16) {c : Char}
    (h : c ∈ Nat.toDigits b n) : (hexDigit? c).isSome = true := by
  induction n using Nat.base_induction b hb with
  | single m hm =>
    rw [Nat.toDigits_of_lt_base hm, List.mem_singleton] at h
    rw [h, hexDigit?_digitChar (Nat.lt_of_lt_of_le hm hb'), Option.isSome_some]
  | digit m k hk hm ih =>
    rw [← Nat.toDigits_append_toDigits hb hm hk, List.mem_append, Nat.toDigits_of_lt_base hk,
      List.mem_singleton] at h
    rcases h with hbefore | rfl
    · exact ih hbefore
    · rw [hexDigit?_digitChar (Nat.lt_of_lt_of_le hk hb'), Option.isSome_some]

/-- So no mark that separates digits stands among them. -/
theorem not_mem_toDigits {b : Nat} (hb : 1 < b) (hb' : b ≤ 16) {c : Char}
    (hc : (hexDigit? c).isSome = false) : c ∉ Nat.toDigits b n := fun h => by
  rw [isSome_hexDigit?_of_mem_toDigits hb hb' h] at hc
  cases hc

/-- Between numbers stands nothing but what separates them. -/
theorem not_mem_intercalate_toDigits {b : Nat} (hb : 1 < b) (hb' : b ≤ 16) {sep c : Char}
    (hsep : sep ≠ c) (hc : (hexDigit? c).isSome = false) (ns : List Nat) :
    c ∉ List.intercalate [sep] (ns.map (Nat.toDigits b)) := by
  have hall : ∀ d ∈ List.intercalate [sep] (ns.map (Nat.toDigits b)), d ≠ c := by
    refine forall_mem_intercalate (List.forall_mem_singleton.mpr hsep) fun part hpart => ?_
    obtain ⟨n, -, rfl⟩ := List.mem_map.mp hpart
    exact fun d hd heq => not_mem_toDigits hb hb' hc (heq ▸ hd)
  exact fun hmem => hall c hmem rfl

/-- Numbers that were put together are read one by one. -/
theorem mapM_splitOn_intercalate {b : Nat} (hb : 1 < b) (hb' : b ≤ 16) {sep : Char}
    (hsep : (hexDigit? sep).isSome = false) {read : List Char → Option Nat} {ns : List Nat}
    (hsome : ns ≠ []) (hread : ∀ n ∈ ns, read (Nat.toDigits b n) = some n) :
    ((List.intercalate [sep] (ns.map (Nat.toDigits b))).splitOn sep).mapM read = some ns := by
  have hnot : ∀ part ∈ ns.map (Nat.toDigits b), sep ∉ part := by
    intro part hpart
    obtain ⟨n, -, rfl⟩ := List.mem_map.mp hpart
    exact not_mem_toDigits hb hb' hsep
  rw [List.splitOn_intercalate sep hnot (by simpa using hsome)]
  exact mapM_map_of_inverse hread

/-! ### Version 4 -/

/-- A dotted address is read as what it was. -/
theorem v4Bits?_printV4 (bits : BitVec 32) : v4Bits? spelling (printV4 bits) = some bits := by
  have hlt := bits.isLt
  have hread : ∀ n ∈ [bits.toNat / 16777216, bits.toNat / 65536 % 256, bits.toNat / 256 % 256,
      bits.toNat % 256], octet? spelling (Nat.toDigits 10 n) = some n := by
    intro n hn
    simp only [List.mem_cons, List.not_mem_nil, or_false] at hn
    exact octet?_toDigits (by omega)
  have hvalue : ((bits.toNat / 16777216 * 256 + bits.toNat / 65536 % 256) * 256 +
      bits.toNat / 256 % 256) * 256 + bits.toNat % 256 = bits.toNat := by omega
  rw [v4Bits?, printV4, mapM_splitOn_intercalate (by decide) (by decide) rfl (by simp) hread]
  simp only [hvalue, BitVec.ofNat_toNat, BitVec.setWidth_eq]

/-- Without a point no text is an address of four bytes. -/
theorem v4Bits?_of_not_mem (h : '.' ∉ cs) : v4Bits? spelling cs = none := by
  rw [v4Bits?, List.splitOn_eq_singleton h, List.mapM_cons, List.mapM_nil]
  cases octet? spelling cs <;> rfl

/-! ### Version 6 -/

/-- Groups are written one after another, with a colon between two of them. -/
theorem printGroups_cons_cons (g g' : Nat) (gs : List Nat) :
    printGroups (g :: g' :: gs) = Nat.toDigits 16 g ++ ':' :: printGroups (g' :: gs) := by
  rw [printGroups, List.map_cons, List.map_cons, List.intercalate_cons_cons, List.append_assoc]
  rfl

/-- Groups begin with a digit. -/
theorem printGroups_eq_cons (g : Nat) (gs : List Nat) :
    ∃ c cs, printGroups (g :: gs) = c :: cs ∧ c ≠ ':' := by
  obtain ⟨c, cs, hdigits⟩ := List.exists_cons_of_ne_nil (Nat.toDigits_ne_nil (n := g) (b := 16))
  have hcolon : c ≠ ':' := by
    rintro rfl
    have hnot : ':' ∉ Nat.toDigits 16 g := not_mem_toDigits (by decide) (by decide) rfl
    exact hnot (hdigits ▸ List.mem_cons_self)
  rcases gs with _ | ⟨g', gs⟩
  · exact ⟨c, cs, by rw [printGroups, List.map_singleton, List.intercalate_singleton, hdigits],
      hcolon⟩
  · exact ⟨c, _, by rw [printGroups_cons_cons, hdigits, List.cons_append], hcolon⟩

/-- No point stands in groups as they are written. -/
theorem dot_not_mem_printGroups (gs : List Nat) : '.' ∉ printGroups gs :=
  not_mem_intercalate_toDigits (by decide) (by decide) (by decide) rfl gs

/-- Groups are read back from their text, if each of them fits into its sixteen bits. -/
theorem groups?_printGroups (h : ∀ g ∈ gs, g < 65536) : groups? (printGroups gs) = some gs := by
  rcases gs with _ | ⟨g, gs⟩
  · rfl
  · obtain ⟨c, cs, hcons, -⟩ := printGroups_eq_cons g gs
    have hsome : (printGroups (g :: gs)).isEmpty = false := by rw [hcons, List.isEmpty_cons]
    rw [groups?, hsome, if_neg Bool.false_ne_true]
    exact mapM_splitOn_intercalate (by decide) (by decide) rfl (by simp)
      fun g hg => group?_toDigits (h g hg)

/-- Without a point the last groups of an address are read like all others. -/
theorem groupsEnding?_of_not_mem (h : '.' ∉ cs) : groupsEnding? spelling cs = groups? cs := by
  rw [groupsEnding?]
  split
  · rw [v4Bits?_of_not_mem h]
  · rename_i before last hsplit
    rw [splitLast_eq_some hsplit] at h
    have hlast : '.' ∉ last := fun hmem =>
      h (List.mem_append_right _ (List.mem_cons_of_mem _ hmem))
    rw [v4Bits?_of_not_mem hlast]

/-- No two colons stand side by side between groups. -/
theorem splitAtMark_printGroups (gs : List Nat) (tail : List Char) :
    splitAtMark [':', ':'] (printGroups gs ++ tail) =
      (splitAtMark [':', ':'] tail).map fun parts => (printGroups gs ++ parts.1, parts.2) := by
  induction gs with
  | nil => simp [printGroups]
  | cons g gs ih =>
    have hcolon : ':' ∉ Nat.toDigits 16 g := not_mem_toDigits (by decide) (by decide) rfl
    rcases gs with _ | ⟨g', gs⟩
    · simpa [printGroups] using splitAtMark_append_left hcolon tail
    · have hnext : ¬ [':', ':'] <+: ':' :: (printGroups (g' :: gs) ++ tail) := by
        obtain ⟨c, cs, hcons, hne⟩ := printGroups_eq_cons g' gs
        rw [hcons, List.cons_append, List.cons_prefix_cons, List.cons_prefix_cons]
        exact fun h => hne h.2.1.symm
      rw [printGroups_cons_cons, List.append_assoc, splitAtMark_append_left hcolon,
        List.cons_append, splitAtMark_cons hnext, ih]
      simp [Option.map_map, Function.comp_def]

/-- Some groups begin at a position and are zeros. -/
def IsZeroRun (gs : List Nat) (run : Nat × Nat) : Prop :=
  ∃ front behind, gs = front ++ List.replicate run.2 0 ++ behind ∧ front.length = run.1

/-- The zeros that a list of groups begins with are a run of zeros, wherever the list stands. -/
theorem isZeroRun_zeroRun (front gs : List Nat) :
    IsZeroRun (front ++ gs) (front.length, zeroRun gs) := by
  have hzeros : gs.takeWhile (· == 0) = List.replicate (zeroRun gs) 0 := by
    refine List.eq_replicate_iff.mpr ⟨rfl, fun g hg => ?_⟩
    simpa using List.all_eq_true.mp List.all_takeWhile g hg
  refine ⟨front, gs.dropWhile (· == 0), ?_, rfl⟩
  rw [← hzeros, List.append_assoc, List.takeWhile_append_dropWhile]

/-- What the search for the longest run holds is always a run of zeros of the address itself. -/
theorem isZeroRun_longestZeroRun {best : Nat × Nat} {front : List Nat}
    (h : IsZeroRun (front ++ gs) best) :
    IsZeroRun (front ++ gs) (longestZeroRun best front.length gs) := by
  induction gs generalizing best front with
  | nil => exact h
  | cons g gs ih =>
    have hnext : IsZeroRun (front ++ [g] ++ gs)
        (if zeroRun (g :: gs) > best.2 then (front.length, zeroRun (g :: gs)) else best) := by
      rw [List.append_assoc, List.singleton_append]
      split
      · exact isZeroRun_zeroRun front (g :: gs)
      · exact h
    have hrest := ih hnext
    rwa [List.length_append, List.append_assoc, List.singleton_append] at hrest

/-- Eight groups are the bits that they were. -/
theorem ofGroups_groups (bits : BitVec 128) : ofGroups (groups bits) = bits := by
  have hlt := bits.isLt
  have hvalue : (groups bits).foldl (fun n g => n * 65536 + g) 0 = bits.toNat := by
    simp only [groups, List.map_cons, List.map_nil, List.foldl_cons, List.foldl_nil,
      Nat.shiftRight_eq_div_pow, Nat.reduceMul, Nat.reducePow]
    omega
  rw [ofGroups, hvalue, BitVec.ofNat_toNat, BitVec.setWidth_eq]

/-- Each group of an address fits into its sixteen bits. -/
theorem lt_of_mem_groups {bits : BitVec 128} (h : g ∈ groups bits) : g < 65536 := by
  obtain ⟨i, -, rfl⟩ := List.mem_map.mp h
  exact Nat.mod_lt _ (by decide)

/-- An address has eight groups. -/
theorem length_groups (bits : BitVec 128) : (groups bits).length = 8 := rfl

/-- Two colons in a row stand for as many zero groups as are missing. For what is written in front
of them and behind there has to be room. -/
theorem v6Bits?_of_zeros {left right : List Char} {head tail : List Nat}
    (hsplit : splitAtMark [':', ':'] cs = some (left, right)) (hhead : groups? left = some head)
    (htail : groupsEnding? spelling right = some tail) (hroom : head.length + tail.length ≤ 7) :
    v6Bits? spelling cs =
      some (ofGroups (head ++ List.replicate (8 - head.length - tail.length) 0 ++ tail)) := by
  rw [v6Bits?, hsplit]
  simp only [hhead, htail, Option.bind_eq_bind, Option.bind_some]
  refine if_pos (Nat.le_trans hroom ?_)
  split <;> decide

/-- Any run of two or more zeros may be left out. -/
theorem v6Bits?_leftOut {bits : BitVec 128} {start len : Nat}
    (hrun : IsZeroRun (groups bits) (start, len)) (htwo : 2 ≤ len) :
    v6Bits? spelling (printGroups ((groups bits).take start) ++ [':', ':'] ++
      printGroups ((groups bits).drop (start + len))) = some bits := by
  obtain ⟨front, behind, hgs, hfront⟩ := hrun
  have htake : (groups bits).take start = front := by
    rw [hgs, List.append_assoc, List.take_left' hfront]
  have hdrop : (groups bits).drop (start + len) = behind := by
    rw [hgs, List.drop_left' (by rw [List.length_append, hfront, List.length_replicate])]
  have hlength : front.length + len + behind.length = 8 := by
    have hsum := congrArg List.length hgs
    rw [length_groups, List.length_append, List.length_append, List.length_replicate] at hsum
    exact hsum.symm
  have hhead : groups? (printGroups front) = some front :=
    groups?_printGroups fun g hg => lt_of_mem_groups (List.mem_of_mem_take (htake ▸ hg))
  have htail : groupsEnding? spelling (printGroups behind) = some behind := by
    rw [groupsEnding?_of_not_mem (dot_not_mem_printGroups _)]
    exact groups?_printGroups fun g hg => lt_of_mem_groups (List.mem_of_mem_drop (hdrop ▸ hg))
  have hsplit : splitAtMark [':', ':'] (printGroups front ++ [':', ':'] ++ printGroups behind) =
      some (printGroups front, printGroups behind) := by
    rw [List.append_assoc, splitAtMark_printGroups, splitAtMark_mark, Option.map_some,
      List.append_nil]
  have hzeros : 8 - front.length - behind.length = len := by omega
  rw [htake, hdrop, v6Bits?_of_zeros hsplit hhead htail (by omega), hzeros, ← hgs, ofGroups_groups]

/-- Eight groups that are all written out are read back as the address. -/
theorem v6Bits?_printGroups (bits : BitVec 128) :
    v6Bits? spelling (printGroups (groups bits)) = some bits := by
  have hsplit : splitAtMark [':', ':'] (printGroups (groups bits)) = none := by
    have hall := splitAtMark_printGroups (groups bits) []
    rwa [List.append_nil] at hall
  have hread : groups? (printGroups (groups bits)) = some (groups bits) :=
    groups?_printGroups fun g => lt_of_mem_groups
  rw [v6Bits?, hsplit, groupsEnding?_of_not_mem (dot_not_mem_printGroups _), hread]
  simp only [Option.bind_some, length_groups, ofGroups_groups, if_true]

/-- No colon stands in an address of four bytes as it is written. -/
theorem colon_not_mem_printV4 (bits : BitVec 32) : ':' ∉ printV4 bits :=
  not_mem_intercalate_toDigits (by decide) (by decide) (by decide) rfl _

/-- A mapped address is the one of four bytes, behind sixteen bits that are set. -/
theorem eq_of_mapped? {bits : BitVec 128} {dotted : BitVec 32} (h : mapped? bits = some dotted) :
    bits.toNat = 0xFFFF * 4294967296 + dotted.toNat := by
  obtain ⟨hrange, hdotted⟩ := Option.ite_none_right_eq_some.mp h
  cases hdotted
  rw [BitVec.toNat_ofNat]
  omega

/-- The dotted end of a mapped address is read as its last two groups. -/
theorem v6Bits?_mapped {bits : BitVec 128} {dotted : BitVec 32} (h : mapped? bits = some dotted) :
    v6Bits? spelling ("::ffff:".toList ++ printV4 dotted) = some bits := by
  have hsplit : splitAtMark [':', ':'] ("::ffff:".toList ++ printV4 dotted) =
      some ([], "ffff".toList ++ ':' :: printV4 dotted) :=
    splitAtMark_mark [':', ':'] ("ffff".toList ++ ':' :: printV4 dotted)
  have hending : groupsEnding? spelling ("ffff".toList ++ ':' :: printV4 dotted) =
      some [0xFFFF, dotted.toNat / 65536, dotted.toNat % 65536] := by
    rw [groupsEnding?, splitLast_append (colon_not_mem_printV4 _)]
    simp only [v4Bits?_printV4]
    rfl
  have hvalue : ((0xFFFF * 65536 + dotted.toNat / 65536) * 65536 + dotted.toNat % 65536) =
      bits.toNat := by
    rw [eq_of_mapped? h]
    omega
  have hgroups : ofGroups ([] ++ List.replicate 5 0 ++
      [0xFFFF, dotted.toNat / 65536, dotted.toNat % 65536]) = bits := by
    simp only [ofGroups, List.nil_append, List.replicate_succ, List.replicate_zero,
      List.cons_append, List.foldl_cons, List.foldl_nil, Nat.zero_mul, Nat.zero_add, hvalue,
      BitVec.ofNat_toNat, BitVec.setWidth_eq]
  rw [v6Bits?_of_zeros hsplit rfl hending (by simp)]
  exact congrArg some hgroups

/-- An address of version 6 is read from its spelling. -/
theorem v6Bits?_printV6 (bits : BitVec 128) : v6Bits? spelling (printV6 bits) = some bits := by
  rw [printV6]
  split
  case h_1 dotted hmapped => exact v6Bits?_mapped hmapped
  case h_2 =>
    dsimp only
    split
    case isTrue htwo =>
      have hnone : IsZeroRun ([] ++ groups bits) (0, 0) := ⟨[], groups bits, rfl, rfl⟩
      have hrun : IsZeroRun (groups bits) (longestZeroRun (0, 0) 0 (groups bits)) :=
        isZeroRun_longestZeroRun hnone
      exact v6Bits?_leftOut hrun htwo
    case isFalse => exact v6Bits?_printGroups bits

/-! ### The characters of an address -/

/-- A digit of a group, a dot or a colon. -/
def IsAddressChar (c : Char) : Prop := (hexDigit? c).isSome = true ∨ c = '.' ∨ c = ':'

instance : DecidablePred IsAddressChar := fun _ => inferInstanceAs (Decidable (_ ∨ _))

/-- Hexadecimal digits are characters of ASCII. -/
theorem lt_of_hexDigit? {c : Char} (h : (hexDigit? c).isSome = true) : c.toNat < 0x80 := by
  have hrange {a b : Char} (hc : (decide (a ≤ c) && decide (c ≤ b)) = true)
      (hb : b.toNat < 0x80) : c.toNat < 0x80 := by
    rw [Bool.and_eq_true, decide_eq_true_eq, decide_eq_true_eq, Char.le_def, Char.le_def,
      UInt32.le_iff_toNat_le, UInt32.le_iff_toNat_le] at hc
    exact Nat.lt_of_le_of_lt hc.2 hb
  rw [hexDigit?] at h
  split at h
  · exact hrange ‹_› (by decide)
  · split at h
    · exact hrange ‹_› (by decide)
    · split at h
      · exact hrange ‹_› (by decide)
      · cases h

/-- No blank is part of an address. -/
theorem isBlank_of_isAddressChar {c : Char} (h : IsAddressChar c) : isBlank c = false := by
  rcases h with hdigit | rfl | rfl
  · have hall : ∀ n < 0x80, (hexDigit? (Char.ofNat n)).isSome = true →
        isBlank (Char.ofNat n) = false := by decide
    have hblank := hall c.toNat (lt_of_hexDigit? hdigit)
    rw [Char.ofNat_toNat] at hblank
    exact hblank hdigit
  · rfl
  · rfl

/-- A decimal digit is a hexadecimal one. -/
theorem isSome_hexDigit?_of_isDigit {c : Char} (h : isDigit c = true) :
    (hexDigit? c).isSome = true := by
  have hdigit : (decide ('0' ≤ c) && decide (c ≤ '9')) = true := h
  rw [hexDigit?, if_pos hdigit, Option.isSome_some]

/-- What is read as a byte is a decimal number. -/
theorem decimal?_of_octet? (h : octet? spelling cs = some n) : decimal? cs = some n := by
  rw [octet?] at h
  split at h
  · cases h
  · split at h
    · cases h
    · exact (Option.filter_eq_some_iff.mp h).1

/-- A dotted address is made of digits and dots. -/
theorem isDigit_of_v4Bits? {bits : BitVec 32} (h : v4Bits? spelling cs = some bits) :
    ∀ c ∈ cs, isDigit c = true ∨ c = '.' := by
  have hparts : ∃ ns, (cs.splitOn '.').mapM (octet? spelling) = some ns := by
    rw [v4Bits?] at h
    split at h
    · exact ⟨_, ‹_›⟩
    · cases h
  obtain ⟨ns, hns⟩ := hparts
  have hjoined : ['.'].intercalate (cs.splitOn '.') = cs := List.intercalate_splitOn '.'
  rw [← hjoined]
  refine forall_mem_intercalate (fun c hc => .inr (List.mem_singleton.mp hc))
    fun part hpart c hc => ?_
  obtain ⟨n, hn⟩ := exists_of_mem_mapM hns hpart
  exact .inl ((decimal?_eq_some_iff.mp (decimal?_of_octet? hn)).2.1 c hc)

/-- What is read as groups consists of hexadecimal digits and colons. -/
theorem isSome_hexDigit?_of_groups? (h : groups? cs = some gs) :
    ∀ c ∈ cs, (hexDigit? c).isSome = true ∨ c = ':' := by
  rw [groups?] at h
  split at h
  case isTrue hempty =>
    rw [List.isEmpty_iff.mp hempty]
    exact fun c hc => absurd hc List.not_mem_nil
  case isFalse =>
    have hjoined : [':'].intercalate (cs.splitOn ':') = cs := List.intercalate_splitOn ':'
    rw [← hjoined]
    refine forall_mem_intercalate (fun c hc => .inr (List.mem_singleton.mp hc))
      fun part hpart c hc => .inl ?_
    obtain ⟨g, hg⟩ := exists_of_mem_mapM h hpart
    rw [group?] at hg
    split at hg
    · cases hg
    · obtain ⟨ds, hds, -⟩ := Option.map_eq_some_iff.mp hg
      obtain ⟨d, hd⟩ := exists_of_mem_mapM hds hc
      rw [hd, Option.isSome_some]

/-- What is read as an address of four bytes consists of characters of addresses. -/
theorem isAddressChar_of_v4Bits? {bits : BitVec 32} (h : v4Bits? spelling cs = some bits) :
    ∀ c ∈ cs, IsAddressChar c := fun c hc =>
  (isDigit_of_v4Bits? h c hc).imp isSome_hexDigit?_of_isDigit .inl

/-- So does what is read as groups. -/
theorem isAddressChar_of_groups? (h : groups? cs = some gs) : ∀ c ∈ cs, IsAddressChar c :=
  fun c hc => (isSome_hexDigit?_of_groups? h c hc).imp_right .inr

/-- So does what is read as the last groups, which may end with an address of four bytes. -/
theorem isAddressChar_of_groupsEnding? (h : groupsEnding? spelling cs = some gs) :
    ∀ c ∈ cs, IsAddressChar c := by
  rw [groupsEnding?] at h
  split at h
  case h_1 =>
    split at h
    · exact isAddressChar_of_v4Bits? ‹_›
    · exact isAddressChar_of_groups? h
  case h_2 before last hsplit =>
    split at h
    · split at h
      · cases h
      · obtain ⟨gs', hbefore, -⟩ := Option.map_eq_some_iff.mp h
        rw [splitLast_eq_some hsplit]
        exact List.forall_mem_append.mpr ⟨isAddressChar_of_groups? hbefore,
          List.forall_mem_cons.mpr ⟨by decide, isAddressChar_of_v4Bits? ‹_›⟩⟩
    · exact isAddressChar_of_groups? h

/-- So does all that is read as an address of eight groups. -/
theorem isAddressChar_of_v6Bits? {bits : BitVec 128} (h : v6Bits? spelling cs = some bits) :
    ∀ c ∈ cs, IsAddressChar c := by
  rw [v6Bits?] at h
  split at h
  case h_1 =>
    obtain ⟨gs, hgs, -⟩ := Option.bind_eq_some_iff.mp h
    exact isAddressChar_of_groupsEnding? hgs
  case h_2 left right hsplit =>
    obtain ⟨head, hhead, htail⟩ := Option.bind_eq_some_iff.mp h
    obtain ⟨tail, htail, -⟩ := Option.bind_eq_some_iff.mp htail
    have hcolons : ∀ c ∈ [':', ':'], IsAddressChar c :=
      List.forall_mem_cons.mpr ⟨by decide, List.forall_mem_singleton.mpr (by decide)⟩
    rw [(of_splitAtMark hsplit).1]
    exact List.forall_mem_append.mpr ⟨isAddressChar_of_groups? hhead,
      List.forall_mem_append.mpr ⟨hcolons, isAddressChar_of_groupsEnding? htail⟩⟩

/-- Nothing else is in the spelling of an address. -/
theorem isAddressChar_of_parseChars? {ip : Ip} (h : parseChars? spelling cs = some ip) :
    ∀ c ∈ cs, IsAddressChar c := by
  rw [parseChars?] at h
  split at h
  · exact isAddressChar_of_v4Bits? ‹_›
  · obtain ⟨bits, hbits, -⟩ := Option.map_eq_some_iff.mp h
    exact isAddressChar_of_v6Bits? hbits

/-! ### Both versions -/

/-- With a colon no text is an address of four bytes, so no text is read as both kinds. -/
theorem v4Bits?_of_colon (h : ':' ∈ cs) : v4Bits? spelling cs = none := by
  refine Option.eq_none_iff_forall_ne_some.mpr fun bits hbits => ?_
  exact absurd (isDigit_of_v4Bits? hbits ':' h) (by decide)

/-- A colon stands in every address of eight groups as it is written. -/
theorem colon_mem_printV6 (bits : BitVec 128) : ':' ∈ printV6 bits := by
  rw [printV6]
  split
  · exact List.mem_append_left _ (by decide)
  · dsimp only
    split
    · simp
    · have hgroups : printGroups (groups bits) = _ := printGroups_cons_cons _ _ _
      rw [hgroups]
      exact List.mem_append_right _ List.mem_cons_self

/-- Every address is read from its spelling. -/
theorem parseChars?_printChars (ip : Ip) : parseChars? spelling ip.printChars = some ip := by
  cases ip with
  | v4 bits => rw [printChars, parseChars?, v4Bits?_printV4]
  | v6 bits =>
    rw [printChars, parseChars?, v4Bits?_of_colon (colon_mem_printV6 bits), v6Bits?_printV6]
    rfl

/-- What is written for an address consists of characters of addresses. -/
theorem isAddressChar_of_mem_printChars {ip : Ip} {c : Char} (h : c ∈ ip.printChars) :
    IsAddressChar c := by
  have hread : parseChars? .standard ip.printChars = some ip := parseChars?_printChars ip
  exact isAddressChar_of_parseChars? hread c h

/-- Something is written for every address. -/
theorem printChars_ne_nil (ip : Ip) : ip.printChars ≠ [] := by
  intro hnil
  have hread : parseChars? .standard ip.printChars = some ip := parseChars?_printChars ip
  rw [hnil] at hread
  cases hread

/-- A port has none but such characters either. -/
theorem isAddressChar_of_mem_port {port : Nat} {c : Char}
    (h : c ∈ ':' :: Nat.toDigits 10 port) : IsAddressChar c := by
  rcases List.mem_cons.mp h with rfl | hdigit
  · decide
  · exact .inl (isSome_hexDigit?_of_mem_toDigits (by decide) (by decide) hdigit)

/-- An address with a port is no address. -/
theorem parseChars?_port (bits : BitVec 32) (port : Nat) :
    parseChars? spelling ((v4 bits).printChars ++ ':' :: Nat.toDigits 10 port) = none := by
  have hdot : '.' ∈ printV4 bits := by
    rw [printV4, List.map_cons, List.map_cons, List.intercalate_cons_cons]
    simp
  have hcolon : ':' ∉ Nat.toDigits 10 port := not_mem_toDigits (by decide) (by decide) rfl
  have hnodot : '.' ∉ Nat.toDigits 10 port := not_mem_toDigits (by decide) (by decide) rfl
  have hnext : ¬ [':', ':'] <+: ':' :: Nat.toDigits 10 port := fun h =>
    hcolon ((List.cons_prefix_cons.mp h).2.subset (by decide))
  have hsplit :
      splitAtMark [':', ':'] (printV4 bits ++ ':' :: Nat.toDigits 10 port) = none := by
    rw [splitAtMark_append_left (colon_not_mem_printV4 bits), splitAtMark_cons hnext,
      splitAtMark_of_not_mem (x := ':') (by decide) hcolon]
    rfl
  have hgroups : groups? (printV4 bits ++ ':' :: Nat.toDigits 10 port) = none := by
    refine Option.eq_none_iff_forall_ne_some.mpr fun gs hgs => ?_
    exact absurd (isSome_hexDigit?_of_groups? hgs '.' (List.mem_append_left _ hdot)) (by decide)
  have hending : groupsEnding? spelling (printV4 bits ++ ':' :: Nat.toDigits 10 port) = none := by
    rw [groupsEnding?, splitLast_append hcolon]
    simp only [v4Bits?_of_not_mem hnodot, hgroups]
  rw [parseChars?, v4Bits?_of_colon (List.mem_append_right _ List.mem_cons_self), v6Bits?,
    printChars, hsplit, hending]
  rfl

end Ip

namespace SocketAddress

variable {cs : List Char}

/-- A port is read back from its digits. -/
theorem portDigits?_toDigits (port : UInt16) :
    portDigits? (Nat.toDigits 10 port.toNat) = some port := by
  rw [portDigits?, decimal?_toDigits, Option.filter_some,
    if_pos (decide_eq_true port.toNat_lt), Option.map_some, UInt16.ofNat_toNat]

/-- Without a bracket, an address with a port is one of four bytes, a colon and the port. -/
theorem parseChars?_of_not_mem (h : '[' ∉ cs) :
    parseChars? cs = (splitFirst ':' cs).bind fun parts =>
      (Ip.v4Bits? .standard parts.1).bind fun bits =>
        (portDigits? parts.2).bind fun port => some ⟨.v4 bits, 0, port⟩ := by
  rw [parseChars?]
  · rfl
  · rintro rest rfl
    exact h List.mem_cons_self

/-- An address of version 4 with a port is read from its spelling. -/
theorem parseChars?_v4 (bits : BitVec 32) (port : UInt16) :
    parseChars? ((Ip.v4 bits).printChars ++ ':' :: Nat.toDigits 10 port.toNat) =
      some ⟨.v4 bits, 0, port⟩ := by
  have hopen : '[' ∉ (Ip.v4 bits).printChars ++ ':' :: Nat.toDigits 10 port.toNat := by
    refine List.not_mem_append (fun h => ?_) fun h => ?_
    · exact absurd (Ip.isAddressChar_of_mem_printChars h) (by decide)
    · exact absurd (Ip.isAddressChar_of_mem_port h) (by decide)
  rw [parseChars?_of_not_mem hopen, Ip.printChars,
    splitFirst_append (Ip.colon_not_mem_printV4 bits),
    Option.bind_some, Ip.v4Bits?_printV4, Option.bind_some, portDigits?_toDigits, Option.bind_some]

/-- A bracket is closed only where one was opened. -/
theorem parseChars?_of_close (hopen : '[' ∉ cs) (hclose : ']' ∈ cs) :
    parseChars? cs = none := by
  rw [parseChars?_of_not_mem hopen]
  refine Option.eq_none_iff_forall_ne_some.mpr fun address haddress => ?_
  obtain ⟨⟨host, digits⟩, hsplit, haddress⟩ := Option.bind_eq_some_iff.mp haddress
  obtain ⟨bits, hbits, haddress⟩ := Option.bind_eq_some_iff.mp haddress
  obtain ⟨port, hport, -⟩ := Option.bind_eq_some_iff.mp haddress
  obtain ⟨n, hn, -⟩ := Option.map_eq_some_iff.mp hport
  rw [(splitFirst_eq_some hsplit).1, List.mem_append, List.mem_cons] at hclose
  rcases hclose with hhost | hcolon | hdigits
  · exact absurd (Ip.isAddressChar_of_v4Bits? hbits _ hhost) (by decide)
  · exact absurd hcolon (by decide)
  · obtain ⟨-, hall, -⟩ := decimal?_eq_some_iff.mp (Option.filter_eq_some_iff.mp hn).1
    exact absurd (hall _ hdigits) (by decide)

end SocketAddress

end ReverseTunnel
