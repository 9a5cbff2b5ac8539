import ReverseTunnel.Json.Value
import ReverseTunnel.Proofs.Text.Utf8

/-!
# JSON numbers that were written

A natural number is written with its decimal digits and nothing else, and these do not begin with
a zero unless the number is zero. So they are read as what they were, and as long as a double
holds the number exactly they are in its range. The tokenizer cannot see the end of a number but
by what stands behind it: here the end must be marked by something that is not part of a word.

## Main results

* `Number.parseChars?_toDigits`, `Number.inRange_ofNat`: digits that were written are read.
* `scanFrom_toDigits`: the tokenizer finds a number that was written.
-/

namespace ReverseTunnel.Json

open Text

namespace Number

variable {n : Nat} {c : Char}

/-- A whole number is printed in decimal, without sign, fraction or exponent. -/
theorem printChars_ofNat (n : Nat) : (ofNat n).printChars = Nat.toDigits 10 n := by
  simp [printChars, ofNat]

/-! ### Digits -/

/-- What a number is written with in decimal are the ten digits, by their numbers. -/
theorem toNat_of_mem_toDigits (h : c ∈ Nat.toDigits 10 n) : 0x30 ≤ c.toNat ∧ c.toNat ≤ 0x39 := by
  have hdigit := Nat.isDigit_of_mem_toDigits (by decide) (by decide) h
  simpa [Char.isDigit, UInt32.le_iff_toNat_le] using hdigit

/-- What a number is written with in decimal are digits. -/
theorem isDigit_of_mem_toDigits (h : c ∈ Nat.toDigits 10 n) : isDigit c = true := by
  have hbounds := toNat_of_mem_toDigits h
  simpa [isDigit, Char.le_def, UInt32.le_iff_toNat_le] using hbounds

/-- A positive number is not written with a zero in front, which a reader would refuse. -/
theorem head?_toDigits (h : 0 < n) : (Nat.toDigits 10 n).head? ≠ some '0' := by
  induction n using Nat.base_induction 10 (by decide) with
  | single m hm =>
    rw [Nat.toDigits_of_lt_base hm, List.head?_cons, ne_eq, Option.some.injEq,
      Nat.digitChar_eq_zero]
    omega
  | digit m k hk hm ih =>
    obtain ⟨first, rest, hfirst⟩ := List.exists_cons_of_ne_nil
      (Nat.toDigits_ne_nil (n := m) (b := 10))
    rw [← Nat.toDigits_append_toDigits (by decide) hm hk, hfirst]
    simpa only [hfirst, List.cons_append, List.head?_cons] using ih hm

/-- The digits that a number is written with have the number as their value. -/
theorem digitsValue_toDigits (n : Nat) : digitsValue (Nat.toDigits 10 n) = n := by
  have hvalue : digitsValue (Nat.toDigits 10 n) = Nat.ofDigitChars 10 (Nat.toDigits 10 n) 0 := by
    rw [digitsValue, Nat.ofDigitChars_eq_foldl]
    simp only [Nat.mul_comm]
  rw [hvalue, Nat.ofDigitChars_ten_toDigits]

/-- The digits of a number are read as the number. -/
theorem parseChars?_toDigits (n : Nat) : parseChars? (Nat.toDigits 10 n) = some (ofNat n) := by
  have hdigits : ∀ c ∈ Nat.toDigits 10 n, isDigit c = true := fun c hc =>
    isDigit_of_mem_toDigits hc
  have hdrop : (Nat.toDigits 10 n).dropWhile isDigit = [] := dropWhile_eq_nil.mpr hdigits
  have htake : (Nat.toDigits 10 n).takeWhile isDigit = Nat.toDigits 10 n := by
    simpa only [hdrop, List.append_nil] using
      List.takeWhile_append_dropWhile (p := isDigit) (l := Nat.toDigits 10 n)
  have hzero : ((Nat.toDigits 10 n).length > 1 && (Nat.toDigits 10 n).head? == some '0') =
      false := by
    rcases Nat.eq_zero_or_pos n with rfl | hpos
    · decide
    · simp [head?_toDigits hpos]
  have hempty : (Nat.toDigits 10 n).isEmpty = false := by simp [Nat.toDigits_ne_nil]
  have hsign : ∀ rest, Nat.toDigits 10 n = '-' :: rest → False := fun rest heq =>
    absurd (hdigits '-' (heq ▸ List.mem_cons_self)) (by decide)
  rw [parseChars?]
  · simp only [htake, hdrop, hzero, hempty, Bool.or_false, if_neg Bool.false_ne_true]
    rfl
  · exact hsign

/-- A whole number is read back from the number that was made of it. -/
theorem natural?_ofNat (n : Nat) : (ofNat n).natural? = some n := by
  simp [natural?, ofNat, digitsValue_toDigits]

/-! ### Range -/

/-- All digits of a number of 64 bits are kept. -/
theorem foldl_push_toDigits (h : n < 18446744073709551616) :
    (Nat.toDigits 10 n).foldl Significand.push ⟨0, 0⟩ = ⟨n, 0⟩ := by
  induction n using Nat.base_induction 10 (by decide) with
  | single m hm =>
    rw [Nat.toDigits_of_lt_base hm, List.foldl_cons, List.foldl_nil, Significand.push]
    simp [Nat.toNat_digitChar_sub_48_of_lt_ten hm, h]
  | digit m k hk hm ih =>
    rw [← Nat.toDigits_append_toDigits (by decide) hm hk, List.foldl_append, ih (by omega),
      Nat.toDigits_of_lt_base hk, List.foldl_cons, List.foldl_nil, Significand.push]
    have hnext : m * 10 + k < 18446744073709551616 := by omega
    simp [Nat.toNat_digitChar_sub_48_of_lt_ten hk, hnext, Nat.mul_comm]

/-- Numbers of at most 53 bits are kept as they are. -/
theorem round53_of_lt (h : n < 9007199254740992) : round53 n = n := by
  have hexcess : Nat.log2 n + 1 - 53 = 0 := by
    rcases Nat.eq_zero_or_pos n with rfl | hpos
    · decide
    · have hlog : Nat.log2 n < 53 := (Nat.log2_lt (by omega)).mpr (by omega)
      omega
  rw [round53]
  simp only [hexcess, decide_true, Bool.or_true, if_true]

/-- A number of at most 53 bits, which a double holds exactly, is in its range. -/
theorem inRange_ofNat (h : n < 9007199254740992) : (ofNat n).inRange = true := by
  have hbound : 9007199254740992 ≤ overflowBound := by decide +kernel
  have hone : round53 1 = 1 := round53_of_lt (by decide)
  have hpush := foldl_push_toDigits (n := n) (by omega)
  simp only [inRange, ofNat, hpush, List.foldl_nil, List.length_nil]
  split
  · rfl
  · -- No digit was dropped and there is no exponent: the number stands before the power zero.
    rw [if_neg (by decide)]
    simp only [decide_eq_true_eq]
    rw [round53_of_lt h]
    change n * round53 1 < overflowBound
    rw [hone]
    omega

end Number

/-! ### Finding the end -/

/-- What stands behind a number or a word, if anything, does not belong to it. -/
def Breaks (rest : Bytes) : Prop :=
  ∀ b ∈ rest.head?, Token.isNumberByte b = false ∧ Token.isLetter b = false

/-- The end of a text ends a number. -/
theorem breaks_nil : Breaks [] := fun _ h => nomatch h

/-- While a number is scanned, all its bytes are gathered up, and nothing is found until something
else comes. -/
theorem scanFrom_number {bs : Bytes} (h : ∀ b ∈ bs, Token.isNumberByte b = true)
    (found : List Token) (seen rest : Bytes) :
    Token.scanFrom found (.number seen) (bs ++ rest) =
      Token.scanFrom found (.number (bs.reverse ++ seen)) rest := by
  induction bs generalizing seen with
  | nil => rfl
  | cons b bs ih =>
    rw [List.cons_append, Token.scanFrom, if_pos (h b List.mem_cons_self),
      ih (fun b' hb' => h b' (List.mem_cons_of_mem b hb')), List.reverse_cons, List.append_assoc,
      List.singleton_append]

/-- A number ends where something else begins. -/
theorem scanFrom_number_of_breaks {seen rest : Bytes} {n : Number}
    (h : Number.parse? seen.reverse = some n) (hrest : Breaks rest) (found : List Token) :
    Token.scanFrom found (.number seen) rest = Token.scanFrom (.number n :: found) .gap rest := by
  cases rest with
  | nil => simp [Token.scanFrom, h]
  | cons b rest => simp [Token.scanFrom, h, (hrest b rfl).1]

/-- A word ends where something else begins. -/
theorem scanFrom_word_of_breaks (seen : Bytes) {rest : Bytes} {token : Token}
    (h : Token.ofWord? seen.reverse = some token) (hrest : Breaks rest) (found : List Token) :
    Token.scanFrom found (.word seen) rest = Token.scanFrom (token :: found) .gap rest := by
  cases rest with
  | nil => simp [Token.scanFrom, h]
  | cons b rest => simp [Token.scanFrom, h, (hrest b rfl).2]

/-- A digit begins a number and goes on with one. -/
theorem start?_of_isDigit {b : UInt8} (h : Bytes.isDigit b = true) :
    Token.start? b = some (none, .number [b]) ∧ Token.isNumberByte b = true := by
  have hnumber : Token.isNumberByte b = true := by simp [Token.isNumberByte, h]
  simp only [Bytes.isDigit, Bool.and_eq_true, decide_eq_true_eq, UInt8.le_iff_toNat_le,
    UInt8.reduceToNat] at h
  have hmark {m : UInt8} (hm : m.toNat < 0x30 ∨ 0x39 < m.toNat) : (b == m) = false := by
    rw [beq_eq_false_iff_ne, ne_eq, ← UInt8.toNat_inj]
    omega
  have hletter : Token.isLetter b = false := by
    simp only [Token.isLetter, Bool.and_eq_false_iff, decide_eq_false_iff_not,
      UInt8.le_iff_toNat_le, UInt8.reduceToNat]
    omega
  refine ⟨?_, hnumber⟩
  simp [Token.start?, Token.isBlank, hmark, hletter, hnumber]

/-- The bytes of digits are digits. -/
theorem isDigit_of_mem_flatMap_toDigits {n : Nat} {b : UInt8}
    (h : b ∈ (Nat.toDigits 10 n).flatMap String.utf8EncodeChar) : Bytes.isDigit b = true := by
  obtain ⟨c, hc, hb⟩ := List.mem_flatMap.mp h
  have hbounds := Number.toNat_of_mem_toDigits hc
  rw [Utf8.utf8EncodeChar_of_ascii (by omega), List.mem_singleton] at hb
  subst hb
  simp only [Bytes.isDigit, Bool.and_eq_true, decide_eq_true_eq, UInt8.le_iff_toNat_le,
    UInt8.reduceToNat, Utf8.toNat_ofNat (show c.toNat < 256 by omega)]
  omega

/-- The tokenizer finds a number that was written. -/
theorem scanFrom_toDigits {rest : Bytes} (n : Nat) (hrest : Breaks rest) (found : List Token) :
    Token.scanFrom found .gap ((Nat.toDigits 10 n).flatMap String.utf8EncodeChar ++ rest) =
      Token.scanFrom (.number (.ofNat n) :: found) .gap rest := by
  have hparse : Number.parse? ((Nat.toDigits 10 n).flatMap String.utf8EncodeChar) =
      some (.ofNat n) := by
    rw [Number.parse?, Utf8.map_ofNat_flatMap, Number.parseChars?_toDigits]
    intro c hc
    have hbounds := Number.toNat_of_mem_toDigits hc
    omega
  have hdigits : ∀ b ∈ (Nat.toDigits 10 n).flatMap String.utf8EncodeChar,
      Bytes.isDigit b = true := fun b hb => isDigit_of_mem_flatMap_toDigits hb
  generalize (Nat.toDigits 10 n).flatMap String.utf8EncodeChar = bs at hparse hdigits
  cases bs with
  | nil =>
    have hnone : Number.parse? [] = none := by decide
    rw [hnone] at hparse
    cases hparse
  | cons b bs =>
    have hstart := (start?_of_isDigit (hdigits b List.mem_cons_self)).1
    have hmore : ∀ b' ∈ bs, Token.isNumberByte b' = true := fun b' hb' =>
      (start?_of_isDigit (hdigits b' (List.mem_cons_of_mem b hb'))).2
    rw [List.cons_append, Token.scanFrom, hstart]
    simp only [Option.bind_eq_bind, Option.bind_some, Token.addTo]
    have hwhole : Number.parse? (bs.reverse ++ [b]).reverse = some (.ofNat n) := by
      rw [List.reverse_append, List.reverse_reverse]
      exact hparse
    rw [scanFrom_number hmore, scanFrom_number_of_breaks hwhole hrest]

end ReverseTunnel.Json
