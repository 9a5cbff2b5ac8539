import ReverseTunnel.Proofs.Json.Numbers
import ReverseTunnel.Text.Number

/-!
# Numbers that were written

A number is read from its digits. As a port more texts are read than those: leading zeros change
nothing, and a plus sign may stand in front. `WritesPort` says which, without the reader.

## Main results

* `decimal?_toDigits`, `port?_toDigits`: what was written is read.
* `port?_eq_some_iff`, `signed?_eq_some_iff`: which texts are read as a port, and as a number that
  may be negative.
-/

namespace ReverseTunnel.Text

variable {n bound : Nat} {text digits : List Char} {port : UInt16}

/-- Digits are read as the number that they denote, and nothing else is read. -/
theorem decimal?_eq_some_iff :
    decimal? digits = some n ↔
      digits ≠ [] ∧ (∀ c ∈ digits, isDigit c = true) ∧ digitsValue digits = n := by
  rw [decimal?, Option.ite_none_left_eq_some, Bool.or_eq_true, not_or, List.isEmpty_iff,
    Bool.not_eq_true', Bool.not_eq_false, List.all_eq_true, Option.some_inj, and_assoc]

/-- A number that is written in decimal is read back. -/
theorem decimal?_toDigits (n : Nat) : decimal? (Nat.toDigits 10 n) = some n :=
  decimal?_eq_some_iff.mpr ⟨Nat.toDigits_ne_nil,
    fun _ hc => Json.Number.isDigit_of_mem_toDigits hc, Json.Number.digitsValue_toDigits n⟩

/-- A text writes a port: digits, perhaps with a plus sign in front, that denote it. -/
def WritesPort (text : List Char) (port : UInt16) : Prop :=
  ∃ digits, (text = digits ∨ text = '+' :: digits) ∧ digits ≠ [] ∧
    (∀ c ∈ digits, isDigit c = true) ∧ digitsValue digits = port.toNat

/-- What is left of a text without a plus sign in front. -/
theorem unsigned?_eq (text : List Char) :
    unsigned? bound (String.ofList text) =
      (decimal? (if text.head? = some '+' then text.tail else text)).filter (· < bound) := by
  rw [unsigned?, String.toList_ofList]
  rcases text with _ | ⟨c, text⟩
  · rfl
  · by_cases hplus : c = '+'
    · subst hplus
      rfl
    · rw [List.head?_cons, if_neg (by simpa using hplus)]
      split
      · rename_i heq
        exact absurd (List.cons.inj heq).1 hplus
      · rfl

/-- A number below the bound is read back, and does not overflow. -/
theorem unsigned?_toDigits (h : n < bound) :
    unsigned? bound (String.ofList (Nat.toDigits 10 n)) = some n := by
  have hplus : (Nat.toDigits 10 n).head? ≠ some '+' := fun hhead =>
    absurd (Json.Number.isDigit_of_mem_toDigits (List.mem_of_mem_head? hhead)) (by decide)
  rw [unsigned?_eq, if_neg hplus, decimal?_toDigits, Option.filter_some,
    if_pos (decide_eq_true h)]

/-- A port that is written in decimal is read back. -/
theorem port?_toDigits (port : UInt16) :
    port? (String.ofList (Nat.toDigits 10 port.toNat)) = some port := by
  rw [port?, unsigned?_toDigits port.toNat_lt, Option.map_some, UInt16.ofNat_toNat]

/-- **A text is read as a port exactly if it writes one.** -/
theorem port?_eq_some_iff : port? (String.ofList text) = some port ↔ WritesPort text port := by
  have hread (digits : List Char) :
      ((decimal? digits).filter (· < 65536)).map UInt16.ofNat = some port ↔
        digits ≠ [] ∧ (∀ c ∈ digits, isDigit c = true) ∧ digitsValue digits = port.toNat := by
    rw [Option.map_eq_some_iff]
    constructor
    · rintro ⟨n, hn, rfl⟩
      obtain ⟨hdecimal, hlt⟩ := Option.filter_eq_some_iff.mp hn
      have hn : (UInt16.ofNat n).toNat = n := UInt16.toNat_ofNat_of_lt' (of_decide_eq_true hlt)
      rwa [hn, ← decimal?_eq_some_iff]
    · intro h
      refine ⟨port.toNat, ?_, UInt16.ofNat_toNat⟩
      rw [decimal?_eq_some_iff.mpr h, Option.filter_some,
        if_pos (decide_eq_true port.toNat_lt)]
  rw [port?, unsigned?_eq, hread, WritesPort]
  constructor
  · intro h
    by_cases hplus : text.head? = some '+'
    · rw [if_pos hplus] at h
      obtain ⟨rest, rfl⟩ := List.head?_eq_some_iff.mp hplus
      exact ⟨rest, .inr rfl, h⟩
    · rw [if_neg hplus] at h
      exact ⟨text, .inl rfl, h⟩
  · rintro ⟨digits, rfl | rfl, h⟩
    · have hplus : text.head? ≠ some '+' := fun hhead =>
        absurd (h.2.1 _ (List.mem_of_mem_head? hhead)) (by decide)
      rwa [if_neg hplus]
    · exact h

/-- A text writes a number of 64 bits: digits, perhaps with a sign in front, that denote it. -/
def WritesInteger (text : List Char) (n : Int) : Prop :=
  ∃ digits, digits ≠ [] ∧ (∀ c ∈ digits, isDigit c = true) ∧
    ((text = digits ∨ text = '+' :: digits) ∧ n = digitsValue digits ∨
      text = '-' :: digits ∧ n = -digitsValue digits) ∧
    -9223372036854775808 ≤ n ∧ n ≤ 9223372036854775807

/-- **A text is read as a number exactly if it writes one.** -/
theorem signed?_eq_some_iff {n : Int} :
    signed? (String.ofList text) = some n ↔ WritesInteger text n := by
  have hread {f : Nat → Int} {digits : List Char} : (decimal? digits).map f = some n ↔
      digits ≠ [] ∧ (∀ c ∈ digits, isDigit c = true) ∧ n = f (digitsValue digits) := by
    simp only [Option.map_eq_some_iff, decimal?_eq_some_iff]
    constructor
    · rintro ⟨m, ⟨hsome, hdigits, rfl⟩, rfl⟩
      exact ⟨hsome, hdigits, rfl⟩
    · rintro ⟨hsome, hdigits, rfl⟩
      exact ⟨_, ⟨hsome, hdigits, rfl⟩, rfl⟩
  rw [signed?, String.toList_ofList, Option.filter_eq_some_iff, Bool.and_eq_true,
    decide_eq_true_eq, decide_eq_true_eq]
  constructor
  · rintro ⟨hvalue, hrange⟩
    split at hvalue
    · obtain ⟨hsome, hdigits, hn⟩ := hread.mp hvalue
      exact ⟨_, hsome, hdigits, .inl ⟨.inr rfl, hn⟩, hrange⟩
    · obtain ⟨hsome, hdigits, hn⟩ := hread.mp hvalue
      exact ⟨_, hsome, hdigits, .inr ⟨rfl, hn⟩, hrange⟩
    · obtain ⟨hsome, hdigits, hn⟩ := hread.mp hvalue
      exact ⟨_, hsome, hdigits, .inl ⟨.inl rfl, hn⟩, hrange⟩
  · rintro ⟨digits, hsome, hdigits, ⟨rfl | rfl, hn⟩ | ⟨rfl, hn⟩, hrange⟩
    · refine ⟨?_, hrange⟩
      -- The first digit is no sign.
      split
      · exact absurd (hdigits '+' List.mem_cons_self) (by decide)
      · exact absurd (hdigits '-' List.mem_cons_self) (by decide)
      · exact hread.mpr ⟨hsome, hdigits, hn⟩
    · exact ⟨hread.mpr ⟨hsome, hdigits, hn⟩, hrange⟩
    · exact ⟨hread.mpr ⟨hsome, hdigits, hn⟩, hrange⟩

end ReverseTunnel.Text
