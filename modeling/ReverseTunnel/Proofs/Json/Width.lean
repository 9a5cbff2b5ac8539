import Mathlib.Data.Nat.Digits.Defs
import ReverseTunnel.Json.Value
import ReverseTunnel.Proofs.Text.Utf8
import ReverseTunnel.Text.Quoted

/-!
# How long a text becomes

A value that is refused is shown in a message: first between quotes, with every unprintable
character written by its number, and then as part of a JSON string, where each backslash is
doubled. Every character has its price in bytes, and no character costs more than seven times the
bytes that it has. The delete character costs exactly that.

## Main results

* `width_echo_le`: what is shown of a text has at most seven times its bytes.
* `width_echo_replicate`: a bound that is met.
-/

namespace ReverseTunnel.Text

open Json

/-- The number of bytes of characters. -/
def width (cs : List Char) : Nat := (cs.flatMap String.utf8EncodeChar).length

/-- The width of two texts one behind the other is the sum of their widths. -/
@[simp] theorem width_append (cs cs' : List Char) : width (cs ++ cs') = width cs + width cs' := by
  simp [width]

/-- The width of a text is that of its first character and that of the others. -/
theorem width_cons (c : Char) (cs : List Char) : width (c :: cs) = width [c] + width cs :=
  width_append [c] cs

/-- If every character costs so many times its bytes at most, so does the whole text. -/
theorem width_flatMap_le {f : Char → List Char} {k : Nat} (h : ∀ c, width (f c) ≤ k * width [c])
    (cs : List Char) : width (cs.flatMap f) ≤ k * width cs := by
  induction cs with
  | nil => exact Nat.zero_le _
  | cons c cs ih =>
    rw [List.flatMap_cons, width_append, width_cons c cs, Nat.mul_add]
    exact Nat.add_le_add (h c) ih

/-- If every character costs the same, the whole text costs that for each of them. -/
theorem width_flatMap_eq {f : Char → List Char} {k : Nat} {cs : List Char}
    (h : ∀ c ∈ cs, width (f c) = k) : width (cs.flatMap f) = k * cs.length := by
  induction cs with
  | nil => rfl
  | cons c cs ih =>
    rw [List.flatMap_cons, width_append, h c List.mem_cons_self,
      ih fun c' hc' => h c' (List.mem_cons_of_mem c hc'), List.length_cons, Nat.mul_succ,
      Nat.add_comm]

/-- A value is written in as many bytes as its text is wide. -/
theorem length_print (v : Value) : v.print.length = width v.printChars := by
  rw [Value.print, Utf8.encode_ofList, width]

/-- A text is encoded in as many bytes as it is wide. -/
theorem length_encode (s : String) : (Utf8.encode s).length = width s.toList := rfl

/-! ### One character -/

/-- How many bytes a character has, and how large its number then is at most. -/
theorem width_bounds (c : Char) :
    width [c] = 1 ∧ c.toNat < 0x80 ∨ width [c] = 2 ∧ c.toNat < 0x800 ∨
      width [c] = 3 ∧ c.toNat < 0x10000 ∨ width [c] = 4 ∧ c.toNat < 0x110000 := by
  have hwidth : width [c] = (String.utf8EncodeChar c).length := by
    rw [width, List.flatMap_singleton]
  rw [hwidth]
  have hform := Utf8.form_utf8EncodeChar c
  generalize String.utf8EncodeChar c = bs at hform
  cases hform with
  | one h => exact .inl ⟨rfl, h⟩
  | two _ h => exact .inr (.inl ⟨rfl, h⟩)
  | three _ h => exact .inr (.inr (.inl ⟨rfl, h⟩))
  | four _ h => exact .inr (.inr (.inr ⟨rfl, h⟩))

/-- Every character takes a byte at least. -/
theorem width_pos (c : Char) : 1 ≤ width [c] := by
  have := width_bounds c
  omega

/-- In a JSON string a character takes at most six times its bytes. -/
theorem width_escapeChar_le (c : Char) : width (escapeChar c) ≤ 6 * width [c] := by
  have hpos := width_pos c
  by_cases hshort : c ∈ ['"', '\\', '\x08', '\x0c', '\n', '\r', '\t']
  · simp only [List.mem_cons, List.not_mem_nil, or_false] at hshort
    rcases hshort with rfl | rfl | rfl | rfl | rfl | rfl | rfl <;> decide
  · simp only [List.mem_cons, List.not_mem_nil, or_false, not_or] at hshort
    obtain ⟨hquote, hslash, h8, hc, hn, hr, ht⟩ := hshort
    rw [escapeChar, if_neg hquote, if_neg hslash, if_neg h8, if_neg hc, if_neg hn, if_neg hr,
      if_neg ht]
    by_cases hcontrol : c.toNat < 0x20
    · have hdigits : ∀ n < 0x20, width ['\\', 'u', '0', '0', Nat.digitChar (n / 16),
          Nat.digitChar (n % 16)] = 6 := by decide
      rw [if_pos hcontrol, hdigits c.toNat hcontrol]
      omega
    · rw [if_neg hcontrol]
      omega

/-! ### Numbers in hexadecimal -/

/-- What a number is written with in hexadecimal are the sixteen digits. -/
theorem exists_of_mem_toDigits {n : Nat} {c : Char} (h : c ∈ Nat.toDigits 16 n) :
    ∃ digit < 16, c = Nat.digitChar digit := by
  induction n using Nat.strongRecOn with
  | ind n ih =>
    rw [Nat.toDigits_eq_if (by decide)] at h
    split at h
    · rename_i hlt
      exact ⟨n, hlt, List.mem_singleton.mp h⟩
    · rcases List.mem_append.mp h with h | h
      · exact ih (n / 16) (by omega) h
      · exact ⟨n % 16, by omega, List.mem_singleton.mp h⟩

/-- In a JSON string a number takes one byte for each digit. -/
theorem width_escape_toDigits (n : Nat) :
    width ((Nat.toDigits 16 n).flatMap escapeChar) = (Nat.toDigits 16 n).length := by
  have hdigits : ∀ digit < 16, width (escapeChar (Nat.digitChar digit)) = 1 := by decide
  have hone : ∀ c ∈ Nat.toDigits 16 n, width (escapeChar c) = 1 := by
    intro c hc
    obtain ⟨digit, hlt, rfl⟩ := exists_of_mem_toDigits hc
    exact hdigits digit hlt
  rw [width_flatMap_eq hone, Nat.one_mul]

/-- The number of a character has few digits, given the bytes that the character has. -/
theorem length_toDigits_le (c : Char) : (Nat.toDigits 16 c.toNat).length + 5 ≤ 7 * width [c] := by
  have hdigits (k : Nat) (hk : 0 < k) (h : c.toNat < 16 ^ k) :
      (Nat.toDigits 16 c.toNat).length ≤ k :=
    (Nat.length_toDigits_le_iff (by decide) hk).mpr h
  rcases width_bounds c with ⟨hw, h⟩ | ⟨hw, h⟩ | ⟨hw, h⟩ | ⟨hw, h⟩
  · have := hdigits 2 (by decide) (by omega)
    omega
  · have := hdigits 3 (by decide) (by omega)
    omega
  · have := hdigits 4 (by decide) (by omega)
    omega
  · have := hdigits 6 (by decide) (by omega)
    omega

/-! ### What is shown of a text -/

/-- What a JSON string shows of a text that is quoted in it, its quotes aside. -/
def echo (s : String) : List Char := s.toList.flatMap fun c => (quotedChar c).flatMap escapeChar

/-- A character that is quoted in a message, and the message then in a text, takes at most seven
times its own width. -/
theorem width_echoChar_le (c : Char) :
    width ((quotedChar c).flatMap escapeChar) ≤ 7 * width [c] := by
  have hpos := width_pos c
  by_cases hshort : c ∈ ['"', '\\', '\t', '\r', '\n', '\x00']
  · simp only [List.mem_cons, List.not_mem_nil, or_false] at hshort
    rcases hshort with rfl | rfl | rfl | rfl | rfl | rfl <;> decide
  · simp only [List.mem_cons, List.not_mem_nil, or_false, not_or] at hshort
    obtain ⟨hquote, hslash, ht, hr, hn, h0⟩ := hshort
    rw [quotedChar, if_neg hquote, if_neg hslash, if_neg ht, if_neg hr, if_neg hn, if_neg h0]
    split
    · have hopen : width (['\\', 'u', '\x7b'].flatMap escapeChar) = 4 := by decide
      have hclose : width (['\x7d'].flatMap escapeChar) = 1 := by decide
      have hdigits := length_toDigits_le c
      rw [List.flatMap_append, List.flatMap_append, width_append, width_append, hopen, hclose,
        width_escape_toDigits]
      omega
    · have hescape := width_escapeChar_le c
      rw [List.flatMap_singleton]
      omega

/-- **What is shown of a text has at most seven times its bytes.** -/
theorem width_echo_le (s : String) : width (echo s) ≤ 7 * (Utf8.encode s).length := by
  rw [length_encode]
  exact width_flatMap_le width_echoChar_le s.toList

/-- Delete characters meet the bound. -/
theorem width_echo_replicate (n : Nat) :
    width (echo (String.ofList (List.replicate n '\x7f'))) = 7 * n := by
  have hone : ∀ c ∈ List.replicate n '\x7f', width ((quotedChar c).flatMap escapeChar) = 7 := by
    intro c hc
    rw [List.eq_of_mem_replicate hc]
    decide
  rw [echo, String.toList_ofList, width_flatMap_eq hone, List.length_replicate]

/-- A JSON string that shows a text between quotes. -/
theorem width_escape_quoted (s : String) :
    width ((quoted s).toList.flatMap escapeChar) = width (echo s) + 4 := by
  have hmark : width (escapeChar '"') = 2 := by decide
  rw [quoted, String.toList_ofList, List.flatMap_append, List.flatMap_cons, List.flatMap_singleton,
    width_append, width_append, hmark, List.flatMap_assoc, echo]
  omega

end ReverseTunnel.Text
