import ReverseTunnel.Text.Utf8

/-!
# Text and its bytes

What is read from the bytes of a text is the text, and no other bytes are read. Characters are read
one at a time, so it is enough to follow one character of each length; the bounds that keep out
overlong forms and surrogates are met because a character is written in its shortest form and is no
surrogate, and what meets them is in that form.

## Main results

* `decode?_encode`: reading undoes writing.
* `decode?_eq_some_iff`: what can be read, and as what.
* `decode?_of_ascii`: a byte of ASCII is read as the character of its number.
-/

namespace ReverseTunnel.Text.Utf8

/-! ### Writing -/

/-- A text is encoded character by character. -/
theorem encode_ofList (cs : List Char) :
    encode (String.ofList cs) = cs.flatMap String.utf8EncodeChar := by
  rw [encode, String.toList_ofList]

/-- Two texts one behind the other are encoded one behind the other. -/
theorem encode_append (s t : String) : encode (s ++ t) = encode s ++ encode t := by
  rw [encode, String.toList_append, List.flatMap_append, encode, encode]

/-- A number below 256 is that of its byte. -/
theorem toNat_ofNat {n : Nat} (h : n < 256) : (UInt8.ofNat n).toNat = n :=
  UInt8.toNat_ofNat_of_lt' h

/-- The byte of a number that is beyond ASCII is beyond ASCII. -/
theorem le_ofNat {n : Nat} (hlow : 0x80 ≤ n) (hhigh : n < 256) : 0x80 ≤ UInt8.ofNat n := by
  rwa [UInt8.le_iff_toNat_le, toNat_ofNat hhigh]

/-- A byte that begins a form of three bytes or four does not begin one of two. -/
theorem not_opensTwo {n : Nat} (hlow : 0xE0 ≤ n) (hhigh : n < 256) (continues : Bool) :
    ¬ (0xC2 ≤ UInt8.ofNat n && UInt8.ofNat n ≤ 0xDF && continues) = true := by
  simp only [Bool.and_eq_true, decide_eq_true_eq, UInt8.le_iff_toNat_le, toNat_ofNat hhigh,
    UInt8.reduceToNat]
  omega

/-- The byte that carries the last six bits of a number. -/
def tail (n : Nat) : UInt8 := UInt8.ofNat (n % 64 + 0x80)

/-- The byte that carries the last six bits is the number of these bits beyond 128. -/
theorem toNat_tail (n : Nat) : (tail n).toNat = n % 64 + 0x80 := toNat_ofNat (by omega)

/-- The byte that carries the last six bits is one that continues a character. -/
theorem isContinuation_tail (n : Nat) : isContinuation (tail n) = true := by
  simp only [isContinuation, Bool.and_eq_true, decide_eq_true_eq, UInt8.le_iff_toNat_le,
    toNat_tail, UInt8.reduceToNat]
  omega

/-- The last six bits are what a byte that carries them is read as. -/
theorem payload_tail (n : Nat) : payload (tail n) = n % 64 := by
  rw [payload, toNat_tail]
  omega

/-- The shortest form of a character: one byte to four, by the size of its number. -/
inductive Form (n : Nat) : Bytes → Prop
  | one (h : n < 0x80) : Form n [UInt8.ofNat n]
  | two (hlow : 0x80 ≤ n) (hhigh : n < 0x800) : Form n [UInt8.ofNat (n / 64 + 0xC0), tail n]
  | three (hlow : 0x800 ≤ n) (hhigh : n < 0x10000) :
      Form n [UInt8.ofNat (n / 4096 + 0xE0), tail (n / 64), tail n]
  | four (hlow : 0x10000 ≤ n) (hhigh : n < 0x110000) :
      Form n [UInt8.ofNat (n / 262144 + 0xF0), tail (n / 4096), tail (n / 64), tail n]

/-- A character is encoded in its shortest form. -/
theorem form_utf8EncodeChar (c : Char) : Form c.toNat (String.utf8EncodeChar c) := by
  have hmax : c.toNat < 0x110000 := by
    have := c.valid
    simp only [UInt32.isValidChar, Nat.isValidChar] at this
    change c.val.toNat < _
    omega
  have hn : c.val.toNat = c.toNat := rfl
  rw [String.utf8EncodeChar, hn]
  by_cases h1 : c.toNat ≤ 0x7F
  · rw [if_pos h1]
    exact .one (by omega)
  · rw [if_neg h1]
    by_cases h2 : c.toNat ≤ 0x7FF
    · rw [if_pos h2, Nat.mod_eq_of_lt (by omega : c.toNat / 64 < 0x20)]
      exact .two (by omega) (by omega)
    · rw [if_neg h2]
      by_cases h3 : c.toNat ≤ 0xFFFF
      · rw [if_pos h3, Nat.mod_eq_of_lt (by omega : c.toNat / 4096 < 0x10)]
        exact .three (by omega) (by omega)
      · rw [if_neg h3, Nat.mod_eq_of_lt (by omega : c.toNat / 262144 < 0x08)]
        exact .four (by omega) (by omega)

namespace Form

variable {n : Nat} {bs : Bytes}

/-- The shortest form of a number of ASCII is a single byte. -/
theorem of_ascii (h : Form n bs) (hn : n < 0x80) : bs = [UInt8.ofNat n] := by
  cases h with
  | one => rfl
  | two | three | four => omega

/-- All bytes of characters behind ASCII are behind ASCII. -/
theorem le_of_mem (h : Form n bs) (hn : ¬ n < 0x80) {b : UInt8} (hb : b ∈ bs) : 0x80 ≤ b := by
  have htail (m : Nat) : 0x80 ≤ tail m := le_ofNat (by omega) (by omega)
  cases h with
  | one => omega
  | two =>
    simp only [List.mem_cons, List.not_mem_nil, or_false] at hb
    rcases hb with rfl | rfl
    · exact le_ofNat (by omega) (by omega)
    · exact htail _
  | three =>
    simp only [List.mem_cons, List.not_mem_nil, or_false] at hb
    rcases hb with rfl | rfl | rfl
    · exact le_ofNat (by omega) (by omega)
    · exact htail _
    · exact htail _
  | four =>
    simp only [List.mem_cons, List.not_mem_nil, or_false] at hb
    rcases hb with rfl | rfl | rfl | rfl
    · exact le_ofNat (by omega) (by omega)
    · exact htail _
    · exact htail _
    · exact htail _

/-- Reading takes the whole form of a character and nothing else. -/
theorem decodeOnto_append (h : Form n bs) (hscalar : n < 0xD800 ∨ 0xDFFF < n) (read : List Char)
    (rest : Bytes) : decodeOnto read (bs ++ rest) = decodeOnto (Char.ofNat n :: read) rest := by
  -- The forms are told apart by their first bytes: for each, the tests for shorter forms fail.
  cases h with
  | one hn =>
    have ha : (UInt8.ofNat n).toNat = n := toNat_ofNat (by omega)
    have hascii : UInt8.ofNat n < 0x80 := by rwa [UInt8.lt_iff_toNat_lt, ha]
    rw [List.singleton_append, decodeOnto.eq_def]
    simp only [if_pos hascii, ha]
  | two hlow hhigh =>
    have ha : (UInt8.ofNat (n / 64 + 0xC0)).toNat = n / 64 + 0xC0 := toNat_ofNat (by omega)
    have hlead : ¬ UInt8.ofNat (n / 64 + 0xC0) < 0x80 :=
      UInt8.not_lt.mpr (le_ofNat (by omega) (by omega))
    have hopens : (0xC2 ≤ UInt8.ofNat (n / 64 + 0xC0) && UInt8.ofNat (n / 64 + 0xC0) ≤ 0xDF
        && isContinuation (tail n)) = true := by
      simp only [isContinuation_tail, Bool.and_true, Bool.and_eq_true, decide_eq_true_eq,
        UInt8.le_iff_toNat_le, ha, UInt8.reduceToNat]
      omega
    have hvalue : (n / 64 + 0xC0) % 32 * 64 + n % 64 = n := by omega
    rw [List.cons_append, List.cons_append, List.nil_append, decodeOnto.eq_def]
    simp only [if_neg hlead, if_pos hopens, ha, payload_tail, hvalue]
  | three hlow hhigh =>
    have ha : (UInt8.ofNat (n / 4096 + 0xE0)).toNat = n / 4096 + 0xE0 := toNat_ofNat (by omega)
    have hlead : ¬ UInt8.ofNat (n / 4096 + 0xE0) < 0x80 :=
      UInt8.not_lt.mpr (le_ofNat (by omega) (by omega))
    have hnot := not_opensTwo (n := n / 4096 + 0xE0) (by omega) (by omega)
      (isContinuation (tail (n / 64)))
    have hopens : (opensThree (UInt8.ofNat (n / 4096 + 0xE0)) (tail (n / 64))
        && isContinuation (tail n)) = true := by
      simp only [opensThree, isContinuation_tail, Bool.and_true, Bool.or_eq_true, Bool.and_eq_true,
        decide_eq_true_eq, beq_iff_eq, ← UInt8.toNat_inj, UInt8.le_iff_toNat_le, ha, toNat_tail,
        UInt8.reduceToNat]
      omega
    have hvalue : (n / 4096 + 0xE0) % 16 * 4096 + n / 64 % 64 * 64 + n % 64 = n := by omega
    rw [List.cons_append, List.cons_append, List.cons_append, List.nil_append, decodeOnto.eq_def]
    simp only [if_neg hlead, if_neg hnot, if_pos hopens, ha, payload_tail, hvalue]
  | four hlow hhigh =>
    have ha : (UInt8.ofNat (n / 262144 + 0xF0)).toNat = n / 262144 + 0xF0 :=
      toNat_ofNat (by omega)
    have hlead : ¬ UInt8.ofNat (n / 262144 + 0xF0) < 0x80 :=
      UInt8.not_lt.mpr (le_ofNat (by omega) (by omega))
    have hnot := not_opensTwo (n := n / 262144 + 0xF0) (by omega) (by omega)
      (isContinuation (tail (n / 4096)))
    have hnot' : ¬ (opensThree (UInt8.ofNat (n / 262144 + 0xF0)) (tail (n / 4096))
        && isContinuation (tail (n / 64))) = true := by
      simp only [opensThree, isContinuation_tail, Bool.and_true, Bool.or_eq_true, Bool.and_eq_true,
        decide_eq_true_eq, beq_iff_eq, ← UInt8.toNat_inj, UInt8.le_iff_toNat_le, ha, toNat_tail,
        UInt8.reduceToNat]
      omega
    have hopens : (opensFour (UInt8.ofNat (n / 262144 + 0xF0)) (tail (n / 4096))
        && isContinuation (tail (n / 64)) && isContinuation (tail n)) = true := by
      simp only [opensFour, isContinuation_tail, Bool.and_true, Bool.or_eq_true, Bool.and_eq_true,
        decide_eq_true_eq, beq_iff_eq, ← UInt8.toNat_inj, UInt8.le_iff_toNat_le, ha, toNat_tail,
        UInt8.reduceToNat]
      omega
    have hvalue : (n / 262144 + 0xF0) % 8 * 262144 + n / 4096 % 64 * 4096 + n / 64 % 64 * 64
        + n % 64 = n := by omega
    rw [List.cons_append, List.cons_append, List.cons_append, List.cons_append, List.nil_append,
      decodeOnto.eq_def]
    simp only [if_neg hlead, if_neg hnot, if_neg hnot', if_pos hopens, ha, payload_tail, hvalue]

end Form

/-- A character of ASCII is one byte. -/
theorem utf8EncodeChar_of_ascii {c : Char} (h : c.toNat < 0x80) :
    String.utf8EncodeChar c = [UInt8.ofNat c.toNat] := (form_utf8EncodeChar c).of_ascii h

/-- All bytes of a character behind ASCII are behind ASCII. -/
theorem le_of_mem_utf8EncodeChar {c : Char} (h : ¬ c.toNat < 0x80) {b : UInt8}
    (hb : b ∈ String.utf8EncodeChar c) : 0x80 ≤ b := (form_utf8EncodeChar c).le_of_mem h hb

/-- A character of ASCII is in a text if its byte is among the bytes of the text. -/
theorem ofNat_mem_encode_iff {text : String} {c : Char} (hc : c.toNat < 0x80) :
    UInt8.ofNat c.toNat ∈ encode text ↔ c ∈ text.toList := by
  rw [encode, List.mem_flatMap]
  constructor
  · rintro ⟨d, hd, hmem⟩
    by_cases hascii : d.toNat < 0x80
    · rw [utf8EncodeChar_of_ascii hascii, List.mem_singleton, ← UInt8.toNat_inj,
        toNat_ofNat (by omega), toNat_ofNat (by omega), Char.toNat_inj] at hmem
      exact hmem ▸ hd
    · have hle := le_of_mem_utf8EncodeChar hascii hmem
      simp only [UInt8.le_iff_toNat_le, toNat_ofNat (by omega : c.toNat < 256),
        UInt8.reduceToNat] at hle
      omega
  · intro hmem
    refine ⟨c, hmem, ?_⟩
    rw [utf8EncodeChar_of_ascii hc]
    exact List.mem_singleton_self _

/-- Text of ASCII is found again byte by byte. -/
theorem map_ofNat_flatMap {cs : List Char} (h : ∀ c ∈ cs, c.toNat < 0x80) :
    (cs.flatMap String.utf8EncodeChar).map (fun b => Char.ofNat b.toNat) = cs := by
  induction cs with
  | nil => rfl
  | cons c cs ih =>
    have hc : c.toNat < 0x80 := h c List.mem_cons_self
    rw [List.flatMap_cons, utf8EncodeChar_of_ascii hc, List.singleton_append, List.map_cons,
      toNat_ofNat (by omega), Char.ofNat_toNat,
      ih fun c' hc' => h c' (List.mem_cons_of_mem c hc')]

/-! ### Reading what was written -/

/-- A character that was encoded is read back, before anything that follows it. -/
theorem decodeOnto_utf8EncodeChar (c : Char) (read : List Char) (rest : Bytes) :
    decodeOnto read (String.utf8EncodeChar c ++ rest) = decodeOnto (c :: read) rest := by
  have hscalar : c.toNat < 0xD800 ∨ 0xDFFF < c.toNat := by
    have := c.valid
    simp only [UInt32.isValidChar, Nat.isValidChar] at this
    change c.val.toNat < _ ∨ _ < c.val.toNat
    omega
  rw [(form_utf8EncodeChar c).decodeOnto_append hscalar, Char.ofNat_toNat]

/-- Characters that were encoded are read back, behind those that were read before. -/
theorem decodeOnto_flatMap (cs read : List Char) :
    decodeOnto read (cs.flatMap String.utf8EncodeChar) = some (read.reverse ++ cs) := by
  induction cs generalizing read with
  | nil => rw [List.flatMap_nil, decodeOnto, List.append_nil]
  | cons c cs ih =>
    rw [List.flatMap_cons, decodeOnto_utf8EncodeChar, ih, List.reverse_cons, List.append_assoc,
      List.singleton_append]

/-- What is read from the bytes of a text is the text. -/
theorem decode?_encode (s : String) : decode? (encode s) = some s := by
  rw [decode?, encode, decodeOnto_flatMap, List.reverse_nil, List.nil_append, Option.map_some,
    String.ofList_toList]

/-- Bytes of ASCII are read one by one as the characters of the same numbers. -/
theorem decodeOnto_of_ascii {bs : Bytes} (h : ∀ b ∈ bs, b < 0x80) (read : List Char) :
    decodeOnto read bs = some (read.reverse ++ bs.map fun b => Char.ofNat b.toNat) := by
  induction bs generalizing read with
  | nil => rw [decodeOnto, List.map_nil, List.append_nil]
  | cons b bs ih =>
    rw [decodeOnto.eq_def]
    simp only [if_pos (h b List.mem_cons_self)]
    rw [ih (fun b' hb' => h b' (List.mem_cons_of_mem b hb')), List.reverse_cons, List.append_assoc,
      List.singleton_append, List.map_cons]

/-- Bytes of ASCII always make a text, of the characters of the same numbers. -/
theorem decode?_of_ascii {bs : Bytes} (h : ∀ b ∈ bs, b < 0x80) :
    decode? bs = some (String.ofList (bs.map fun b => Char.ofNat b.toNat)) := by
  rw [decode?, decodeOnto_of_ascii h, List.reverse_nil, List.nil_append, Option.map_some]

/-! ### Writing what was read -/

/-- A byte is that of its own number, however this is computed. -/
theorem ofNat_of_eq {b : UInt8} {n : Nat} (h : n = b.toNat) : UInt8.ofNat n = b := by
  rw [h, UInt8.ofNat_toNat]

/-- A character has one form. -/
theorem Form.unique {n : Nat} {bs bs' : Bytes} (h : Form n bs) (h' : Form n bs') : bs = bs' := by
  cases h with
  | one => cases h' with
    | one => rfl
    | two | three | four => omega
  | two => cases h' with
    | two => rfl
    | one | three | four => omega
  | three => cases h' with
    | three => rfl
    | one | two | four => omega
  | four => cases h' with
    | four => rfl
    | one | two | three => omega

/-- If bytes are the shortest form of a number that is no surrogate, its character is encoded in
them. -/
theorem utf8EncodeChar_of_form {n : Nat} {bs : Bytes} (h : Form n bs)
    (hscalar : n < 0xD800 ∨ 0xDFFF < n) : String.utf8EncodeChar (Char.ofNat n) = bs := by
  have hmax : n < 0x110000 := by cases h <;> omega
  have hn : (Char.ofNat n).toNat = n := by
    rw [Char.ofNat, dif_pos (by simp only [Nat.isValidChar]; omega)]
    rfl
  have hform := form_utf8EncodeChar (Char.ofNat n)
  rw [hn] at hform
  exact hform.unique h

section

variable {a b c d : UInt8} {n : Nat}

/-- The bytes that continue a character, by their numbers. -/
theorem isContinuation_iff : isContinuation b = true ↔ 0x80 ≤ b.toNat ∧ b.toNat ≤ 0xBF := by
  simp only [isContinuation, Bool.and_eq_true, decide_eq_true_eq, UInt8.le_iff_toNat_le,
    UInt8.reduceToNat]

/-- A byte that continues a character is known by the six bits that it is read as. -/
theorem tail_eq (h : isContinuation b = true) (hn : n % 64 = payload b) : tail n = b := by
  rw [isContinuation_iff] at h
  rw [payload] at hn
  rw [← UInt8.toNat_inj, toNat_tail]
  omega

/-- A byte is read as six bits at most. -/
theorem payload_lt (b : UInt8) : payload b < 64 := Nat.mod_lt _ (by decide)

/-- A byte of ASCII is the shortest form of its number. -/
theorem form_one (h : a < 0x80) : Form a.toNat [a] := by
  have hform : Form a.toNat [UInt8.ofNat a.toNat] := .one (by
    simpa [UInt8.lt_iff_toNat_lt] using h)
  rwa [UInt8.ofNat_toNat] at hform

/-- Two bytes that are read as a character are the shortest form of its number. -/
theorem form_two (h : (0xC2 ≤ a && a ≤ 0xDF && isContinuation b) = true) :
    Form (a.toNat % 32 * 64 + payload b) [a, b] := by
  simp only [Bool.and_eq_true, decide_eq_true_eq, UInt8.le_iff_toNat_le, UInt8.reduceToNat] at h
  obtain ⟨⟨hlow, hhigh⟩, hb⟩ := h
  have hpayload := payload_lt b
  have hform : Form (a.toNat % 32 * 64 + payload b) _ := .two (by omega) (by omega)
  rwa [ofNat_of_eq (b := a) (by omega), tail_eq hb (by omega)] at hform

/-- What may begin a form of three bytes, by its numbers. -/
theorem of_opensThree (h : opensThree a b = true) :
    isContinuation b = true ∧ 0xE0 ≤ a.toNat ∧ a.toNat ≤ 0xEF ∧
      (a.toNat = 0xE0 → 0xA0 ≤ b.toNat) ∧ (a.toNat = 0xED → b.toNat ≤ 0x9F) := by
  simp only [opensThree, Bool.or_eq_true, Bool.and_eq_true, decide_eq_true_eq, beq_iff_eq,
    ← UInt8.toNat_inj, UInt8.le_iff_toNat_le, UInt8.reduceToNat, isContinuation_iff] at h ⊢
  omega

/-- Three bytes that are read as a character are the shortest form of its number, which is no
surrogate. -/
theorem form_three (h : (opensThree a b && isContinuation c) = true) :
    Form (a.toNat % 16 * 4096 + payload b * 64 + payload c) [a, b, c] ∧
      (a.toNat % 16 * 4096 + payload b * 64 + payload c < 0xD800 ∨
        0xDFFF < a.toNat % 16 * 4096 + payload b * 64 + payload c) := by
  obtain ⟨hopens, hc⟩ := (Bool.and_eq_true _ _).mp h
  obtain ⟨hb, hlow, hhigh, hshort, hsurrogate⟩ := of_opensThree hopens
  have hbyte := isContinuation_iff.mp hb
  have hpayload : payload b = b.toNat % 64 := rfl
  have hlast := payload_lt c
  have hform : Form (a.toNat % 16 * 4096 + payload b * 64 + payload c) _ :=
    .three (by omega) (by omega)
  rw [ofNat_of_eq (b := a) (by omega), tail_eq hb (by omega), tail_eq hc (by omega)] at hform
  exact ⟨hform, by omega⟩

/-- What may begin a form of four bytes, by its numbers. -/
theorem of_opensFour (h : opensFour a b = true) :
    isContinuation b = true ∧ 0xF0 ≤ a.toNat ∧ a.toNat ≤ 0xF4 ∧
      (a.toNat = 0xF0 → 0x90 ≤ b.toNat) ∧ (a.toNat = 0xF4 → b.toNat ≤ 0x8F) := by
  simp only [opensFour, Bool.or_eq_true, Bool.and_eq_true, decide_eq_true_eq, beq_iff_eq,
    ← UInt8.toNat_inj, UInt8.le_iff_toNat_le, UInt8.reduceToNat, isContinuation_iff] at h ⊢
  omega

/-- Four bytes that are read as a character are the shortest form of its number. -/
theorem form_four (h : (opensFour a b && isContinuation c && isContinuation d) = true) :
    Form (a.toNat % 8 * 262144 + payload b * 4096 + payload c * 64 + payload d) [a, b, c, d] := by
  simp only [Bool.and_eq_true] at h
  obtain ⟨⟨hopens, hc⟩, hd⟩ := h
  obtain ⟨hb, hlow, hhigh, hshort, hlong⟩ := of_opensFour hopens
  have hbyte := isContinuation_iff.mp hb
  have hpayload : payload b = b.toNat % 64 := rfl
  have hthird := payload_lt c
  have hlast := payload_lt d
  have hform : Form (a.toNat % 8 * 262144 + payload b * 4096 + payload c * 64 + payload d) _ :=
    .four (by omega) (by omega)
  rwa [ofNat_of_eq (b := a) (by omega), tail_eq hb (by omega), tail_eq hc (by omega), tail_eq hd (by omega)]
    at hform

end

/-- A form of another length than three is that of no surrogate. -/
theorem Form.scalar {n : Nat} {bs : Bytes} (h : Form n bs) (hlength : bs.length ≠ 3) :
    n < 0xD800 ∨ 0xDFFF < n := by
  cases h with
  | one | two => exact .inl (by omega)
  | three => exact absurd rfl hlength
  | four => exact .inr (by omega)

/-- `cs` is `read`, newest first, and the text that `bs` writes. -/
def Continues (read cs : List Char) (bs : Bytes) : Prop :=
  ∃ tail, cs = read.reverse ++ tail ∧ bs = tail.flatMap String.utf8EncodeChar

/-- A character that was read goes in front of the text that is still written. -/
theorem Continues.next {n : Nat} {form rest : Bytes} {read cs : List Char}
    (h : Continues (Char.ofNat n :: read) cs rest) (hform : Form n form)
    (hscalar : n < 0xD800 ∨ 0xDFFF < n) : Continues read cs (form ++ rest) := by
  obtain ⟨tail, rfl, rfl⟩ := h
  refine ⟨Char.ofNat n :: tail, by simp, ?_⟩
  rw [List.flatMap_cons, utf8EncodeChar_of_form hform hscalar]

/-- Whatever bytes are read as, they are the encoding of just that. -/
theorem continues_of_decodeOnto {read cs : List Char} {bs : Bytes}
    (h : decodeOnto read bs = some cs) : Continues read cs bs := by
  induction read, bs using decodeOnto.induct with
  | case1 read =>
    rw [decodeOnto] at h
    exact ⟨[], by simpa using h.symm, rfl⟩
  | case2 read a rest ha ih =>
    rw [decodeOnto.eq_def] at h
    simp only [if_pos ha] at h
    exact (ih h).next (form_one ha) ((form_one ha).scalar (by simp))
  | case3 read a ha =>
    rw [decodeOnto.eq_def] at h
    simp only [if_neg ha, reduceCtorEq] at h
  | case4 read a ha b rest hb ih =>
    rw [decodeOnto.eq_def] at h
    simp only [if_neg ha, if_pos hb] at h
    exact (ih h).next (form_two hb) ((form_two hb).scalar (by simp))
  | case5 read a ha b hb =>
    rw [decodeOnto.eq_def] at h
    simp only [if_neg ha, if_neg hb, reduceCtorEq] at h
  | case6 read a ha b hb c rest hc ih =>
    rw [decodeOnto.eq_def] at h
    simp only [if_neg ha, if_neg hb, if_pos hc] at h
    exact (ih h).next (form_three hc).1 (form_three hc).2
  | case7 read a ha b hb c hc =>
    rw [decodeOnto.eq_def] at h
    simp only [if_neg ha, if_neg hb, if_neg hc, reduceCtorEq] at h
  | case8 read a ha b hb c hc d rest hd ih =>
    rw [decodeOnto.eq_def] at h
    simp only [if_neg ha, if_neg hb, if_neg hc, if_pos hd] at h
    exact (ih h).next (form_four hd) ((form_four hd).scalar (by simp))
  | case9 read a ha b hb c hc d rest hd =>
    rw [decodeOnto.eq_def] at h
    simp only [if_neg ha, if_neg hb, if_neg hc, if_neg hd, reduceCtorEq] at h

/-- **Bytes can be read exactly if they are what is written for some text**, and then they are read
as that text. -/
theorem decode?_eq_some_iff {bs : Bytes} {s : String} : decode? bs = some s ↔ bs = encode s := by
  constructor
  · intro h
    obtain ⟨cs, hcs, rfl⟩ := Option.map_eq_some_iff.mp h
    obtain ⟨tail, rfl, rfl⟩ := continues_of_decodeOnto hcs
    exact (encode_ofList _).symm
  · rintro rfl
    exact decode?_encode s

end ReverseTunnel.Text.Utf8
