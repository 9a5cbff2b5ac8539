import ReverseTunnel.Json.Escape
import ReverseTunnel.Json.Token
import ReverseTunnel.Proofs.Text.Split
import ReverseTunnel.Proofs.Text.Utf8

/-!
# JSON strings that were written

A character is written between quotes in one of three ways: as a backslash and a letter, as a
backslash and the number of a control character, or as it is. Whatever the way, the tokenizer
passes over it as part of the string, and resolving the escapes gives the bytes of the character
back. So what is between the quotes is found again as it was written, and means the text that it
was written for.

## Main results

* `escaped_escapeChar`: the three ways.
* `scanFrom_quote`: the tokenizer finds a string that was written.
* `unescape?_escape`: what was written means the text.
-/

namespace ReverseTunnel.Json

open Text

/-- The bytes that are written for characters. -/
def escapeChars (cs : List Char) : Bytes :=
  cs.flatMap fun c => (escapeChar c).flatMap String.utf8EncodeChar

/-- The bytes between the quotes of a text. -/
def escape (s : String) : Bytes := escapeChars s.toList

/-! ### The three ways to write a character -/

/-- A byte that is neither a control byte nor a quote nor a backslash. -/
def IsBare (b : UInt8) : Prop := 0x20 ≤ b ∧ b ≠ 0x22 ∧ b ≠ 0x5C

/-- How a character is written between quotes. -/
inductive Escaped (c : Char) : Bytes → Prop
  | short {b : UInt8} (letter : UInt8) (hc : String.utf8EncodeChar c = [b])
      (h : shortEscape? letter = some b) : Escaped c [0x5C, letter]
  | unit {high low : UInt8} (hc : c.toNat < 0x20) (hhigh : Token.isHexDigit high = true)
      (hlow : Token.isHexDigit low = true) (h : hexUnit? 0x30 0x30 high low = some c.toNat) :
      Escaped c [0x5C, 0x75, 0x30, 0x30, high, low]
  | bare (h : ∀ b ∈ String.utf8EncodeChar c, IsBare b) : Escaped c (String.utf8EncodeChar c)

/-- The character for a hexadecimal digit is scanned as one. -/
theorem isHexDigit_digitChar {n : Nat} (h : n < 16) :
    Token.isHexDigit (UInt8.ofNat n.digitChar.toNat) = true := by
  have hall : ∀ m < 16, Token.isHexDigit (UInt8.ofNat m.digitChar.toNat) = true := by decide
  exact hall n h

/-- The number of a control character is read from the digits that it is written with. -/
theorem hexUnit?_digitChar {n : Nat} (h : n < 0x20) :
    hexUnit? 0x30 0x30 (UInt8.ofNat (n / 16).digitChar.toNat)
      (UInt8.ofNat (n % 16).digitChar.toNat) = some n := by
  have hall : ∀ m < 0x20, hexUnit? 0x30 0x30 (UInt8.ofNat (m / 16).digitChar.toNat)
      (UInt8.ofNat (m % 16).digitChar.toNat) = some m := by decide +kernel
  exact hall n h

/-- The character for a hexadecimal digit is encoded in a single byte. -/
theorem utf8EncodeChar_digitChar {n : Nat} (h : n < 16) :
    String.utf8EncodeChar n.digitChar = [UInt8.ofNat n.digitChar.toNat] := by
  have hall : ∀ m < 16, String.utf8EncodeChar m.digitChar = [UInt8.ofNat m.digitChar.toNat] := by
    decide
  exact hall n h

/-- A character that needs no escape is written in bytes that need none either. -/
theorem isBare_of_mem_utf8EncodeChar {c : Char} (hquote : c ≠ '"') (hslash : c ≠ '\\')
    (hcontrol : ¬ c.toNat < 0x20) : ∀ b ∈ String.utf8EncodeChar c, IsBare b := by
  have hne {m : Char} (h : c ≠ m) : c.toNat ≠ m.toNat := fun heq =>
    h (by rw [← Char.ofNat_toNat c, heq, Char.ofNat_toNat])
  have hquote' : c.toNat ≠ 0x22 := hne hquote
  have hslash' : c.toNat ≠ 0x5C := hne hslash
  intro b hb
  simp only [IsBare, ne_eq, ← UInt8.toNat_inj, UInt8.le_iff_toNat_le, UInt8.reduceToNat]
  by_cases hascii : c.toNat < 0x80
  · rw [Utf8.utf8EncodeChar_of_ascii hascii, List.mem_singleton] at hb
    subst hb
    rw [Utf8.toNat_ofNat (by omega)]
    omega
  · have hle := Utf8.le_of_mem_utf8EncodeChar hascii hb
    simp only [UInt8.le_iff_toNat_le, UInt8.reduceToNat] at hle
    omega

/-- What a character is escaped as is one of the escapes for it. -/
theorem escaped_escapeChar (c : Char) :
    Escaped c ((escapeChar c).flatMap String.utf8EncodeChar) := by
  by_cases hshort : c ∈ ['"', '\\', '\x08', '\x0c', '\n', '\r', '\t']
  · simp only [List.mem_cons, List.not_mem_nil, or_false] at hshort
    rcases hshort with rfl | rfl | rfl | rfl | rfl | rfl | rfl
    · exact .short 0x22 rfl rfl
    · exact .short 0x5C rfl rfl
    · exact .short 0x62 rfl rfl
    · exact .short 0x66 rfl rfl
    · exact .short 0x6E rfl rfl
    · exact .short 0x72 rfl rfl
    · exact .short 0x74 rfl rfl
  · simp only [List.mem_cons, List.not_mem_nil, or_false, not_or] at hshort
    obtain ⟨hquote, hslash, h8, hc, hn, hr, ht⟩ := hshort
    rw [escapeChar, if_neg hquote, if_neg hslash, if_neg h8, if_neg hc, if_neg hn, if_neg hr,
      if_neg ht]
    by_cases hcontrol : c.toNat < 0x20
    · have hhigh : c.toNat / 16 < 16 := by omega
      have hlow : c.toNat % 16 < 16 := by omega
      have hbytes := Escaped.unit hcontrol (isHexDigit_digitChar hhigh) (isHexDigit_digitChar hlow)
        (hexUnit?_digitChar hcontrol)
      rw [if_pos hcontrol]
      simp only [List.flatMap_cons, utf8EncodeChar_digitChar hhigh, utf8EncodeChar_digitChar hlow]
      exact hbytes
    · rw [if_neg hcontrol, List.flatMap_singleton]
      exact .bare (isBare_of_mem_utf8EncodeChar hquote hslash hcontrol)

/-! ### Finding the end -/

/-- While a text in quotes is scanned, bytes that need no escape are gathered up as they are. -/
theorem scanFrom_bare {bs : Bytes} (h : ∀ b ∈ bs, IsBare b) (found : List Token)
    (seen rest : Bytes) :
    Token.scanFrom found (.string seen) (bs ++ rest) =
      Token.scanFrom found (.string (bs.reverse ++ seen)) rest := by
  induction bs generalizing seen with
  | nil => rfl
  | cons b bs ih =>
    obtain ⟨hlow, hquote, hslash⟩ := h b List.mem_cons_self
    have hcontrol : ¬ b < 0x20 := UInt8.not_lt.mpr hlow
    rw [List.cons_append, Token.scanFrom, if_neg (by simpa using hquote),
      if_neg (by simpa using hslash), if_neg hcontrol,
      ih (fun b' hb' => h b' (List.mem_cons_of_mem b hb')), List.reverse_cons, List.append_assoc,
      List.singleton_append]

/-- Bytes that are no escape stand for themselves. -/
theorem unescapeOnto_bare {bs : Bytes} (h : ∀ b ∈ bs, IsBare b) (read rest : Bytes) :
    unescapeOnto read (bs ++ rest) = unescapeOnto (bs.reverse ++ read) rest := by
  induction bs generalizing read with
  | nil => rfl
  | cons b bs ih =>
    obtain ⟨-, -, hslash⟩ := h b List.mem_cons_self
    rw [List.cons_append, unescapeOnto.eq_4 _ _ _ (fun _ _ _ _ _ heq _ => hslash heq)
      fun _ _ heq _ => hslash heq, ih (fun b' hb' => h b' (List.mem_cons_of_mem b hb')),
      List.reverse_cons, List.append_assoc, List.singleton_append]

/-- A hexadecimal digit is no control byte. -/
theorem le_of_isHexDigit {b : UInt8} (h : Token.isHexDigit b = true) : 0x20 ≤ b := by
  simp only [Token.isHexDigit, Bytes.isDigit, Bool.or_eq_true, Bool.and_eq_true, decide_eq_true_eq,
    UInt8.le_iff_toNat_le, UInt8.reduceToNat] at h ⊢
  omega

/-- A letter that stands for a byte may follow a backslash. -/
theorem isEscape_of_shortEscape? {letter b : UInt8} (h : shortEscape? letter = some b) :
    Token.isEscape letter = true ∧ letter ≠ 0x75 ∧ 0x20 ≤ letter := by
  have hletter : letter = 0x22 ∨ letter = 0x5C ∨ letter = 0x2F ∨ letter = 0x62 ∨ letter = 0x66 ∨
      letter = 0x6E ∨ letter = 0x72 ∨ letter = 0x74 := by
    simp only [shortEscape?, Bool.or_eq_true, beq_iff_eq] at h
    grind
  rcases hletter with rfl | rfl | rfl | rfl | rfl | rfl | rfl | rfl <;> decide

namespace Escaped

variable {c : Char} {bs : Bytes}

/-- The tokenizer passes over a character that was written. -/
theorem scanFrom_append (h : Escaped c bs) (found : List Token) (seen rest : Bytes) :
    Token.scanFrom found (.string seen) (bs ++ rest) =
      Token.scanFrom found (.string (bs.reverse ++ seen)) rest := by
  cases h with
  | short _ _ h =>
    obtain ⟨hescape, hunit, -⟩ := isEscape_of_shortEscape? h
    simp [Token.scanFrom, hescape, hunit]
  | unit _ hhigh hlow =>
    have hzero : Token.isHexDigit 0x30 = true := by decide
    simp [Token.scanFrom, hzero, hhigh, hlow]
  | bare h => exact scanFrom_bare h found seen rest

/-- What a character was written as stands for the bytes of the character. -/
theorem unescapeOnto_append (h : Escaped c bs) (read rest : Bytes) :
    unescapeOnto read (bs ++ rest) = unescapeOnto (pushChar c read) rest := by
  cases h with
  | short letter hc h =>
    obtain ⟨-, hunit, -⟩ := isEscape_of_shortEscape? h
    rw [List.cons_append, List.singleton_append,
      unescapeOnto.eq_3 _ _ _ fun _ _ _ _ _ heq _ => hunit heq, h, pushChar, hc]
    rfl
  | unit hc _ _ h =>
    -- The number of a control character is no half of a pair.
    have hlow : ¬ isLowUnit c.toNat = true := by
      simp only [isLowUnit, Bool.and_eq_true, decide_eq_true_eq]
      omega
    have hhigh : ¬ isHighUnit c.toNat = true := by
      simp only [isHighUnit, Bool.and_eq_true, decide_eq_true_eq]
      omega
    simp only [List.cons_append, List.nil_append, unescapeOnto.eq_2, h, Option.bind_eq_bind,
      Option.bind_some, if_neg hlow, if_neg hhigh, Char.ofNat_toNat]
  | bare h => exact unescapeOnto_bare h read rest

/-- No control byte is written. -/
theorem le_of_mem (h : Escaped c bs) {b : UInt8} (hb : b ∈ bs) : 0x20 ≤ b := by
  cases h with
  | short _ _ h =>
    obtain ⟨-, -, hletter⟩ := isEscape_of_shortEscape? h
    simp only [List.mem_cons, List.not_mem_nil, or_false] at hb
    rcases hb with rfl | rfl
    · decide
    · exact hletter
  | unit _ hhigh hlow =>
    simp only [List.mem_cons, List.not_mem_nil, or_false] at hb
    rcases hb with rfl | rfl | rfl | rfl | rfl | rfl
    · decide
    · decide
    · decide
    · decide
    · exact le_of_isHexDigit hhigh
    · exact le_of_isHexDigit hlow
  | bare h => exact (h b hb).1

end Escaped

/-! ### Whole strings -/

/-- While a text in quotes is scanned, escaped characters are gathered up as they are, and none of
them ends the text. -/
theorem scanFrom_escapeChars (cs : List Char) (found : List Token) (seen rest : Bytes) :
    Token.scanFrom found (.string seen) (escapeChars cs ++ rest) =
      Token.scanFrom found (.string ((escapeChars cs).reverse ++ seen)) rest := by
  induction cs generalizing seen with
  | nil => rfl
  | cons c cs ih =>
    rw [escapeChars, List.flatMap_cons, ← escapeChars, List.append_assoc,
      (escaped_escapeChar c).scanFrom_append, ih, List.reverse_append, List.append_assoc]

/-- Undoing the escapes of some characters gives back the bytes that encode them. -/
theorem unescapeOnto_escapeChars (cs : List Char) (read : Bytes) :
    unescapeOnto read (escapeChars cs) =
      some (read.reverse ++ cs.flatMap String.utf8EncodeChar) := by
  induction cs generalizing read with
  | nil => rw [escapeChars, List.flatMap_nil, unescapeOnto, List.flatMap_nil, List.append_nil]
  | cons c cs ih =>
    rw [escapeChars, List.flatMap_cons, ← escapeChars, (escaped_escapeChar c).unescapeOnto_append,
      ih, pushChar, List.reverse_append, List.reverse_reverse, List.append_assoc,
      List.flatMap_cons]

/-- What was written for a text means the text. -/
theorem unescape?_escape (s : String) : unescape? (escape s) = some s := by
  rw [unescape?, escape, unescapeOnto_escapeChars, List.reverse_nil, List.nil_append,
    Option.bind_some]
  exact Utf8.decode?_encode s

/-- A text in quotes is its escaped bytes between two quotation marks. -/
theorem flatMap_quote (s : String) :
    (quote s).flatMap String.utf8EncodeChar = 0x22 :: (escape s ++ [0x22]) := by
  have hquote : String.utf8EncodeChar '"' = [0x22] := by decide
  rw [quote, List.flatMap_append, List.flatMap_cons, List.flatMap_singleton, hquote,
    List.flatMap_assoc]
  rfl

/-- The tokenizer finds a string that was written. -/
theorem scanFrom_quote (s : String) (found : List Token) (rest : Bytes) :
    Token.scanFrom found .gap ((quote s).flatMap String.utf8EncodeChar ++ rest) =
      Token.scanFrom (.string (escape s) :: found) .gap rest := by
  have hstart : Token.start? 0x22 = some (none, .string []) := rfl
  rw [flatMap_quote, List.cons_append, List.append_assoc, List.singleton_append,
    Token.scanFrom.eq_7, hstart]
  simp only [Option.bind_eq_bind, Option.bind_some, Token.addTo]
  rw [escape, scanFrom_escapeChars, List.append_nil, Token.scanFrom, if_pos (by decide),
    List.reverse_reverse]

/-- Text without a control byte. -/
def Graphic (cs : List Char) : Prop := ∀ c ∈ cs, ∀ b ∈ String.utf8EncodeChar c, 0x20 ≤ b

instance : DecidablePred Graphic := fun cs =>
  @List.decidableBAll _ _ (fun c => List.decidableBAll (0x20 ≤ ·) (String.utf8EncodeChar c)) cs

/-- Graphic texts make graphic text when one is put behind the other. -/
theorem Graphic.append {cs cs' : List Char} (h : Graphic cs) (h' : Graphic cs') :
    Graphic (cs ++ cs') := List.forall_mem_append.mpr ⟨h, h'⟩

/-- Graphic parts with graphic text between them make graphic text. -/
theorem Graphic.intercalate {sep : List Char} (hsep : Graphic sep) {parts : List (List Char)}
    (h : ∀ part ∈ parts, Graphic part) : Graphic (sep.intercalate parts) :=
  forall_mem_intercalate hsep h

/-- No control byte is written. -/
theorem graphic_quote (s : String) : Graphic (quote s) := by
  intro c hc b hb
  have hmem : b ∈ (quote s).flatMap String.utf8EncodeChar := List.mem_flatMap.mpr ⟨c, hc, hb⟩
  rw [flatMap_quote, List.mem_cons, List.mem_append, List.mem_singleton] at hmem
  rcases hmem with rfl | hmem | rfl
  · decide
  · obtain ⟨c, -, hb⟩ := List.mem_flatMap.mp hmem
    exact (escaped_escapeChar c).le_of_mem hb
  · decide

end ReverseTunnel.Json
