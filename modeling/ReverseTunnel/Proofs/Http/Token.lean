import ReverseTunnel.Proofs.Http.Plain
import ReverseTunnel.Proofs.Text.Normal

/-!
# Tokens

Methods and the names of fields are tokens. What is tested is their bytes; here a token is a text,
and its characters are letters and digits of ASCII and a few marks. A character behind ASCII has no
byte of a token, so the two say the same. Case does not matter: a letter is one in either case.

## Main results

* `isToken_encode`: the bytes of a text are a token exactly if the text is one.
* `isToken_lower`, `isToken_upper`: a text in other letters is a token exactly if the text is one.
-/

namespace ReverseTunnel.Http

open Text

/-- A letter or a digit of ASCII, or one of the marks. -/
def IsTokenChar (c : Char) : Prop := c.isAlphanum = true ∨ c ∈ "!#$%&'*+-.^_`|~".toList

instance : DecidablePred IsTokenChar := fun _ => inferInstanceAs (Decidable (_ ∨ _))

/-- One such character or more. -/
def IsToken (text : String) : Prop := text ≠ "" ∧ ∀ c ∈ text.toList, IsTokenChar c

/-! ### Bytes -/

/-- The capital letters of ASCII by their numbers. -/
theorem isUpper_iff {c : Char} : c.isUpper = true ↔ 0x41 ≤ c.toNat ∧ c.toNat ≤ 0x5A :=
  decide_eq_true_iff.trans (and_congr UInt32.le_iff_toNat_le UInt32.le_iff_toNat_le)

/-- The small letters of ASCII by their numbers. -/
theorem isLower_iff {c : Char} : c.isLower = true ↔ 0x61 ≤ c.toNat ∧ c.toNat ≤ 0x7A :=
  (Bool.and_eq_true _ _).to_iff.trans <| and_congr (decide_eq_true_iff.trans UInt32.le_iff_toNat_le)
    (decide_eq_true_iff.trans UInt32.le_iff_toNat_le)

/-- The digits of ASCII by their numbers. -/
theorem isDigit_iff {c : Char} : c.isDigit = true ↔ 0x30 ≤ c.toNat ∧ c.toNat ≤ 0x39 :=
  (Bool.and_eq_true _ _).to_iff.trans <| and_congr (decide_eq_true_iff.trans UInt32.le_iff_toNat_le)
    (decide_eq_true_iff.trans UInt32.le_iff_toNat_le)

/-- The letters and digits of ASCII by their numbers. -/
theorem isAlphanum_iff {c : Char} :
    c.isAlphanum = true ↔ ((0x41 ≤ c.toNat ∧ c.toNat ≤ 0x5A) ∨ (0x61 ≤ c.toNat ∧ c.toNat ≤ 0x7A)) ∨
      (0x30 ≤ c.toNat ∧ c.toNat ≤ 0x39) := by
  rw [← isUpper_iff, ← isLower_iff, ← isDigit_iff, ← Bool.or_eq_true, ← Bool.or_eq_true]
  rfl

/-- The marks that a name of a field may hold beside letters and digits are plain. -/
theorem plain_marks : Plain "!#$%&'*+-.^_`|~".toList := by decide

/-- A character of a token is one of ASCII, so that a single byte encodes it. -/
theorem IsTokenChar.lt {c : Char} (h : IsTokenChar c) : c.toNat < 0x80 := by
  rcases h with halphanum | hmark
  · have hrange := isAlphanum_iff.mp halphanum
    omega
  · exact (plain_marks c hmark).lt

/-- The bytes that a token may hold, by their numbers: those of digits and letters, and the marks.
-/
theorem isTokenByte_iff {b : UInt8} :
    isTokenByte b = true ↔ ((0x30 ≤ b.toNat ∧ b.toNat ≤ 0x39) ∨ (0x41 ≤ b.toNat ∧ b.toNat ≤ 0x5A)) ∨
      (0x61 ≤ b.toNat ∧ b.toNat ≤ 0x7A) ∨ b ∈ Utf8.encode "!#$%&'*+-.^_`|~" := by
  simp only [isTokenByte, Bytes.isDigit, Bool.or_eq_true, Bool.and_eq_true, decide_eq_true_eq,
    UInt8.le_iff_toNat_le, UInt8.reduceToNat, List.contains_iff_mem, or_assoc]

/-- The byte of a character of ASCII may stand in a token exactly when the character may. -/
theorem isTokenByte_of_ascii {c : Char} (h : c.toNat < 0x80) :
    isTokenByte (UInt8.ofNat c.toNat) = true ↔ IsTokenChar c := by
  rw [isTokenByte_iff, Utf8.toNat_ofNat (by omega), Utf8.ofNat_mem_encode_iff h, IsTokenChar,
    isAlphanum_iff]
  constructor
  · rintro ((hdigit | hcapital) | hsmall | hmark)
    · exact .inl (.inr hdigit)
    · exact .inl (.inl (.inl hcapital))
    · exact .inl (.inl (.inr hsmall))
    · exact .inr hmark
  · rintro (((hcapital | hsmall) | hdigit) | hmark)
    · exact .inl (.inr hcapital)
    · exact .inr (.inl hsmall)
    · exact .inl (.inl hdigit)
    · exact .inr (.inr hmark)

/-- No byte beyond ASCII stands in a token, so a letter of any other script spoils it. -/
theorem isTokenByte_of_le {b : UInt8} (h : 0x80 ≤ b) : isTokenByte b = false := by
  have hle : 0x80 ≤ b.toNat := UInt8.le_iff_toNat_le.mp h
  rw [Bool.eq_false_iff, ne_eq, isTokenByte_iff]
  rintro ((hrange | hrange) | hrange | hmark)
  · omega
  · omega
  · omega
  · have hbyte := plain_marks.of_mem_encode hmark
    omega

/-- A character is that of a token if all its bytes are. -/
theorem all_isTokenByte_iff (c : Char) :
    (String.utf8EncodeChar c).all isTokenByte = true ↔ IsTokenChar c := by
  by_cases hc : c.toNat < 0x80
  · rw [Utf8.utf8EncodeChar_of_ascii hc, ← isTokenByte_of_ascii hc, List.all_cons, List.all_nil,
      Bool.and_true]
  · obtain ⟨b, hb⟩ := List.exists_mem_of_ne_nil _ (String.utf8EncodeChar_ne_nil (c := c))
    refine iff_of_false (fun hall => ?_) fun h => hc h.lt
    have hbyte := List.all_eq_true.mp hall b hb
    rw [isTokenByte_of_le (Utf8.le_of_mem_utf8EncodeChar hc hb)] at hbyte
    exact Bool.false_ne_true hbyte

/-- The bytes of a text are a token exactly if the text is one. -/
theorem isToken_encode (text : String) : isToken (Utf8.encode text) = true ↔ IsToken text := by
  have hempty : (Utf8.encode text).isEmpty = false ↔ text ≠ "" := by
    rw [Bool.eq_false_iff]
    refine not_congr ?_
    rw [List.isEmpty_iff, Utf8.encode, List.flatMap_eq_nil_iff, ← String.toList_eq_nil_iff,
      List.eq_nil_iff_forall_not_mem]
    exact forall₂_congr fun c _ => iff_false_intro String.utf8EncodeChar_ne_nil
  have hall : (Utf8.encode text).all isTokenByte = true ↔ ∀ c ∈ text.toList, IsTokenChar c := by
    rw [Utf8.encode, List.all_flatMap, List.all_eq_true]
    exact forall₂_congr fun c _ => all_isTokenByte_iff c
  rw [isToken, Bool.and_eq_true, Bool.not_eq_true', hempty, hall, IsToken]

/-- A token has as many bytes as characters. -/
theorem IsToken.length_encode {text : String} (h : IsToken text) :
    (Utf8.encode text).length = text.toList.length := by
  have hone : ∀ c ∈ text.toList, (String.utf8EncodeChar c).length = 1 := fun c hc => by
    rw [Utf8.utf8EncodeChar_of_ascii (h.2 c hc).lt, List.length_singleton]
  rw [Utf8.encode, List.length_flatMap, List.map_congr_left hone, List.map_const',
    List.sum_replicate_nat, Nat.mul_one]

/-! ### Case -/

/-- A character may stand in a token exactly when its small letter may. -/
theorem isTokenChar_toLower (c : Char) : IsTokenChar c.toLower ↔ IsTokenChar c := by
  by_cases h : 0x41 ≤ c.toNat ∧ c.toNat ≤ 0x5A
  · have hlower := toNat_toLower h.1 h.2
    exact iff_of_true (.inl (isAlphanum_iff.mpr (by omega))) (.inl (isAlphanum_iff.mpr (by omega)))
  · rw [toLower_eq_self h]

/-- The capital of a small letter is 32 places before it. -/
theorem toNat_toUpper {c : Char} (hlow : 0x61 ≤ c.toNat) (hhigh : c.toNat ≤ 0x7A) :
    c.toUpper.toNat = c.toNat - 0x20 := by
  unfold Char.toUpper
  rw [dif_pos ⟨UInt32.le_iff_toNat_le.mpr hlow, UInt32.le_iff_toNat_le.mpr hhigh⟩]
  change (c.val + 0xFFFFFFE0).toNat = c.toNat - 0x20
  rw [UInt32.toNat_add]
  change (c.toNat + 0xFFFFFFE0) % 2 ^ 32 = c.toNat - 0x20
  omega

/-- What is no small letter is its own capital. -/
theorem toUpper_eq_self {c : Char} (h : ¬ (0x61 ≤ c.toNat ∧ c.toNat ≤ 0x7A)) : c.toUpper = c := by
  refine dif_neg fun hletter => h ?_
  have hlow : 0x61 ≤ c.toNat := UInt32.le_iff_toNat_le.mp hletter.1
  have hhigh : c.toNat ≤ 0x7A := UInt32.le_iff_toNat_le.mp hletter.2
  exact ⟨hlow, hhigh⟩

/-- A character may stand in a token exactly when its capital may. -/
theorem isTokenChar_toUpper (c : Char) : IsTokenChar c.toUpper ↔ IsTokenChar c := by
  by_cases h : 0x61 ≤ c.toNat ∧ c.toNat ≤ 0x7A
  · have hupper := toNat_toUpper h.1 h.2
    exact iff_of_true (.inl (isAlphanum_iff.mpr (by omega))) (.inl (isAlphanum_iff.mpr (by omega)))
  · rw [toUpper_eq_self h]

/-- No small letter is a capital, so a text in small letters has none. -/
theorem isUpper_toLower (c : Char) : c.toLower.isUpper = false := by
  rw [Bool.eq_false_iff, ne_eq, isUpper_iff]
  by_cases h : 0x41 ≤ c.toNat ∧ c.toNat ≤ 0x5A
  · have hlower := toNat_toLower h.1 h.2
    omega
  · rwa [toLower_eq_self h]

/-- No capital is a small letter, so a text in capitals has none. -/
theorem isLower_toUpper (c : Char) : c.toUpper.isLower = false := by
  rw [Bool.eq_false_iff, ne_eq, isLower_iff]
  by_cases h : 0x61 ≤ c.toNat ∧ c.toNat ≤ 0x7A
  · have hupper := toNat_toUpper h.1 h.2
    omega
  · rwa [toUpper_eq_self h]

/-- A change of the characters that keeps those of tokens keeps tokens. -/
theorem isToken_map {f : Char → Char} (hf : ∀ c, IsTokenChar (f c) ↔ IsTokenChar c)
    (text : String) : IsToken (String.ofList (text.toList.map f)) ↔ IsToken text := by
  have hempty : String.ofList (text.toList.map f) = "" ↔ text = "" := by
    rw [← String.toList_eq_nil_iff, String.toList_ofList, List.map_eq_nil_iff,
      String.toList_eq_nil_iff]
  rw [IsToken, IsToken, ne_eq, hempty, String.toList_ofList, List.forall_mem_map]
  exact and_congr_right fun _ => forall₂_congr fun c _ => hf c

/-- Writing a text in small letters makes it a token exactly when it was one. -/
theorem isToken_lower (text : String) : IsToken (lower text) ↔ IsToken text :=
  isToken_map isTokenChar_toLower text

/-- Writing a text in capitals makes it a token exactly when it was one. -/
theorem isToken_upper (text : String) : IsToken (upper text) ↔ IsToken text :=
  isToken_map isTokenChar_toUpper text

/-- A text in small letters has no capital. -/
theorem isUpper_of_mem_lower {text : String} {c : Char} (h : c ∈ (lower text).toList) :
    c.isUpper = false := by
  rw [lower, String.toList_ofList] at h
  obtain ⟨d, -, rfl⟩ := List.mem_map.mp h
  exact isUpper_toLower d

/-- A text in capitals has no small letter. -/
theorem isLower_of_mem_upper {text : String} {c : Char} (h : c ∈ (upper text).toList) :
    c.isLower = false := by
  rw [upper, String.toList_ofList] at h
  obtain ⟨d, -, rfl⟩ := List.mem_map.mp h
  exact isLower_toUpper d

end ReverseTunnel.Http
