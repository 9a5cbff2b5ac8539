/-!
# Text: blanks, ASCII case and the ends of a string

Every rule of the program that reads text is a rule on characters: which of them count as
blank, which letters are the same up to case, where a text begins and ends once its blank
edges are gone. Case is that of ASCII alone; blanks are those of the Unicode property
White_Space.

## Main results

* `dropWhile_dropWhile`: what is left after dropping an edge has no such edge.
* `lower_lower`: lowering twice is lowering once.
-/

namespace ReverseTunnel.Text

/-! ### Blank characters -/

/-- The characters with the Unicode property White_Space. -/
def isBlank (c : Char) : Bool :=
  let n := c.toNat
  (0x09 ≤ n && n ≤ 0x0D) || n == 0x20 || n == 0x85 || n == 0xA0 || n == 0x1680
    || (0x2000 ≤ n && n ≤ 0x200A) || n == 0x2028 || n == 0x2029 || n == 0x202F
    || n == 0x205F || n == 0x3000

/-- The control characters: category Cc of Unicode. -/
def isControl (c : Char) : Bool :=
  let n := c.toNat
  n < 0x20 || (0x7F ≤ n && n ≤ 0x9F)

/-! ### Trimming -/

section Trim
variable {α : Type}

/-- The list without the leading and trailing elements that satisfy `p`. -/
def trimBy (p : α → Bool) (l : List α) : List α :=
  ((l.dropWhile p).reverse.dropWhile p).reverse

/-- Of an empty text nothing is trimmed. -/
@[simp] theorem trimBy_nil (p : α → Bool) : trimBy p [] = [] := rfl

/-- Dropping once is enough: what is left does not begin with anything more to drop. -/
theorem dropWhile_dropWhile (p : α → Bool) (l : List α) :
    (l.dropWhile p).dropWhile p = l.dropWhile p := by
  induction l with
  | nil => rfl
  | cons x xs ih =>
    by_cases h : p x = true
    · simpa [h] using ih
    · simp [h]

end Trim

/-- The text without its blank edges. -/
def trim (s : String) : String := String.ofList (trimBy isBlank s.toList)

/-- A text with nothing but blanks in it. -/
def blank (s : String) : Bool := s.toList.all isBlank

/-! ### ASCII case -/

/-- The text with the letters `A` to `Z` made small. -/
def lower (s : String) : String := String.ofList (s.toList.map Char.toLower)

/-- The text with the letters `a` to `z` made capital. -/
def upper (s : String) : String := String.ofList (s.toList.map Char.toUpper)

/-- A letter in lower case has no other lower case. -/
theorem toLower_toLower (c : Char) : c.toLower.toLower = c.toLower := by
  unfold Char.toLower
  split
  · rename_i h
    split
    · rename_i h'
      obtain ⟨h1, h2⟩ := h
      obtain ⟨h3, h4⟩ := h'
      simp only [ge_iff_le, UInt32.le_iff_toNat_le] at h1 h2 h3 h4
      simp [UInt32.toNat_add] at h1 h2 h3 h4
      omega
    · rfl
  · rfl

/-- A text in lower case stays as it is when it is lowered again. -/
@[simp] theorem lower_lower (s : String) : lower (lower s) = lower s := by
  simp only [lower, String.toList_ofList, List.map_map]
  exact congrArg String.ofList (List.map_congr_left fun c _ => toLower_toLower c)

/-- Two texts that differ at most in the case of ASCII letters. -/
def sameIgnoringCase (s t : String) : Bool := lower s == lower t

/-- The digits `0` to `9`. -/
def isDigit (c : Char) : Bool := '0' ≤ c && c ≤ '9'

end ReverseTunnel.Text
