import ReverseTunnel.Text.Basic

/-!
# Numbers written in decimal

A number of the configuration, of an address or of a request head is a run of ASCII digits.
Leading zeros are allowed and change nothing; a sign is allowed where the reader says so.
-/

namespace ReverseTunnel.Text

/-- The number that a run of decimal digits denotes, most significant digit first. -/
def digitsValue (digits : List Char) : Nat :=
  digits.foldl (fun n d => n * 10 + (d.toNat - '0'.toNat)) 0

/-- The number written as digits alone, at least one of them. -/
def decimal? (cs : List Char) : Option Nat :=
  if cs.isEmpty || !cs.all isDigit then none else some (digitsValue cs)

/-- The number below `bound` written as digits, which a plus sign may precede. -/
def unsigned? (bound : Nat) (s : String) : Option Nat :=
  let digits := match s.toList with
    | '+' :: rest => rest
    | cs => cs
  (decimal? digits).filter (· < bound)

/-- A port number: below 65536, with an optional plus sign. -/
def port? (s : String) : Option UInt16 := (unsigned? 65536 s).map UInt16.ofNat

/-- The 64-bit signed number written as digits after an optional sign. -/
def signed? (s : String) : Option Int :=
  let value : Option Int := match s.toList with
    | '+' :: rest => (decimal? rest).map Int.ofNat
    | '-' :: rest => (decimal? rest).map fun n => -Int.ofNat n
    | cs => (decimal? cs).map Int.ofNat
  value.filter fun n => -9223372036854775808 ≤ n && n ≤ 9223372036854775807

/-! ### The range of doubles -/

/-- The smallest number that rounds beyond the largest double. -/
def overflowBound : Nat := ((1 <<< 54) - 1) <<< 970

/-- Whether `n · 10 ^ e` stays in the range of doubles. The first bound on `e` is beyond that
range for every positive `n`; below the second one the number is less than 1. -/
def fitsDouble (n : Nat) (e : Int) : Bool :=
  if n = 0 || e < -(Nat.toDigits 10 n).length then true
  else if e > 308 then false
  else if 0 ≤ e then n * Nat.pow 10 e.toNat < overflowBound
  else n < overflowBound * Nat.pow 10 (-e).toNat

end ReverseTunnel.Text
