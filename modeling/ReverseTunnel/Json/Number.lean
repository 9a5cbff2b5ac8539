import ReverseTunnel.Text.Number
import ReverseTunnel.Bytes

/-!
# JSON numbers

A number is kept by the digits that it is written with. Only plain whole numbers are ever used
as such; of the others it matters that they are well formed and not too large for a double.
-/

namespace ReverseTunnel.Json

/-- A number as it is written: a sign, digits before and behind the point, a power of ten. -/
structure Number where
  negative : Bool
  whole : List Char
  fraction : List Char
  exponent : Int
  /-- Whether neither a point nor an exponent is written. -/
  plain : Bool
  deriving DecidableEq, Repr

namespace Number

open Text

/-- The number written as the digits of `n`. -/
def ofNat (n : Nat) : Number := ⟨false, Nat.toDigits 10 n, [], 0, true⟩

/-- The value of a number that is written plainly and without a sign. -/
def natural? (n : Number) : Option Nat :=
  if n.plain && !n.negative then some (digitsValue n.whole) else none

/-! ### Reading -/

/-- The exponent behind its letter: an optional sign and one digit or more. -/
def exponent? (cs : List Char) : Option Int :=
  match cs with
  | '+' :: digits => (decimal? digits).map Int.ofNat
  | '-' :: digits => (decimal? digits).map fun n => -Int.ofNat n
  | digits => (decimal? digits).map Int.ofNat

/-- The part of a number behind its whole digits. -/
def finish? (negative : Bool) (whole cs : List Char) : Option Number :=
  let isMark (c : Char) : Bool := c == 'e' || c == 'E'
  match cs with
  | [] => some ⟨negative, whole, [], 0, true⟩
  | '.' :: rest =>
    let fraction := rest.takeWhile isDigit
    if fraction.isEmpty then none
    else match rest.dropWhile isDigit with
      | [] => some ⟨negative, whole, fraction, 0, false⟩
      | c :: digits =>
        if isMark c then
          (exponent? digits).map fun e => ⟨negative, whole, fraction, e, false⟩
        else none
  | c :: digits =>
    if isMark c then (exponent? digits).map fun e => ⟨negative, whole, [], e, false⟩ else none

/-- The number that a run of characters writes. Whole digits do not begin with a zero unless
the zero stands alone. -/
def parseChars? (cs : List Char) : Option Number :=
  let (negative, cs) := match cs with
    | '-' :: rest => (true, rest)
    | _ => (false, cs)
  let whole := cs.takeWhile isDigit
  if whole.isEmpty || (whole.length > 1 && whole.head? == some '0') then none
  else finish? negative whole (cs.dropWhile isDigit)

/-- The number that a run of bytes writes. -/
def parse? (bs : Bytes) : Option Number := parseChars? (bs.map fun b => Char.ofNat b.toNat)

/-! ### Writing -/

/-- The characters of a number. -/
def printChars (n : Number) : List Char :=
  let sign := if n.negative then ['-'] else []
  let fraction := if n.fraction.isEmpty then [] else '.' :: n.fraction
  let exponent :=
    if n.exponent = 0 then if n.plain || !n.fraction.isEmpty then [] else ['e', '0']
    else 'e' :: (toString n.exponent).toList
  sign ++ n.whole ++ fraction ++ exponent

/-! ### Range -/

/-- Digits read into a word of 64 bits. -/
structure Significand where
  /-- The number that the digits kept so far denote. -/
  value : Nat
  /-- The digits that were left out, all of those from the first that did not fit. -/
  dropped : Nat

/-- Adds a digit while the value fits in 64 bits and none was left out before. -/
def Significand.push (s : Significand) (digit : Char) : Significand :=
  let next := s.value * 10 + (digit.toNat - '0'.toNat)
  if s.dropped = 0 && next < 18446744073709551616 then { s with value := next }
  else { s with dropped := s.dropped + 1 }

/-- A number rounded to 53 significant bits, a half to the even neighbour. -/
def round53 (n : Nat) : Nat :=
  let excess := Nat.log2 n + 1 - 53
  if n = 0 || excess = 0 then n
  else
    let unit := 1 <<< excess
    let low := n / unit
    let rest := n % unit
    let up := rest * 2 > unit || (rest * 2 == unit && low % 2 == 1)
    (if up then low + 1 else low) * unit

/-- Whether a number stays in the range of a double. The digits, as far as they fit in 64
bits, and the power of ten are rounded each by itself before they are multiplied. Digits behind
the point are tried anew where some before it were left out. -/
def inRange (n : Number) : Bool :=
  let whole := n.whole.foldl Significand.push ⟨0, 0⟩
  let all := n.fraction.foldl Significand.push ⟨whole.value, 0⟩
  let kept := n.fraction.length - all.dropped
  let exponent := n.exponent + whole.dropped - kept
  if all.value = 0 || exponent < 0 then true
  else if exponent > 308 then false
  else decide (round53 all.value * round53 (Nat.pow 10 exponent.toNat) < overflowBound)

end Number

end ReverseTunnel.Json
