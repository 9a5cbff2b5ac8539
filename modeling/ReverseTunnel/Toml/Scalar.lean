import ReverseTunnel.Text.Number
import ReverseTunnel.Toml.Text
import ReverseTunnel.Toml.Value

/-!
# Numbers, dates and booleans of TOML

A value without quotes or brackets is a run of characters up to the next blank, comma or
bracket. What it is, is told by its form.
-/

namespace ReverseTunnel.Toml

open Text

/-! ### Numbers -/

/-- Digits in which single underscores may stand between two digits; without them. -/
def digits? (isDigit : Char → Bool) (cs : List Char) : Option (List Char) :=
  let parts := cs.splitOn '_'
  if parts.all fun part => !part.isEmpty && part.all isDigit then some parts.flatten else none

/-- Decimal digits that do not begin with a zero unless it stands alone. -/
def whole? (cs : List Char) : Option (List Char) := do
  let ds ← digits? isDigit cs
  if ds.length > 1 && ds.head? == some '0' then none else some ds

/-- A sign, and the rest. -/
def sign : List Char → Bool × List Char
  | '-' :: rest => (true, rest)
  | '+' :: rest => (false, rest)
  | cs => (false, cs)

/-- The number of digits of some base. -/
def based? (base : Nat) (cs : List Char) : Option Int := do
  let isDigit (c : Char) : Bool := (Ip.hexDigit? c).any (· < base)
  let ds ← digits? isDigit cs
  some (ds.foldl (fun n d => n * base + ((Ip.hexDigit? d).getD 0 : Nat)) 0)

/-- An integer: decimal with an optional sign, or of base 16, 8 or 2 without one. Those that
neither a signed nor an unsigned word of 128 bits can hold are refused. -/
def integer? (cs : List Char) : Option Int := do
  let n ← match cs with
    | '0' :: 'x' :: rest => based? 16 rest
    | '0' :: 'o' :: rest => based? 8 rest
    | '0' :: 'b' :: rest => based? 2 rest
    | _ =>
      let (negative, rest) := sign cs
      (whole? rest).map fun ds =>
        if negative then -(digitsValue ds : Int) else (digitsValue ds : Int)
  if (BitVec.intMin 128).toInt ≤ n && n ≤ (BitVec.allOnes 128).toNat then some n else none

/-- The number of an exponent: digits with an optional sign. -/
def exponent? (cs : List Char) : Option Int := do
  let (negative, rest) := sign cs
  let ds ← digits? isDigit rest
  some (if negative then -(digitsValue ds : Int) else (digitsValue ds : Int))

/-- The digits before the exponent, and how many of them stand behind the point. Without a
point there has to be an exponent. -/
def significand? (body : List Char) (hasExponent : Bool) : Option (List Char × Nat) :=
  match splitFirst '.' body with
  | some (front, behind) => do
    let fraction ← digits? isDigit behind
    some ((← whole? front) ++ fraction, fraction.length)
  | none => if hasExponent then (whole? body).map (·, 0) else none

/-- Whether a run of characters is a fraction that stays in the range of a double: whole digits
with digits behind a point, or an exponent, or both; or infinity, or no number. -/
def isFloat (cs : List Char) : Bool :=
  let rest := (sign cs).2
  if rest == ['i', 'n', 'f'] || rest == ['n', 'a', 'n'] then true
  else
    let body := rest.takeWhile fun c => c != 'e' && c != 'E'
    let behind := rest.drop body.length
    (do
      let exponent ← if behind.isEmpty then some 0 else exponent? (behind.drop 1)
      let (digits, places) ← significand? body !behind.isEmpty
      some (fitsDouble (digitsValue digits) (exponent - places))).getD false

/-! ### Dates -/

/-- The number of exactly `count` digits in front, and the rest. -/
def fixed? (count : Nat) (cs : List Char) : Option (Nat × List Char) :=
  let ds := cs.take count
  if ds.length = count && ds.all isDigit then some (digitsValue ds, cs.drop count) else none

/-- The number of days of a month. -/
def daysOf (year month : Nat) : Nat :=
  if month = 2 then
    if year % 4 = 0 && (year % 100 != 0 || year % 400 = 0) then 29 else 28
  else if [4, 6, 9, 11].contains month then 30 else 31

/-- The rest behind a day of the calendar. -/
def day? (cs : List Char) : Option (List Char) := do
  let (year, rest) ← fixed? 4 cs
  let (month, rest) ← fixed? 2 (← dropStart? ['-'] rest)
  let (day, rest) ← fixed? 2 (← dropStart? ['-'] rest)
  if 1 ≤ month && month ≤ 12 && 1 ≤ day && day ≤ daysOf year month then some rest else none

/-- The rest behind the seconds of a time, which may be left out, and their fraction. -/
def seconds? (cs : List Char) : Option (List Char) :=
  match cs with
  | ':' :: rest => do
    let (second, rest) ← fixed? 2 rest
    if second > 60 then none
    else match rest with
      | '.' :: rest =>
        let fraction := rest.takeWhile isDigit
        if fraction.isEmpty then none else some (rest.drop fraction.length)
      | _ => some rest
  | _ => some cs

/-- The rest behind a time of the day. -/
def time? (cs : List Char) : Option (List Char) := do
  let (hour, rest) ← fixed? 2 cs
  let (minute, rest) ← fixed? 2 (← dropStart? [':'] rest)
  if hour ≤ 23 && minute ≤ 59 then seconds? rest else none

/-- Whether a run of characters is an offset from universal time. -/
def isOffset (cs : List Char) : Bool :=
  match cs with
  | ['Z'] | ['z'] => true
  | '+' :: rest | '-' :: rest => (do
      let (hour, rest) ← fixed? 2 rest
      let (minute, rest) ← fixed? 2 (← dropStart? [':'] rest)
      some (hour ≤ 23 && minute ≤ 59 && rest.isEmpty)) == some true
  | _ => false

/-- Whether a run of characters is a day, a time, or both with or without an offset. -/
def isDate (cs : List Char) : Bool :=
  match day? cs with
  | some [] => true
  | some (c :: rest) =>
    if c == 'T' || c == 't' || c == ' ' then
      match time? rest with
      | some rest => rest.isEmpty || isOffset rest
      | none => false
    else false
  | none => time? cs == some []

/-! ### All of them -/

/-- A character that ends a value without quotes. -/
def isDelimiter (c : Char) : Bool :=
  c == ',' || c == ']' || c == '}' || c == '#' || isSpace c || c == '\n' || c == '\r'

/-- The value that a run of characters writes. -/
def scalarOf? (cs : List Char) : Option Value :=
  if cs == "true".toList then some (.boolean true)
  else if cs == "false".toList then some (.boolean false)
  else
    match integer? cs with
    | some n => some (.integer n)
    | none => if isFloat cs then some .float else if isDate cs then some .date else none

/-- A value without quotes or brackets. A day may be parted from its time by one space. -/
def scalar? (cs : List Char) : Option (Value × List Char) :=
  let word := cs.takeWhile fun c => !isDelimiter c
  let rest := cs.drop word.length
  match day? word, rest with
  | some [], ' ' :: behind =>
    if behind.head?.any isDigit then
      let time := behind.takeWhile fun c => !isDelimiter c
      (scalarOf? (word ++ ' ' :: time)).map (·, behind.drop time.length)
    else (scalarOf? word).map (·, rest)
  | _, _ => (scalarOf? word).map (·, rest)

end ReverseTunnel.Toml
