import ReverseTunnel.Text.Utf8
import ReverseTunnel.Address.Ip

/-!
# JSON strings

What stands between the quotes of a JSON string, and the text that it means. Writing escapes
quotes, backslashes and control characters and nothing else.
-/

namespace ReverseTunnel.Json

/-! ### Reading -/

/-- The number of four hexadecimal digits. -/
def hexUnit? (a b c d : UInt8) : Option Nat := do
  let digit (byte : UInt8) := Ip.hexDigit? (Char.ofNat byte.toNat)
  some ((((← digit a) * 16 + (← digit b)) * 16 + (← digit c)) * 16 + (← digit d))

/-- The character that a short escape names. -/
def shortEscape? (b : UInt8) : Option UInt8 :=
  if b == 0x22 || b == 0x5C || b == 0x2F then some b
  else if b == 0x62 then some 0x08
  else if b == 0x66 then some 0x0C
  else if b == 0x6E then some 0x0A
  else if b == 0x72 then some 0x0D
  else if b == 0x74 then some 0x09
  else none

/-- The first of the two units that write a character above `FFFF`. -/
def isHighUnit (n : Nat) : Bool := 0xD800 ≤ n && n ≤ 0xDBFF

/-- The second of the two units that write a character above `FFFF`. -/
def isLowUnit (n : Nat) : Bool := 0xDC00 ≤ n && n ≤ 0xDFFF

/-- The character that two units write together. -/
def pairedUnits (high low : Nat) : Char :=
  Char.ofNat (0x10000 + (high - 0xD800) * 1024 + (low - 0xDC00))

/-- The bytes of a character in front of the bytes already read, newest first. -/
def pushChar (c : Char) (read : Bytes) : Bytes := (String.utf8EncodeChar c).reverse ++ read

/-- Resolves the escapes of the remaining bytes behind those already read, newest first. A unit
that needs a partner must have it. -/
def unescapeOnto (read : Bytes) : Bytes → Option Bytes
  | [] => some read.reverse
  | 0x5C :: 0x75 :: a :: b :: c :: d :: rest => do
    let unit ← hexUnit? a b c d
    if isLowUnit unit then none
    else if isHighUnit unit then
      match rest with
      | 0x5C :: 0x75 :: e :: f :: g :: h :: rest => do
        let low ← hexUnit? e f g h
        if isLowUnit low then unescapeOnto (pushChar (pairedUnits unit low) read) rest else none
      | _ => none
    else unescapeOnto (pushChar (Char.ofNat unit) read) rest
  | 0x5C :: b :: rest => do
    let byte ← shortEscape? b
    unescapeOnto (byte :: read) rest
  | b :: rest => unescapeOnto (b :: read) rest

/-- The text that the bytes between two quotes mean. -/
def unescape? (raw : Bytes) : Option String := (unescapeOnto [] raw).bind Text.Utf8.decode?

/-! ### Writing -/

/-- One character between quotes. -/
def escapeChar (c : Char) : List Char :=
  if c = '"' then ['\\', '"']
  else if c = '\\' then ['\\', '\\']
  else if c = '\x08' then ['\\', 'b']
  else if c = '\x0c' then ['\\', 'f']
  else if c = '\n' then ['\\', 'n']
  else if c = '\r' then ['\\', 'r']
  else if c = '\t' then ['\\', 't']
  else if c.toNat < 0x20 then
    ['\\', 'u', '0', '0', Nat.digitChar (c.toNat / 16), Nat.digitChar (c.toNat % 16)]
  else [c]

/-- The characters of a text between quotes, with the quotes. -/
def quote (s : String) : List Char := '"' :: s.toList.flatMap escapeChar ++ ['"']

end ReverseTunnel.Json
