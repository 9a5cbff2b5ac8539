import ReverseTunnel.Bytes

/-!
# Base64

The standard alphabet with its padding. `decode?` reads only what `encode` writes: groups of
four characters, padding where the data ends, and no stray bits under the padding.
-/

namespace ReverseTunnel.Text.Base64

/-- The sixty-four characters, by the number that each stands for. -/
def alphabet : List Char :=
  "ABCDEFGHIJKLMNOPQRSTUVWXYZabcdefghijklmnopqrstuvwxyz0123456789+/".toList

/-- The character for six bits. -/
def symbol (n : Nat) : Char := alphabet.getD n '='

/-- The six bits that a character stands for. -/
def value? (c : Char) : Option Nat := alphabet.idxOf? c

/-- The characters for a run of bytes, padded to whole groups of four. -/
def encode : Bytes → List Char
  | [] => []
  | [a] =>
    let n := a.toNat * 16
    [symbol (n / 64), symbol (n % 64), '=', '=']
  | [a, b] =>
    let n := (a.toNat * 256 + b.toNat) * 4
    [symbol (n / 4096), symbol (n / 64 % 64), symbol (n % 64), '=']
  | a :: b :: c :: rest =>
    let n := a.toNat * 65536 + b.toNat * 256 + c.toNat
    symbol (n / 262144) :: symbol (n / 4096 % 64) :: symbol (n / 64 % 64) :: symbol (n % 64)
      :: encode rest

/-- Reads the remaining groups behind the bytes already read, newest first. -/
def decodeOnto (read : Bytes) : List Char → Option Bytes
  | [] => some read.reverse
  | [x, y, '=', '='] => do
    let n := (← value? x) * 64 + (← value? y)
    if n % 16 = 0 then some (UInt8.ofNat (n / 16) :: read).reverse else none
  | [x, y, z, '='] => do
    let n := (← value? x) * 4096 + (← value? y) * 64 + (← value? z)
    if n % 4 = 0 then
      some (UInt8.ofNat (n / 4 % 256) :: UInt8.ofNat (n / 1024) :: read).reverse
    else none
  | x :: y :: z :: w :: rest => do
    let n := (← value? x) * 262144 + (← value? y) * 4096 + (← value? z) * 64 + (← value? w)
    decodeOnto
      (UInt8.ofNat (n % 256) :: UInt8.ofNat (n / 256 % 256) :: UInt8.ofNat (n / 65536) :: read)
      rest
  | _ => none

/-- The bytes that the characters stand for, if they are in the one allowed form. -/
def decode? (cs : List Char) : Option Bytes := decodeOnto [] cs

end ReverseTunnel.Text.Base64
