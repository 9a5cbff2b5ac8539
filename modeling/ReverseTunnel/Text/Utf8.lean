import ReverseTunnel.Bytes

/-!
# UTF-8

The passage between text and bytes. `encode` writes the shortest form of every character;
`decode?` reads exactly those forms, so that overlong forms, surrogates and numbers above
`10FFFF` are refused.
-/

namespace ReverseTunnel.Text.Utf8

/-- The bytes of a text. -/
def encode (s : String) : Bytes := s.toList.flatMap String.utf8EncodeChar

/-- A byte that continues a character. -/
def isContinuation (b : UInt8) : Bool := 0x80 ≤ b && b ≤ 0xBF

/-- The six bits that a continuation byte carries. -/
def payload (b : UInt8) : Nat := b.toNat % 64

/-- Whether `a` may begin a character of three bytes whose second byte is `b`. The bounds keep
out overlong forms and surrogates. -/
def opensThree (a b : UInt8) : Bool :=
  (a == 0xE0 && 0xA0 ≤ b && b ≤ 0xBF)
    || ((0xE1 ≤ a && a ≤ 0xEC || a == 0xEE || a == 0xEF) && isContinuation b)
    || (a == 0xED && 0x80 ≤ b && b ≤ 0x9F)

/-- Whether `a` may begin a character of four bytes whose second byte is `b`. The bounds keep
out overlong forms and numbers above `10FFFF`. -/
def opensFour (a b : UInt8) : Bool :=
  (a == 0xF0 && 0x90 ≤ b && b ≤ 0xBF)
    || (0xF1 ≤ a && a ≤ 0xF3 && isContinuation b)
    || (a == 0xF4 && 0x80 ≤ b && b ≤ 0x8F)

/-- Reads the characters of the remaining bytes behind those already read, newest first. -/
def decodeOnto (read : List Char) : Bytes → Option (List Char)
  | [] => some read.reverse
  | a :: rest =>
    if a < 0x80 then decodeOnto (Char.ofNat a.toNat :: read) rest
    else match rest with
      | [] => none
      | b :: rest =>
        if 0xC2 ≤ a && a ≤ 0xDF && isContinuation b then
          decodeOnto (Char.ofNat ((a.toNat % 32) * 64 + payload b) :: read) rest
        else match rest with
          | [] => none
          | c :: rest =>
            if opensThree a b && isContinuation c then
              decodeOnto
                (Char.ofNat ((a.toNat % 16) * 4096 + payload b * 64 + payload c) :: read) rest
            else match rest with
              | [] => none
              | d :: rest =>
                if opensFour a b && isContinuation c && isContinuation d then
                  decodeOnto (Char.ofNat ((a.toNat % 8) * 262144 + payload b * 4096
                    + payload c * 64 + payload d) :: read) rest
                else none

/-- The text that the bytes encode, if they are well formed. -/
def decode? (bs : Bytes) : Option String := (decodeOnto [] bs).map String.ofList

end ReverseTunnel.Text.Utf8
