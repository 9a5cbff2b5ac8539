import ReverseTunnel.Text.Basic

/-!
# Bytes

What crosses a connection is a run of bytes. ASCII rules on bytes stand here; the passage
between bytes and text is `ReverseTunnel.Text.Utf8`.
-/

namespace ReverseTunnel

/-- A run of bytes as it crosses a connection. -/
abbrev Bytes := List UInt8

namespace Bytes

/-- The five blank bytes of ASCII: space, tab, line feed, form feed and carriage return. -/
def isBlank (b : UInt8) : Bool :=
  b == 0x20 || b == 0x09 || b == 0x0A || b == 0x0C || b == 0x0D

/-- The bytes without their blank edges. -/
def trim (bs : Bytes) : Bytes := Text.trimBy isBlank bs

/-- The byte, an ASCII capital made small. -/
def lowerByte (b : UInt8) : UInt8 := if 0x41 ≤ b && b ≤ 0x5A then b + 0x20 else b

/-- The bytes, the ASCII capitals made small. -/
def lower (bs : Bytes) : Bytes := bs.map lowerByte

/-- The digits `0` to `9`. -/
def isDigit (b : UInt8) : Bool := 0x30 ≤ b && b ≤ 0x39

/-- The end of a line on the control channel. -/
def newline : UInt8 := 0x0A

end Bytes

end ReverseTunnel
