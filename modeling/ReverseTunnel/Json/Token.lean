import ReverseTunnel.Json.Number

/-!
# The words of a JSON text

A JSON text is cut into tokens before its structure is looked at. Strings are kept as they are
written; what they mean is decided where they are used, since a string that nobody looks at need
not mean anything. The tokenizer reads one byte at a time and holds the word that it is in the
middle of.
-/

namespace ReverseTunnel.Json

/-- A token. A string is kept as the bytes between its quotes, escapes and all. -/
inductive Token where
  | openArray | closeArray | openObject | closeObject | comma | colon
  | null
  | bool (value : Bool)
  | number (value : Number)
  | string (raw : Bytes)
  deriving DecidableEq, Repr

namespace Token

/-- Blanks between tokens: space, tab, line feed and carriage return. -/
def isBlank (b : UInt8) : Bool := b == 0x20 || b == 0x09 || b == 0x0A || b == 0x0D

/-- A byte that a number may go on with. -/
def isNumberByte (b : UInt8) : Bool :=
  Bytes.isDigit b || b == 0x2D || b == 0x2B || b == 0x2E || b == 0x45 || b == 0x65

/-- A small letter, of which `null`, `true` and `false` are made. -/
def isLetter (b : UInt8) : Bool := 0x61 ≤ b && b ≤ 0x7A

/-- A hexadecimal digit. -/
def isHexDigit (b : UInt8) : Bool :=
  Bytes.isDigit b || (0x41 ≤ b && b ≤ 0x46) || (0x61 ≤ b && b ≤ 0x66)

/-- What an escape may name: a quote, a backslash, a slash, or one of `b f n r t`. -/
def isEscape (b : UInt8) : Bool :=
  b == 0x22 || b == 0x5C || b == 0x2F || b == 0x62 || b == 0x66 || b == 0x6E || b == 0x72
    || b == 0x74

/-- The token of a finished run of letters. -/
def ofWord? (word : Bytes) : Option Token :=
  if word = [0x6E, 0x75, 0x6C, 0x6C] then some .null
  else if word = [0x74, 0x72, 0x75, 0x65] then some (.bool true)
  else if word = [0x66, 0x61, 0x6C, 0x73, 0x65] then some (.bool false)
  else none

/-- What the tokenizer is in the middle of. The bytes already read are held newest first. -/
inductive Mode where
  /-- Between two tokens. -/
  | gap
  /-- In a run of letters. -/
  | word (seen : Bytes)
  /-- In a number. -/
  | number (seen : Bytes)
  /-- In a string. -/
  | string (seen : Bytes)
  /-- In a string, behind a backslash. -/
  | escape (seen : Bytes)
  /-- In a string, with `left` hexadecimal digits of an escape to come. -/
  | hex (left : Nat) (seen : Bytes)

/-- One byte between two tokens: the token that it is, if it is one, and what it begins. -/
def start? (b : UInt8) : Option (Option Token × Mode) :=
  if isBlank b then some (none, .gap)
  else if b == 0x5B then some (some .openArray, .gap)
  else if b == 0x5D then some (some .closeArray, .gap)
  else if b == 0x7B then some (some .openObject, .gap)
  else if b == 0x7D then some (some .closeObject, .gap)
  else if b == 0x2C then some (some .comma, .gap)
  else if b == 0x3A then some (some .colon, .gap)
  else if b == 0x22 then some (none, .string [])
  else if isLetter b then some (none, .word [b])
  else if isNumberByte b then some (none, .number [b])
  else none

/-- Puts a token in front of those already found, newest first. -/
def addTo (found : List Token) : Option Token → List Token
  | none => found
  | some token => token :: found

/-- Reads the remaining bytes, with the tokens already found, newest first. Control bytes do
not belong in strings, and a string that is not closed is no string. -/
def scanFrom (found : List Token) : Mode → Bytes → Option (List Token)
  | .gap, [] => some found.reverse
  | .word seen, [] => do
    let token ← ofWord? seen.reverse
    some (token :: found).reverse
  | .number seen, [] => do
    let n ← Number.parse? seen.reverse
    some (.number n :: found).reverse
  | .string _, [] => none
  | .escape _, [] => none
  | .hex _ _, [] => none
  | .gap, b :: rest => do
    let (token, mode) ← start? b
    scanFrom (addTo found token) mode rest
  | .word seen, b :: rest =>
    if isLetter b then scanFrom found (.word (b :: seen)) rest
    else do
      let finished ← ofWord? seen.reverse
      let (token, mode) ← start? b
      scanFrom (addTo (finished :: found) token) mode rest
  | .number seen, b :: rest =>
    if isNumberByte b then scanFrom found (.number (b :: seen)) rest
    else do
      let n ← Number.parse? seen.reverse
      let (token, mode) ← start? b
      scanFrom (addTo (.number n :: found) token) mode rest
  | .string seen, b :: rest =>
    if b == 0x22 then scanFrom (.string seen.reverse :: found) .gap rest
    else if b == 0x5C then scanFrom found (.escape (b :: seen)) rest
    else if b < 0x20 then none
    else scanFrom found (.string (b :: seen)) rest
  | .escape seen, b :: rest =>
    if b == 0x75 then scanFrom found (.hex 4 (b :: seen)) rest
    else if isEscape b then scanFrom found (.string (b :: seen)) rest
    else none
  | .hex left seen, b :: rest =>
    if !isHexDigit b then none
    else if left ≤ 1 then scanFrom found (.string (b :: seen)) rest
    else scanFrom found (.hex (left - 1) (b :: seen)) rest

/-- The tokens of a text. -/
def scan? (text : Bytes) : Option (List Token) := scanFrom [] .gap text

end Token

end ReverseTunnel.Json
