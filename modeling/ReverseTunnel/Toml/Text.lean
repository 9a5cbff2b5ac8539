import ReverseTunnel.Address.Ip

/-!
# Blanks, keys and strings of TOML

The readers of this module take what they read off the front of a list of characters and give
back the rest. `none` says that the text is malformed.
-/

namespace ReverseTunnel.Toml

open Text

/-- A reader: what stands in front, and the rest. -/
abbrev Reader (α : Type) := List Char → Option (α × List Char)

/-! ### Blanks -/

/-- Space and tab. -/
def isSpace (c : Char) : Bool := c == ' ' || c == '\t'

/-- The rest behind spaces and tabs. -/
def skipSpaces (cs : List Char) : List Char := cs.dropWhile isSpace

/-- A character that may stand in a comment or between single quotes. -/
def isPlain (c : Char) : Bool := c == '\t' || (0x20 ≤ c.toNat && c.toNat != 0x7F)

/-- The rest behind the end of a line. -/
def newline? : List Char → Option (List Char)
  | '\n' :: rest => some rest
  | '\r' :: '\n' :: rest => some rest
  | _ => none

/-- The rest behind a comment, which ends before the end of the line. -/
def skipComment (cs : List Char) : List Char :=
  match cs with
  | '#' :: rest => rest.dropWhile isPlain
  | _ => cs

/-- The rest behind spaces, a comment, and the end of the line or of the file. -/
def lineEnd? (cs : List Char) : Option (List Char) :=
  match skipComment (skipSpaces cs) with
  | [] => some []
  | cs => newline? cs

/-- The rest behind any spaces, comments and line ends; `lines` bounds how many. -/
def skipLines : Nat → List Char → List Char
  | 0, cs => cs
  | lines + 1, cs =>
    let cs := skipSpaces cs
    match newline? (skipComment cs) with
    | some rest => skipLines lines rest
    | none => cs

/-- The rest behind everything that does not matter between two values. -/
def skipGap (cs : List Char) : List Char := skipLines cs.length cs

/-! ### Strings -/

/-- The number that hexadecimal digits denote. -/
def hexValue? (digits : List Char) : Option Nat :=
  digits.foldlM (fun n d => do some (n * 16 + (← Ip.hexDigit? d))) 0

/-- The character with a number, unless no character has it. -/
def charOf? (n : Nat) : Option Char :=
  if n < 0xD800 || (0xDFFF < n && n < 0x110000) then some (Char.ofNat n) else none

/-- The character that `count` hexadecimal digits name. -/
def numbered? (count : Nat) : Reader Char := fun cs => do
  let digits := cs.take count
  if digits.length < count then none
  else some (← charOf? (← hexValue? digits), cs.drop count)

/-- The character of an escape, behind its backslash. -/
def escape? : Reader Char
  | 'b' :: rest => some ('\x08', rest)
  | 't' :: rest => some ('\t', rest)
  | 'n' :: rest => some ('\n', rest)
  | 'f' :: rest => some ('\x0c', rest)
  | 'r' :: rest => some ('\r', rest)
  | 'e' :: rest => some ('\x1b', rest)
  | '"' :: rest => some ('"', rest)
  | '\\' :: rest => some ('\\', rest)
  | 'x' :: rest => numbered? 2 rest
  | 'u' :: rest => numbered? 4 rest
  | 'U' :: rest => numbered? 8 rest
  | _ => none

/-- A string on one line, behind its opening double quote. `read` holds the characters so far,
newest first; `fuel` is above the length of what is left. -/
def basic? : Nat → List Char → Reader String
  | 0, _, _ => none
  | _, _, [] => none
  | _, read, '"' :: rest => some (String.ofList read.reverse, rest)
  | fuel + 1, read, '\\' :: rest => do
    let (c, rest) ← escape? rest
    basic? fuel (c :: read) rest
  | fuel + 1, read, c :: rest => if isPlain c then basic? fuel (c :: read) rest else none

/-- A string on one line, behind its opening single quote. -/
def literal? (cs : List Char) : Option (String × List Char) := do
  let (inner, rest) ← splitFirst '\'' cs
  if inner.all isPlain then some (String.ofList inner, rest) else none

/-- The rest behind three quotes that close a string, and how many quotes stand before them
and belong to it: at most two. -/
def closing? (quote : Char) (cs : List Char) : Option (Nat × List Char) :=
  let count := (cs.takeWhile (· == quote)).length
  if count < 3 then none else some (min count 5 - 3, cs.drop (min count 5))

/-- The rest behind spaces and line ends. -/
def skipBlankLines : List Char → List Char
  | '\r' :: '\n' :: rest => skipBlankLines rest
  | '\n' :: rest => skipBlankLines rest
  | ' ' :: rest => skipBlankLines rest
  | '\t' :: rest => skipBlankLines rest
  | cs => cs

/-- The rest behind a backslash that joins its line with the next one that holds something. -/
def joined? (cs : List Char) : Option (List Char) :=
  (newline? (skipSpaces cs)).map skipBlankLines

/-- A string on many lines, behind its three opening quotes. Double quotes allow escapes. Line
ends are kept as they are written. -/
def lines? (quote : Char) : Nat → List Char → Reader String
  | 0, _, _ => none
  | _, _, [] => none
  | fuel + 1, read, c :: rest =>
    match closing? quote (c :: rest) with
    | some (inner, rest) =>
      some (String.ofList (read.reverse ++ List.replicate inner quote), rest)
    | none =>
      if c == '\\' && quote == '"' then
        match joined? rest with
        | some rest => lines? quote fuel read rest
        | none =>
          match escape? rest with
          | some (e, rest) => lines? quote fuel (e :: read) rest
          | none => none
      else if isPlain c || (newline? (c :: rest)).isSome then lines? quote fuel (c :: read) rest
      else none

/-- A line end right behind the opening quotes is not part of the string. -/
def openLines? (quote : Char) (cs : List Char) : Option (String × List Char) :=
  lines? quote (cs.length + 1) [] ((newline? cs).getD cs)

/-- A string of any of the four kinds. -/
def text? : Reader String
  | '"' :: '"' :: '"' :: rest => openLines? '"' rest
  | '\'' :: '\'' :: '\'' :: rest => openLines? '\'' rest
  | '"' :: rest => basic? (rest.length + 1) [] rest
  | '\'' :: rest => literal? rest
  | _ => none

/-! ### Keys -/

/-- A character of a key without quotes. -/
def isKeyChar (c : Char) : Bool := c.isAlphanum || c == '_' || c == '-'

/-- One part of a key. -/
def keyPart? : Reader String
  | '"' :: rest => basic? (rest.length + 1) [] rest
  | '\'' :: rest => literal? rest
  | cs =>
    let part := cs.takeWhile isKeyChar
    if part.isEmpty then none else some (String.ofList part, cs.drop part.length)

/-- The parts of a key, which dots separate. -/
def keyParts? : Nat → Reader (List String)
  | 0, _ => none
  | fuel + 1, cs => do
    let (part, rest) ← keyPart? (skipSpaces cs)
    match skipSpaces rest with
    | '.' :: rest =>
      let (parts, rest) ← keyParts? fuel rest
      some (part :: parts, rest)
    | rest => some ([part], rest)

/-- How many parts a key may have. -/
def maxKeyParts : Nat := 80

/-- A key. -/
def key? (cs : List Char) : Option (List String × List Char) :=
  (keyParts? (cs.length + 1) cs).filter fun (parts, _) => parts.length ≤ maxKeyParts

end ReverseTunnel.Toml
