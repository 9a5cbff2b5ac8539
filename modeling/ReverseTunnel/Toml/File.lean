import ReverseTunnel.Text.Utf8
import ReverseTunnel.Toml.Document
import ReverseTunnel.Toml.Scalar

/-!
# TOML files

A file is a sequence of lines: headers, keys with their values, and lines that hold nothing.
A value may reach over several lines. Reading gives the fields of the whole file, or nothing if
any part of it is malformed.
-/

namespace ReverseTunnel.Toml

/-! ### Values -/

/-- The items of an array, behind its opening bracket. A comma may follow the last one. -/
def items? (item : Reader Value) : Nat → List Char → Option (List Value × List Char)
  | 0, _ => none
  | fuel + 1, cs =>
    match skipGap cs with
    | ']' :: rest => some ([], rest)
    | cs => do
      let (value, rest) ← item cs
      match skipGap rest with
      | ']' :: rest => some ([value], rest)
      | ',' :: rest =>
        let (values, rest) ← items? item fuel rest
        some (value :: values, rest)
      | _ => none

/-- The fields of a table in braces, behind its opening brace. A comma may follow the last
one. -/
def fields? (item : Reader Value) : Nat → Fields → List Char → Option (Fields × List Char)
  | 0, _, _ => none
  | fuel + 1, fields, cs =>
    match skipGap cs with
    | '}' :: rest => some (fields, rest)
    | cs => do
      let (keys, rest) ← key? cs
      let rest ← Text.dropStart? ['='] (skipSpaces rest)
      let (value, rest) ← item (skipSpaces rest)
      let fields ← fields.assign value keys
      match skipGap rest with
      | '}' :: rest => some (fields, rest)
      | ',' :: rest => fields? item fuel fields rest
      | _ => none

/-- How deep arrays and tables may stand in one another. -/
def maxDepth : Nat := 80

/-- A value in which arrays and tables stand in one another as deep as `depth` allows. -/
def value? : (depth : Nat) → Reader Value
  | _, '"' :: rest => (text? ('"' :: rest)).map fun (text, rest) => (.string text, rest)
  | _, '\'' :: rest => (text? ('\'' :: rest)).map fun (text, rest) => (.string text, rest)
  | 0, '[' :: _ => none
  | depth + 1, '[' :: rest =>
    (items? (value? depth) (rest.length + 1) rest).map fun (items, rest) => (.array items, rest)
  | 0, '{' :: _ => none
  | depth + 1, '{' :: rest =>
    (fields? (value? depth) (rest.length + 1) [] rest).map fun (fields, rest) =>
      (.table (toFields fields), rest)
  | _, cs => scalar? cs

/-! ### Lines -/

/-- A line that gives a value to a key. -/
def assignment? (d : Document) (cs : List Char) : Option (Document × List Char) := do
  let (keys, rest) ← key? cs
  let rest ← Text.dropStart? ['='] rest
  let (value, rest) ← value? maxDepth (skipSpaces rest)
  some (← d.assign keys value, rest)

/-- One line that holds something. -/
def line? (d : Document) (cs : List Char) : Option (Document × List Char) :=
  match cs with
  | '[' :: '[' :: rest => do
    let (keys, rest) ← key? rest
    let rest ← Text.dropStart? [']', ']'] rest
    some (← d.enter keys true, rest)
  | '[' :: rest => do
    let (keys, rest) ← key? rest
    let rest ← Text.dropStart? [']'] rest
    some (← d.enter keys false, rest)
  | cs => assignment? d cs

/-- The lines of a file. -/
def lines : Nat → Document → List Char → Option Document
  | 0, _, _ => none
  | fuel + 1, d, cs =>
    match skipGap cs with
    | [] => some d
    | '#' :: rest => if rest.all isPlain then some d else none
    | cs => do
      let (d, rest) ← line? d cs
      lines fuel d (← lineEnd? rest)

/-- The fields that a text gives. A mark of the byte order in front is not part of it. -/
def parse? (text : String) : Option (List (String × Value)) :=
  let cs := match text.toList with
    | '\uFEFF' :: rest => rest
    | cs => cs
  (lines (cs.length + 1) {} cs).map fun d => toFields d.fields

/-- The fields that a file gives. -/
def ofBytes? (file : Bytes) : Option (List (String × Value)) :=
  (Text.Utf8.decode? file).bind parse?

end ReverseTunnel.Toml
