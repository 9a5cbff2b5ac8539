import ReverseTunnel.Json.Escape
import ReverseTunnel.Json.Tree

/-!
# JSON values

What a JSON text means. `Value.parse?` reads a text strictly: every string must be text, every
number must stay in the range of a double, and arrays and objects nest at most 127 deep.
`Value.print` writes the compact form.
-/

namespace ReverseTunnel.Json

/-- A JSON value. An object keeps its fields in the order of the text, repetitions too. -/
inductive Value where
  | null
  | bool (value : Bool)
  | number (value : Number)
  | string (value : String)
  | array (items : List Value)
  | object (fields : List (String × Value))

/-! ### Reading -/

/-- How deep arrays and objects may nest. -/
def maxDepth : Nat := 127

/-- The value of a tree that is neither array nor object. -/
def Tree.scalar? : Tree → Option Value
  | .null => some .null
  | .bool b => some (.bool b)
  | .number n => if n.inRange then some (.number n) else none
  | .string raw => (unescape? raw).map .string
  | .array _ => none
  | .object _ => none

/-- The value of a tree that nests at most `depth` deep. -/
def Tree.value? : Nat → Tree → Option Value
  | depth + 1, .array items => (items.mapM (Tree.value? depth)).map .array
  | depth + 1, .object fields =>
    (fields.mapM fun (key, tree) => do
      let name ← unescape? key
      let value ← Tree.value? depth tree
      some (name, value)).map .object
  | _, tree => tree.scalar?

namespace Value

/-- The value that a text writes. -/
def parse? (text : Bytes) : Option Value := (Tree.parse? text).bind (Tree.value? maxDepth)

/-- The value of a field: of a repeated one, the last. -/
def field? (fields : List (String × Value)) (name : String) : Option Value :=
  (fields.reverse.find? (·.1 == name)).map (·.2)

/-- The text of a string. -/
def string? : Value → Option String
  | .string s => some s
  | _ => none

/-- The texts of an array of strings. -/
def strings? : Value → Option (List String)
  | .array items => items.mapM string?
  | _ => none

/-- The port number that a plain whole number below 65536 gives. -/
def port? : Value → Option UInt16
  | .number n => (n.natural?.filter (· < 65536)).map UInt16.ofNat
  | _ => none

/-! ### Writing -/

mutual
/-- The compact form. -/
def printChars : Value → List Char
  | .null => "null".toList
  | .bool true => "true".toList
  | .bool false => "false".toList
  | .number n => n.printChars
  | .string s => quote s
  | .array items => '[' :: printItems items ++ [']']
  | .object fields => '\x7b' :: printFields fields ++ ['\x7d']

/-- Values with commas between them. -/
def printItems : List Value → List Char
  | [] => []
  | [item] => printChars item
  | item :: items => printChars item ++ ',' :: printItems items

/-- Fields with commas between them. -/
def printFields : List (String × Value) → List Char
  | [] => []
  | [(key, value)] => quote key ++ ':' :: printChars value
  | (key, value) :: fields => quote key ++ ':' :: printChars value ++ ',' :: printFields fields
end

/-- The bytes of the compact form. -/
def print (v : Value) : Bytes := Text.Utf8.encode (String.ofList v.printChars)

end Value

end ReverseTunnel.Json
