import ReverseTunnel.Text.Basic

/-!
# TOML values

The values that a configuration file gives to its keys, and what may be taken from each. The
files of this program use no fractions and no dates, so of those only the kind is kept.
-/

namespace ReverseTunnel.Toml

/-- A value. The keys of a table are distinct. -/
inductive Value where
  | string (text : String)
  | integer (number : Int)
  | float
  | boolean (value : Bool)
  | date
  | array (items : List Value)
  | table (fields : List (String × Value))

namespace Value

/-- The text of a string. -/
def string? : Value → Option String
  | .string text => some text
  | _ => none

/-- The number of an integer of 64 bits. -/
def integer? : Value → Option Int
  | .integer n =>
    if (BitVec.intMin 64).toInt ≤ n && n ≤ (BitVec.intMax 64).toInt then some n else none
  | _ => none

/-- The number of an integer that is a port. -/
def port? : Value → Option UInt16
  | .integer n => if 0 ≤ n && n < 65536 then some (UInt16.ofNat n.toNat) else none
  | _ => none

/-- The truth of a boolean. -/
def boolean? : Value → Option Bool
  | .boolean b => some b
  | _ => none

/-- The items of an array, each taken as `item` says. -/
def listOf? {α : Type} (item : Value → Option α) : Value → Option (List α)
  | .array items => items.mapM item
  | _ => none

/-- The first two items of an array. -/
def pairOf? {α : Type} (item : Value → Option α) : Value → Option (α × α)
  | .array (a :: b :: _) => do some (← item a, ← item b)
  | _ => none

end Value

/-- A field among `fields` that may be given under any of some names, but only under one of
them; nothing if it is not given. -/
def readField? {α : Type} (fields : List (String × Value)) (names : List String)
    (read : Value → Option α) : Option (Option α) :=
  match fields.filter fun field => names.contains field.1 with
  | [] => some none
  | [(_, value)] => (read value).map some
  | _ => none

end ReverseTunnel.Toml
