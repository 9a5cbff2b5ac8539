import ReverseTunnel.Toml.Value

/-!
# Building a TOML document

A document is built from headers and key-value lines. What was given a value stays as it is;
what was only named on the way to something else may still be opened once. Keys with dots make
tables of their own: they give values to no table that a header made, though they may lead
through one that no header opened.
-/

namespace ReverseTunnel.Toml

/-- How a table came to be. -/
inductive Origin where
  /-- A longer header passed through it. -/
  | passed
  /-- Its own header opened it. -/
  | opened
  /-- A key with dots passed through it. -/
  | dotted
  deriving DecidableEq, Repr

/-- What stands under a key while the document is being built. -/
inductive Node where
  | value (value : Value)
  | table (origin : Origin) (fields : List (String × Node))
  /-- The tables of an array that headers add to, the newest first. -/
  | tables (newest : List (String × Node)) (older : List (List (String × Node)))

/-- The fields of a table. -/
abbrev Fields := List (String × Node)

namespace Fields

/-- The fields with another node under a key that is there. -/
def replace (fields : Fields) (key : String) (node : Node) : Fields :=
  fields.map fun field => if field.1 == key then (key, node) else field

/-- Changes the table that stands under a key of some fields, or a new one. What `through`
refuses is not changed; of the tables of an array the newest stands under its key. -/
def change (fields : Fields) (key : String) (created : Origin) (through : Node → Bool)
    (inside : Fields → Option Fields) : Option Fields :=
  match fields.lookup key with
  | none => do some (fields ++ [(key, .table created (← inside []))])
  | some node =>
    if through node then
      match node with
      | .table origin inner => do
        some (fields.replace key (.table origin (← inside inner)))
      | .tables newest older => do
        some (fields.replace key (.tables (← inside newest) older))
      | .value _ => none
    else none

/-- Whether a key with dots may lead through a node to a further table. -/
def leads : Node → Bool
  | .table origin _ => origin != .opened
  | .tables _ _ => true
  | .value _ => false

/-- Whether a key with dots may give a value to the table that a node is. -/
def takesValues : Node → Bool
  | .table origin _ => origin == .dotted
  | _ => false

/-- Gives a value to a key, whose parts but the last name tables inside one another. -/
def assign (fields : Fields) (value : Value) : List String → Option Fields
  | [] => none
  | [key] =>
    match fields.lookup key with
    | none => some (fields ++ [(key, .value value)])
    | some _ => none
  | key :: keys =>
    let through := if keys.length = 1 then takesValues else leads
    fields.change key .dotted through fun inner => inner.assign value keys

/-- Changes the table that a header names. -/
def within (fields : Fields) (inside : Fields → Option Fields) : List String → Option Fields
  | [] => inside fields
  | key :: keys =>
    fields.change key .passed (fun _ => true) fun inner => inner.within inside keys

/-- Opens the table with a name. A table can be opened once. -/
def openTable (fields : Fields) (key : String) : Option Fields :=
  match fields.lookup key with
  | none => some (fields ++ [(key, .table .opened [])])
  | some (.table .passed inner) => some (fields.replace key (.table .opened inner))
  | some _ => none

/-- Adds a table to the array with a name. -/
def openItem (fields : Fields) (key : String) : Option Fields :=
  match fields.lookup key with
  | none => some (fields ++ [(key, .tables [] [])])
  | some (.tables newest older) => some (fields.replace key (.tables [] (newest :: older)))
  | some _ => none

end Fields

/-- A document on its way: its fields, and the table that lines are added to. -/
structure Document where
  fields : Fields := []
  here : List String := []

namespace Document

/-- A line that gives a value to a key. -/
def assign (d : Document) (keys : List String) (value : Value) : Option Document := do
  let fields ← d.fields.within (fun inner => inner.assign value keys) d.here
  some { d with fields }

/-- A header. -/
def enter (d : Document) (keys : List String) (isItem : Bool) : Option Document := do
  let last ← keys.getLast?
  let step (inner : Fields) := if isItem then inner.openItem last else inner.openTable last
  let fields ← d.fields.within step keys.dropLast
  some ⟨fields, keys⟩

end Document

mutual

/-- The value that a finished node is. -/
def Node.toValue : Node → Value
  | .value value => value
  | .table _ fields => .table (toFields fields)
  | .tables newest older => .array ((toTables older).reverse ++ [.table (toFields newest)])

/-- The finished fields of a table. -/
def toFields : List (String × Node) → List (String × Value)
  | [] => []
  | (key, node) :: rest => (key, node.toValue) :: toFields rest

/-- The finished tables of an array. -/
def toTables : List (List (String × Node)) → List Value
  | [] => []
  | fields :: rest => .table (toFields fields) :: toTables rest

end

end ReverseTunnel.Toml
