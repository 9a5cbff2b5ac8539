import ReverseTunnel.Json.Token

/-!
# The structure of a JSON text

The tree that a text writes, with strings as they are written. It is built with a
stack of the arrays and objects that are still open, one token at a time, so that a text may
nest as deeply as it likes.
-/

namespace ReverseTunnel.Json

/-- A value whose strings are as they are written. -/
inductive Tree where
  | null
  | bool (value : Bool)
  | number (value : Number)
  | string (raw : Bytes)
  | array (items : List Tree)
  | object (fields : List (Bytes × Tree))

namespace Tree

/-- An array or object that waits for a value inside it. What it holds already stands newest
first. -/
inductive Open where
  | array (items : List Tree)
  | object (fields : List (Bytes × Tree)) (key : Bytes)

/-- What has been read, and so what may come next. The stack holds what is open around it,
innermost first. -/
inductive State where
  /-- A value must come. -/
  | value (stack : List Open)
  /-- An array was opened: a value or its end. -/
  | arrayOpened (stack : List Open)
  /-- A value of an array was read: a comma or its end. -/
  | item (items : List Tree) (stack : List Open)
  /-- An object was opened: a key or its end. -/
  | objectOpened (stack : List Open)
  /-- A comma of an object was read: a key. -/
  | fieldComma (fields : List (Bytes × Tree)) (stack : List Open)
  /-- A key was read: a colon. -/
  | key (fields : List (Bytes × Tree)) (key : Bytes) (stack : List Open)
  /-- A value of an object was read: a comma or its end. -/
  | field (fields : List (Bytes × Tree)) (stack : List Open)
  /-- The whole value was read: nothing. -/
  | done (value : Tree)

/-- A complete value takes its place in what is open around it. -/
def fill : List Open → Tree → State
  | [], value => .done value
  | .array items :: stack, value => .item (value :: items) stack
  | .object fields key :: stack, value => .field ((key, value) :: fields) stack

/-- The token with which a value begins. -/
def begin? (stack : List Open) : Token → Option State
  | .null => some (fill stack .null)
  | .bool b => some (fill stack (.bool b))
  | .number n => some (fill stack (.number n))
  | .string raw => some (fill stack (.string raw))
  | .openArray => some (.arrayOpened stack)
  | .openObject => some (.objectOpened stack)
  | _ => none

/-- One token. -/
def step : State → Token → Option State
  | .value stack, token => begin? stack token
  | .arrayOpened stack, .closeArray => some (fill stack (.array []))
  | .arrayOpened stack, token => begin? (.array [] :: stack) token
  | .item items stack, .comma => some (.value (.array items :: stack))
  | .item items stack, .closeArray => some (fill stack (.array items.reverse))
  | .objectOpened stack, .closeObject => some (fill stack (.object []))
  | .objectOpened stack, .string key => some (.key [] key stack)
  | .fieldComma fields stack, .string key => some (.key fields key stack)
  | .key fields key stack, .colon => some (.value (.object fields key :: stack))
  | .field fields stack, .comma => some (.fieldComma fields stack)
  | .field fields stack, .closeObject => some (fill stack (.object fields.reverse))
  | _, _ => none

/-- The tree that a run of tokens writes. -/
def ofTokens? (tokens : List Token) : Option Tree :=
  match tokens.foldlM step (.value []) with
  | some (.done value) => some value
  | _ => none

/-- The tree of a text; blanks may stand around it. -/
def parse? (text : Bytes) : Option Tree := (Token.scan? text).bind ofTokens?

end Tree

end ReverseTunnel.Json
