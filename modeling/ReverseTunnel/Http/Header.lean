import ReverseTunnel.Text.Utf8

/-!
# Header fields

The fields of a request or response, in the order in which they came. A name is kept in small
letters; a name may have several values, whose order counts. Every operation is stated by what
it does to the values of one name.

## Main results

* `values_remove_self`, `values_remove_of_ne`: removing a name leaves it no value and touches no
  other name.
* `values_set_self`, `values_set_of_ne`: setting a name leaves it exactly one value and touches
  no other name.
-/

namespace ReverseTunnel.Http

/-- A byte of a token, the form of methods and of header names. -/
def isTokenByte (b : UInt8) : Bool :=
  Bytes.isDigit b || (0x41 ≤ b && b ≤ 0x5A) || (0x61 ≤ b && b ≤ 0x7A)
    || (Text.Utf8.encode "!#$%&'*+-.^_`|~").contains b

/-- A token: one byte or more, all of them token bytes. -/
def isToken (bs : Bytes) : Bool := !bs.isEmpty && bs.all isTokenByte

/-- A byte that a header value may hold: tab, and everything that is no control byte. -/
def isValueByte (b : UInt8) : Bool := b == 0x09 || (0x20 ≤ b && b != 0x7F)

/-- The text of a value, if it has only visible ASCII, spaces and tabs. -/
def visible? (value : Bytes) : Option String :=
  if value.all fun b => b == 0x09 || (0x20 ≤ b && b ≤ 0x7E) then Text.Utf8.decode? value else none

/-- Header fields in their order. -/
abbrev Headers := List (String × Bytes)

namespace Headers

/-- The values of a name, in their order. -/
def values (headers : Headers) (name : String) : List Bytes :=
  (headers.filter (·.1 == name)).map (·.2)

/-- The first value of a name. -/
def get? (headers : Headers) (name : String) : Option Bytes := (headers.values name).head?

/-- Whether a name has a value. -/
def has (headers : Headers) (name : String) : Bool := headers.any (·.1 == name)

/-- The fields without those of a name. -/
def remove (headers : Headers) (name : String) : Headers := headers.filter (·.1 != name)

/-- The fields without those of any of the names. -/
def removeAll (headers : Headers) (names : List String) : Headers :=
  headers.filter fun field => !names.contains field.1

/-- The fields with exactly one value under a name. -/
def set (headers : Headers) (name : String) (value : Bytes) : Headers :=
  headers.remove name ++ [(name, value)]

/-- The first value of a name as text, if it is visible. -/
def text? (headers : Headers) (name : String) : Option String :=
  (headers.get? name).bind visible?

/-! ### Laws -/

/-- The values under a name are found in order, through one list of headers and then the next. -/
@[simp] theorem values_append (hs hs' : Headers) (name : String) :
    values (hs ++ hs') name = values hs name ++ values hs' name := by
  simp [values]

/-- After a removal nothing is left under the name. -/
@[simp] theorem values_remove_self (hs : Headers) (name : String) :
    (hs.remove name).values name = [] := by
  simp [values, remove, List.filter_filter]

/-- A removal leaves the values under every other name as they are. -/
theorem values_remove_of_ne {name other : String} (hs : Headers) (h : other ≠ name) :
    (hs.remove name).values other = hs.values other := by
  simp only [values, remove, List.filter_filter]
  congr 1
  apply List.filter_congr
  intro field _
  by_cases he : field.1 = other
  · simp [he, h]
  · simp [he]

/-- Setting a header leaves one value under its name, however many there were. -/
@[simp] theorem values_set_self (hs : Headers) (name : String) (value : Bytes) :
    (hs.set name value).values name = [value] := by
  rw [set, values_append, values_remove_self]
  simp [values]

/-- Setting a header leaves the values under every other name as they are. -/
theorem values_set_of_ne {name other : String} (hs : Headers) (value : Bytes)
    (h : other ≠ name) : (hs.set name value).values other = hs.values other := by
  rw [set, values_append, values_remove_of_ne hs h]
  simp [values, Ne.symm h]

end Headers

end ReverseTunnel.Http
