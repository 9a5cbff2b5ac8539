import ReverseTunnel.Address.Network
import ReverseTunnel.Control.Rejection
import ReverseTunnel.Control.Message
import ReverseTunnel.Http.Header
import ReverseTunnel.Text.Quoted

/-!
# The fields of a policy

Each list of a request that restricts or changes what passes through a tunnel has its limit and
its form of entry. The first entry that breaks the form is the one that is reported; a list that
is too long is reported before any entry is looked at.
-/

namespace ReverseTunnel

open Text

/-- Why a field of a policy is refused. -/
inductive FieldError where
  | tooManyEntries (field : String)
  | emptyEntry (field : String)
  | invalidEntry (field value : String)
  deriving DecidableEq, Repr

namespace FieldError

/-- The wording of the error. -/
def message : FieldError → String
  | .tooManyEntries field => s!"invalid {field}: too many entries"
  | .emptyEntry field => s!"invalid {field}"
  | .invalidEntry field value => s!"invalid {field}: " ++ quoted value

/-- The rejection of a request with such a field. -/
def toRejection (e : FieldError) : Rejection := ⟨.invalidRequest, e.message⟩

end FieldError

namespace Policy

/-- The most networks in a list. -/
def maxNetworks : Nat := 64

/-- The most methods, paths or path beginnings in a list. -/
def maxAllowed : Nat := 32

/-- The most header fields in a list. -/
def maxHeaders : Nat := 32

/-- The most bytes in a header value. -/
def maxValueLength : Nat := 8192

/-- The header fields that a policy may not touch. -/
def protectedHeaders : List String := [
  "connection", "proxy-connection", "keep-alive", "proxy-authenticate", "proxy-authorization",
  "te", "trailer", "transfer-encoding", "upgrade", "content-length", "host"]

/-- Reads a list entry by entry, if it is not too long. -/
def readEntries {α β : Type} (limit : Nat) (field : String) (read : α → Except FieldError β)
    (entries : List α) : Except FieldError (List β) :=
  if entries.length > limit then .error (.tooManyEntries field) else entries.mapM read

/-- A network, or an address that stands for itself alone. An address of version 4 written as
one of version 6 is the address of version 4. -/
def readNetwork (field raw : String) : Except FieldError Network :=
  let text := trim raw
  if text.isEmpty then .error (.emptyEntry field)
  else
    let network? :=
      if text.toList.contains '/' then Network.parseChars? text.toList
      else (Ip.parse? text).map fun ip => Network.single ip.unmap
    network?.elim (.error (.invalidEntry field raw)) .ok

/-- A method, in capitals. -/
def readMethod (field raw : String) : Except FieldError String :=
  let text := trim raw
  if Http.isToken (Utf8.encode text) then .ok (upper text) else .error (.invalidEntry field raw)

/-- Whether a text can be the path of a request: a slash first, and neither query nor fragment
nor blanks nor control characters. -/
def isPath (text : String) : Bool :=
  let cs := text.toList
  cs.head? == some '/'
    && cs.all fun c => c != '?' && c != '#' && !isControl c && !isBlank c

/-- A path or the beginning of one. -/
def readPath (field raw : String) : Except FieldError String :=
  let text := trim raw
  if isPath text then .ok text else .error (.invalidEntry field raw)

/-- The most bytes in the name of a header field. -/
def maxNameLength : Nat := 65535

/-- The name of a header field that may be touched, in small letters. -/
def readName (field raw : String) : Except FieldError String :=
  let name := lower (trim raw)
  let bytes := Utf8.encode name
  if Http.isToken bytes && bytes.length ≤ maxNameLength && !protectedHeaders.contains name then
    .ok name
  else .error (.invalidEntry field raw)

/-- The value of a header field: bounded, and without control bytes other than tabs. -/
def readValue (field raw : String) : Except FieldError Bytes :=
  let value := Utf8.encode (trim raw)
  if value.length ≤ maxValueLength && value.all Http.isValueByte then .ok value
  else .error (.invalidEntry field raw)

/-- A header field to add; its name is looked at first. -/
def readHeader (field : String) (entry : HeaderEntry) : Except FieldError (String × Bytes) := do
  let name ← readName field entry.name
  let value ← readValue field entry.value
  .ok (name, value)

/-- A list of networks. -/
def readNetworks (field : String) (entries : List String) : Except FieldError (List Network) :=
  readEntries maxNetworks field (readNetwork field) entries

/-- A list of methods. -/
def readMethods (field : String) (entries : List String) : Except FieldError (List String) :=
  readEntries maxAllowed field (readMethod field) entries

/-- A list of paths. -/
def readPaths (field : String) (entries : List String) : Except FieldError (List String) :=
  readEntries maxAllowed field (readPath field) entries

/-- A list of header fields to add. -/
def readHeaders (field : String) (entries : List HeaderEntry) :
    Except FieldError (List (String × Bytes)) :=
  readEntries maxHeaders field (readHeader field) entries

/-- A list of names of header fields to remove. -/
def readNames (field : String) (entries : List String) : Except FieldError (List String) :=
  readEntries maxHeaders field (readName field) entries

end Policy

end ReverseTunnel
