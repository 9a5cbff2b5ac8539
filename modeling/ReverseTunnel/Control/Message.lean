import ReverseTunnel.Control.Rejection
import ReverseTunnel.Json.Value

/-!
# Control messages

What a client asks for and what the server answers, and both as JSON. A request is read in two
steps. The first looks at its type and token only, since whom to ask is known from these; the
second reads the fields that the named type has. An answer is read in one step.
-/

namespace ReverseTunnel

open Json

/-! ### Requests -/

/-- The kind of a tunnel. -/
inductive TunnelKind where
  /-- Requests for one public name are passed on. -/
  | http
  /-- Connections to one public port are passed on. -/
  | tcp
  deriving DecidableEq, Repr

namespace TunnelKind

/-- The word for the kind on the wire. -/
def tag : TunnelKind → String
  | .http => "http"
  | .tcp => "tcp"

/-- The kind that a request names, in either case and with blanks around it. -/
def parse? (s : String) : Option TunnelKind :=
  let word := Text.lower (Text.trim s)
  if word == "http" then some .http else if word == "tcp" then some .tcp else none

/-- The kind whose tag is exactly this word. -/
def ofTag? (tag : String) : Option TunnelKind :=
  if tag == "http" then some .http else if tag == "tcp" then some .tcp else none

end TunnelKind

/-- A header field that a request asks to have added. -/
structure HeaderEntry where
  name : String
  value : String
  deriving DecidableEq, Repr

/-- A request for a tunnel under a public name. An empty field asks for nothing. -/
structure HttpTunnelRequest where
  authtoken : String := ""
  /-- The label wanted in front of the tunnel domain. -/
  subdomain : String := ""
  /-- The whole name wanted, under the tunnel domain. -/
  domain : String := ""
  /-- The credential that visitors must show, as `user:password`. -/
  basicAuth : String := ""
  allowCidr : List String := []
  denyCidr : List String := []
  requestHeaderAdd : List HeaderEntry := []
  requestHeaderRemove : List String := []
  responseHeaderAdd : List HeaderEntry := []
  responseHeaderRemove : List String := []
  allowMethod : List String := []
  allowPath : List String := []
  allowPathPrefix : List String := []
  deriving DecidableEq, Repr

/-- A request for a tunnel behind a public port; port 0 leaves the choice to the server. -/
structure TcpTunnelRequest where
  authtoken : String := ""
  remotePort : UInt16 := 0
  deriving DecidableEq, Repr

/-- A request for a tunnel. -/
inductive TunnelRequest where
  | http (request : HttpTunnelRequest)
  | tcp (request : TcpTunnelRequest)
  deriving DecidableEq, Repr

namespace TunnelRequest

/-- The kind of tunnel asked for. -/
def kind : TunnelRequest → TunnelKind
  | .http _ => .http
  | .tcp _ => .tcp

/-- The token that the client shows. -/
def authtoken : TunnelRequest → String
  | .http request => request.authtoken
  | .tcp request => request.authtoken

end TunnelRequest

/-! ### Writing requests -/

/-- A field that is left out when its text is empty. -/
def textField (name value : String) : List (String × Value) :=
  if value.isEmpty then [] else [(name, .string value)]

/-- A field that is left out when its list is empty. -/
def listField (name : String) (values : List String) : List (String × Value) :=
  if values.isEmpty then [] else [(name, .array (values.map .string))]

/-- A header entry as an object. -/
def HeaderEntry.toJson (entry : HeaderEntry) : Value :=
  .object [("name", .string entry.name), ("value", .string entry.value)]

/-- A field of header entries, left out when there are none. -/
def headerField (name : String) (entries : List HeaderEntry) : List (String × Value) :=
  if entries.isEmpty then [] else [(name, .array (entries.map HeaderEntry.toJson))]

/-- The fields of a request for a name. The token is always written, the rest where it asks
for something. -/
def HttpTunnelRequest.fields (r : HttpTunnelRequest) : List (String × Value) :=
  [("authtoken", .string r.authtoken)]
    ++ textField "subdomain" r.subdomain
    ++ textField "domain" r.domain
    ++ textField "basic_auth" r.basicAuth
    ++ listField "allow_cidr" r.allowCidr
    ++ listField "deny_cidr" r.denyCidr
    ++ headerField "request_header_add" r.requestHeaderAdd
    ++ listField "request_header_remove" r.requestHeaderRemove
    ++ headerField "response_header_add" r.responseHeaderAdd
    ++ listField "response_header_remove" r.responseHeaderRemove
    ++ listField "allow_method" r.allowMethod
    ++ listField "allow_path" r.allowPath
    ++ listField "allow_path_prefix" r.allowPathPrefix

/-- The fields of a request for a port. -/
def TcpTunnelRequest.fields (r : TcpTunnelRequest) : List (String × Value) :=
  [("authtoken", .string r.authtoken), ("remote_port", .number (.ofNat r.remotePort.toNat))]

/-- A request as an object, its type first. -/
def TunnelRequest.toJson (request : TunnelRequest) : Value :=
  .object (("type", .string request.kind.tag) :: match request with
    | .http r => r.fields
    | .tcp r => r.fields)

/-! ### Reading requests -/

/-- The first step of reading a request: its type and token, and all its fields. -/
structure RawRequest where
  /-- The type as it was sent. -/
  type : String
  authtoken : String
  fields : List (String × Value)

/-- A text field, empty where it is absent. -/
def readText (fields : List (String × Value)) (name : String) : Option String :=
  match Value.field? fields name with
  | none => some ""
  | some value => value.string?

/-- A list of texts, empty where it is absent. -/
def readList (fields : List (String × Value)) (name : String) : Option (List String) :=
  match Value.field? fields name with
  | none => some []
  | some value => value.strings?

/-- A header entry: an object, or an array of its name and value of which the last ones may be
missing. -/
def HeaderEntry.ofJson? : Value → Option HeaderEntry
  | .object fields => do some ⟨← readText fields "name", ← readText fields "value"⟩
  | .array [] => some ⟨"", ""⟩
  | .array [name] => do some ⟨← name.string?, ""⟩
  | .array [name, value] => do some ⟨← name.string?, ← value.string?⟩
  | _ => none

/-- A list of header entries, empty where it is absent. -/
def readHeaders (fields : List (String × Value)) (name : String) :
    Option (List HeaderEntry) :=
  match Value.field? fields name with
  | none => some []
  | some (.array items) => items.mapM HeaderEntry.ofJson?
  | some _ => none

/-- A port, 0 where it is absent. -/
def readPort (fields : List (String × Value)) (name : String) : Option UInt16 :=
  match Value.field? fields name with
  | none => some 0
  | some value => value.port?

/-- The request for a name that the fields make. -/
def HttpTunnelRequest.ofFields? (fields : List (String × Value)) :
    Option HttpTunnelRequest := do
  some {
    authtoken := ← readText fields "authtoken"
    subdomain := ← readText fields "subdomain"
    domain := ← readText fields "domain"
    basicAuth := ← readText fields "basic_auth"
    allowCidr := ← readList fields "allow_cidr"
    denyCidr := ← readList fields "deny_cidr"
    requestHeaderAdd := ← readHeaders fields "request_header_add"
    requestHeaderRemove := ← readList fields "request_header_remove"
    responseHeaderAdd := ← readHeaders fields "response_header_add"
    responseHeaderRemove := ← readList fields "response_header_remove"
    allowMethod := ← readList fields "allow_method"
    allowPath := ← readList fields "allow_path"
    allowPathPrefix := ← readList fields "allow_path_prefix" }

/-- The request for a port that the fields make. -/
def TcpTunnelRequest.ofFields? (fields : List (String × Value)) : Option TcpTunnelRequest := do
  some { authtoken := ← readText fields "authtoken", remotePort := ← readPort fields "remote_port" }

namespace RawRequest

/-- Reads the type and the token of an object. -/
def ofJson? : Value → Option RawRequest
  | .object fields => do
    some ⟨← readText fields "type", ← readText fields "authtoken", fields⟩
  | _ => none

/-- The first step of reading a request. -/
def parse? (text : Bytes) : Option RawRequest := (Value.parse? text).bind ofJson?

/-- The kind of tunnel that the type names. -/
def kind? (raw : RawRequest) : Option TunnelKind := TunnelKind.parse? raw.type

/-- The second step: the request with the fields of its type. -/
def decode (raw : RawRequest) : Except Rejection TunnelRequest :=
  let valid {α : Type} (request? : Option α) : Except Rejection α :=
    request?.elim (.error (.plain .invalidRequest)) .ok
  match raw.kind? with
  | some .http => (valid (HttpTunnelRequest.ofFields? raw.fields)).map .http
  | some .tcp => (valid (TcpTunnelRequest.ofFields? raw.fields)).map .tcp
  | none => .error (.plain .unsupportedType)

end RawRequest

/-! ### Answers -/

/-- The answer to a request for a name. -/
structure HttpTunnelAnswer where
  kind : TunnelKind := .http
  id : String := ""
  url : String := ""
  error : Option String := none
  errorKind : Option Rejection.Kind := none
  deriving DecidableEq, Repr

/-- The answer to a request for a port. -/
structure TcpTunnelAnswer where
  kind : TunnelKind := .tcp
  remotePort : UInt16 := 0
  error : Option String := none
  errorKind : Option Rejection.Kind := none
  deriving DecidableEq, Repr

/-- The rejection that the error fields of an answer carry, if there is a message. -/
def rejection? (error : Option String) (kind? : Option Rejection.Kind) : Option Rejection :=
  match error with
  | some message => if message.isEmpty then none else some (.ofParts message kind?)
  | none => none

/-- The error fields of an answer, where they are present. -/
def errorFields (error : Option String) (kind? : Option Rejection.Kind) :
    List (String × Value) :=
  (error.map fun message => ("error", Value.string message)).toList
    ++ (kind?.map fun kind => ("error_kind", Value.string kind.tag)).toList

/-- The tag of a choice without content: a string, or an object with the tag as its only key
and `null` as its value. -/
def readTag : Tree → Option String
  | .string raw => unescape? raw
  | .object [(key, .null)] => unescape? key
  | _ => none

/-- The fields of an answer among `names`, from an object, where none of them may be repeated
and others are passed over, or from an array of their values in order, of which the last ones
may be missing. -/
def readRecord (names : List String) : Tree → Option (List (String × Tree))
  | .object fields => do
    let named ← fields.mapM fun (key, tree) => do some (← unescape? key, tree)
    let known := named.filter fun field => names.contains field.1
    if names.all fun name => known.countP (·.1 == name) ≤ 1 then some known else none
  | .array items => if items.length ≤ names.length then some (names.zip items) else none
  | _ => none

/-- A field of an answer, with a default where it is absent. -/
def readField {α : Type} (fields : List (String × Tree)) (name : String) (default : α)
    (read : Tree → Option α) : Option α :=
  match fields.find? (·.1 == name) with
  | none => some default
  | some (_, tree) => read tree

/-- The text of a string. -/
def readString : Tree → Option String
  | .string raw => unescape? raw
  | _ => none

/-- Something, or `null` for nothing. -/
def readOptional {α : Type} (read : Tree → Option α) : Tree → Option (Option α)
  | .null => some none
  | tree => (read tree).map some

/-- A port number. -/
def readPortNumber : Tree → Option UInt16
  | .number n => (Value.number n).port?
  | _ => none

namespace HttpTunnelAnswer

/-- The answer that grants a name. -/
def granted (id url : String) : HttpTunnelAnswer := { id, url }

/-- The answer that carries a rejection. -/
def rejected (r : Rejection) : HttpTunnelAnswer := { error := r.message, errorKind := r.kind }

/-- The answer itself, or the rejection that it carries. -/
def result (answer : HttpTunnelAnswer) : Except Rejection HttpTunnelAnswer :=
  match rejection? answer.error answer.errorKind with
  | some r => .error r
  | none => .ok answer

/-- The answer as an object. -/
def toJson (a : HttpTunnelAnswer) : Value :=
  .object (("type", .string a.kind.tag) :: textField "id" a.id ++ textField "url" a.url
    ++ errorFields a.error a.errorKind)

/-- The answer that a tree writes. -/
def ofTree? (tree : Tree) : Option HttpTunnelAnswer := do
  let fields ← readRecord ["type", "id", "url", "error", "error_kind"] tree
  some {
    kind := ← readField fields "type" .http fun t => (readTag t).bind TunnelKind.ofTag?
    id := ← readField fields "id" "" readString
    url := ← readField fields "url" "" readString
    error := ← readField fields "error" none (readOptional readString)
    errorKind := ← readField fields "error_kind" none
      (readOptional fun t => (readTag t).map .ofTag) }

/-- The answer that a text writes. -/
def parse? (text : Bytes) : Option HttpTunnelAnswer := (Tree.parse? text).bind ofTree?

end HttpTunnelAnswer

namespace TcpTunnelAnswer

/-- The answer that grants a port. -/
def granted (port : UInt16) : TcpTunnelAnswer := { remotePort := port }

/-- The answer that carries a rejection. -/
def rejected (r : Rejection) : TcpTunnelAnswer := { error := r.message, errorKind := r.kind }

/-- The answer itself, or the rejection that it carries. -/
def result (answer : TcpTunnelAnswer) : Except Rejection TcpTunnelAnswer :=
  match rejection? answer.error answer.errorKind with
  | some r => .error r
  | none => .ok answer

/-- The answer as an object. -/
def toJson (a : TcpTunnelAnswer) : Value :=
  .object ([("type", .string a.kind.tag), ("remote_port", .number (.ofNat a.remotePort.toNat))]
    ++ errorFields a.error a.errorKind)

/-- The answer that a tree writes. -/
def ofTree? (tree : Tree) : Option TcpTunnelAnswer := do
  let fields ← readRecord ["type", "remote_port", "error", "error_kind"] tree
  some {
    kind := ← readField fields "type" .tcp fun t => (readTag t).bind TunnelKind.ofTag?
    remotePort := ← readField fields "remote_port" 0 readPortNumber
    error := ← readField fields "error" none (readOptional readString)
    errorKind := ← readField fields "error_kind" none
      (readOptional fun t => (readTag t).map .ofTag) }

/-- The answer that a text writes. -/
def parse? (text : Bytes) : Option TcpTunnelAnswer := (Tree.parse? text).bind ofTree?

end TcpTunnelAnswer

/-! ### Kinds by themselves -/

/-- The kind of a rejection that a JSON text writes. -/
def Rejection.Kind.parse? (text : Bytes) : Option Rejection.Kind :=
  ((Tree.parse? text).bind readTag).map .ofTag

end ReverseTunnel
