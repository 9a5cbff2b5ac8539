import ReverseTunnel.Policy.Credential

/-!
# Access policies

What a tunnel lets through and what it changes on the way. A policy is read once, from the
request that opens the tunnel, and then decides over every visitor.
-/

namespace ReverseTunnel

open Text

/-- What a tunnel lets through and what it changes on the way. -/
structure Policy where
  credential : Option Credential := none
  allowNetworks : List Network := []
  denyNetworks : List Network := []
  allowMethods : List String := []
  allowPaths : List String := []
  allowPathPrefixes : List String := []
  requestAdd : Http.Headers := []
  requestRemove : List String := []
  responseAdd : Http.Headers := []
  responseRemove : List String := []
  deriving DecidableEq, Repr

namespace Policy

/-- Reads the fields of a request in a fixed order; the first bad one is reported. -/
def ofRequest (r : HttpTunnelRequest) : Except FieldError Policy := do
  let credential ← Credential.parse r.basicAuth
  let allowNetworks ← readNetworks "allow_cidr" r.allowCidr
  let denyNetworks ← readNetworks "deny_cidr" r.denyCidr
  let allowMethods ← readMethods "allow_method" r.allowMethod
  let allowPaths ← readPaths "allow_path" r.allowPath
  let allowPathPrefixes ← readPaths "allow_path_prefix" r.allowPathPrefix
  let requestAdd ← readHeaders "request_header_add" r.requestHeaderAdd
  let requestRemove ← readNames "request_header_remove" r.requestHeaderRemove
  let responseAdd ← readHeaders "response_header_add" r.responseHeaderAdd
  let responseRemove ← readNames "response_header_remove" r.responseHeaderRemove
  .ok {
    credential, allowNetworks, denyNetworks, allowMethods, allowPaths, allowPathPrefixes,
    requestAdd, requestRemove, responseAdd, responseRemove }

/-! ### How a policy is shown -/

/-- Items between brackets. -/
def describeList (items : List String) : String := "[" ++ ", ".intercalate items ++ "]"

/-- A header value between quotes: quotes are escaped, bytes that are not visible ASCII are
written in hexadecimal, tabs stay. -/
def describeValue (value : Bytes) : String :=
  let char (b : UInt8) : List Char :=
    if b == 0x22 then ['\\', '"']
    else if b == 0x09 || (0x20 ≤ b && b ≤ 0x7E) then [Char.ofNat b.toNat]
    else '\\' :: 'x' :: Nat.toDigits 16 b.toNat
  String.ofList ('"' :: value.flatMap char ++ ['"'])

/-- Header fields to add. -/
def describeHeaders (headers : Http.Headers) : String :=
  describeList (headers.map fun (name, value) =>
    "(" ++ quoted name ++ ", " ++ describeValue value ++ ")")

/-- How a policy is shown in messages; the password is not. -/
def describe (p : Policy) : String :=
  let credential := match p.credential with
    | some credential => "Some(" ++ credential.describe ++ ")"
    | none => "None"
  let networks (ns : List Network) : String := describeList (ns.map Network.print)
  let texts (ts : List String) : String := describeList (ts.map quoted)
  "AccessPolicy \x7b basic_auth: " ++ credential
    ++ ", allow_cidrs: " ++ networks p.allowNetworks
    ++ ", deny_cidrs: " ++ networks p.denyNetworks
    ++ ", allow_methods: " ++ texts p.allowMethods
    ++ ", allow_paths: " ++ texts p.allowPaths
    ++ ", allow_path_prefixes: " ++ texts p.allowPathPrefixes
    ++ ", request_header_add: " ++ describeHeaders p.requestAdd
    ++ ", request_header_remove: " ++ texts p.requestRemove
    ++ ", response_header_add: " ++ describeHeaders p.responseAdd
    ++ ", response_header_remove: " ++ texts p.responseRemove ++ " \x7d"

/-! ### Decisions -/

/-- Whether the address of a visitor matters. -/
def hasAddressRules (p : Policy) : Bool := !p.allowNetworks.isEmpty || !p.denyNetworks.isEmpty

/-- Whether an address may visit: denied networks win, and without allowed ones all others
may. -/
def allowsAddress (p : Policy) (ip : Ip) : Bool :=
  let ip := ip.unmap
  if p.denyNetworks.any (·.contains ip) then false
  else p.allowNetworks.isEmpty || p.allowNetworks.any (·.contains ip)

/-- Whether a method may be used. -/
def allowsMethod (p : Policy) (method : String) : Bool :=
  p.allowMethods.isEmpty || p.allowMethods.any fun m => sameIgnoringCase m (trim method)

/-- Whether a path may be asked for: one of the paths, or one that begins as allowed. -/
def allowsPath (p : Policy) (path : String) : Bool :=
  (p.allowPaths.isEmpty && p.allowPathPrefixes.isEmpty)
    || p.allowPaths.contains path
    || p.allowPathPrefixes.any fun start => start.toList.isPrefixOf path.toList

/-! ### Changes -/

/-- Removes some fields, then sets others. -/
def transform (remove : List String) (add headers : Http.Headers) : Http.Headers :=
  add.foldl (fun hs (name, value) => hs.set name value) (headers.removeAll remove)

/-- The changes to a request on its way to the client. -/
def transformRequest (p : Policy) (headers : Http.Headers) : Http.Headers :=
  transform p.requestRemove p.requestAdd headers

/-- The changes to a response on its way to the visitor. -/
def transformResponse (p : Policy) (headers : Http.Headers) : Http.Headers :=
  transform p.responseRemove p.responseAdd headers

end Policy

end ReverseTunnel
