import ReverseTunnel.Http.Header
import ReverseTunnel.Policy.Field
import ReverseTunnel.Text.Base64

/-!
# The credential of a tunnel

A tunnel may ask its visitors for a user and a password. They are given once, as
`user:password`, and shown by every visitor in the `Authorization` field.
-/

namespace ReverseTunnel

open Text

/-- A user and a password. -/
structure Credential where
  user : String
  password : String
  deriving DecidableEq, Repr

namespace Credential

/-- The two parts around the first colon. -/
def splitColon? (s : String) : Option (String × String) :=
  (splitFirst ':' s.toList).map fun (a, b) => (String.ofList a, String.ofList b)

/-- Reads `user:password`; a blank text asks for no credential. Blanks around the whole and
around the user do not count. -/
def parse (raw : String) : Except FieldError (Option Credential) :=
  let text := trim raw
  if text.isEmpty then .ok none
  else match splitColon? text with
    | none => .error (.invalidEntry "basic_auth" "missing ':'")
    | some (user, password) =>
      let user := trim user
      if user.isEmpty then .error (.invalidEntry "basic_auth" "empty user")
      else .ok (some ⟨user, password⟩)

/-- The credential that the value of an `Authorization` field shows: the word `basic` in either
case, a space, and `user:password` in base 64. -/
def shown? (value : Bytes) : Option Credential := do
  let text := trim (← Http.visible? value)
  let (scheme, encoded) ← splitFirst ' ' text.toList
  if sameIgnoringCase (String.ofList scheme) "basic" then
    let decoded ← Utf8.decode? (← Base64.decode? (trimBy isBlank encoded))
    let (user, password) ← splitColon? decoded
    some ⟨user, password⟩
  else none

/-- Whether the visitor shows this credential. -/
def verify (credential : Credential) (authorization : Option Bytes) : Bool :=
  authorization.bind shown? == some credential

/-- How the credential is shown in messages. -/
def describe (credential : Credential) : String :=
  "BasicAuthCredential \x7b user: " ++ quoted credential.user
    ++ ", password: \"<redacted>\" \x7d"

end Credential

end ReverseTunnel
