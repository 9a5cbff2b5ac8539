import ReverseTunnel.Text.Number
import ReverseTunnel.Text.Split

/-!
# Request targets

A target is a path, an authority alone, or a URL with a scheme, an authority and perhaps a path.
A star stands for the server as a whole. Fragments are dropped; nothing else is changed.
-/

namespace ReverseTunnel.Http

open Text

/-- A request target. -/
structure Uri where
  scheme : Option String
  /-- Host and port, perhaps with a user in front. -/
  authority : Option String
  path : String
  query : Option String
  deriving DecidableEq, Repr

namespace Uri

/-- The most bytes in a target. -/
def maxLength : Nat := 65534

/-- The most characters in a scheme. -/
def maxSchemeLength : Nat := 64

/-- A letter of ASCII. -/
def isLetter (c : Char) : Bool := ('a' ≤ c && c ≤ 'z') || ('A' ≤ c && c ≤ 'Z')

/-- A character of a scheme. -/
def isSchemeChar (c : Char) : Bool :=
  isLetter c || isDigit c || "+-.~".toList.contains c

/-- A character that an authority may hold, brackets, colons and at signs aside. -/
def isPlainChar (c : Char) : Bool :=
  isLetter c || isDigit c || "!$&'()*+,-.;=_~".toList.contains c

/-- A character of a path. Characters above ASCII may stand for themselves. -/
def isPathChar (c : Char) : Bool :=
  c.toNat > 0x7F
    || (c.toNat > 0x20 && c.toNat != 0x7F && c != '#' && c != '<' && c != '>' && c != '?'
      && c.toNat != 0x60)

/-- A character of a query. -/
def isQueryChar (c : Char) : Bool :=
  c.toNat > 0x20 && c.toNat != 0x7F && c != '"' && c != '#' && c != '<' && c != '>'

/-! ### Authorities -/

/-- What has been seen of an authority: the colons since the last at sign or closing bracket,
the brackets, and a percent sign that only a user may have. -/
structure AuthorityScan where
  colons : Nat := 0
  opened : Bool := false
  closed : Bool := false
  percent : Bool := false

/-- The most colons that are looked at. -/
def maxColons : Nat := 8

/-- One character of an authority. -/
def AuthorityScan.step (s : AuthorityScan) (c : Char) : Option AuthorityScan :=
  if c = ':' then if s.colons ≥ maxColons then none else some { s with colons := s.colons + 1 }
  else if c = '[' then if s.percent || s.opened then none else some { s with opened := true }
  else if c = ']' then
    if !s.opened || s.closed then none
    else some { s with closed := true, colons := 0, percent := false }
  else if c = '@' then some { s with colons := 0, percent := false }
  else if c = '%' then some { s with percent := true }
  else if isPlainChar c then some s
  else none

/-- Whether the characters make an authority: brackets in pairs, at most one colon for the
port, no percent sign in the host, and something behind the last at sign. -/
def isAuthority (cs : List Char) : Bool :=
  match cs.foldlM AuthorityScan.step ({} : AuthorityScan) with
  | some s =>
    s.opened == s.closed && s.colons ≤ 1 && !s.percent && cs.getLast? != some '@'
  | none => false

/-- The host of an authority, with its brackets. -/
def hostOf (authority : List Char) : List Char :=
  let hostPort := match splitLast '@' authority with
    | some (_, rest) => rest
    | none => authority
  match hostPort with
  | '[' :: _ => hostPort.takeWhile (· != ']') ++ [']']
  | _ => hostPort.takeWhile (· != ':')

/-- The port of an authority, if what follows the last colon is one. -/
def portOf? (authority : List Char) : Option UInt16 := do
  let (_, digits) ← splitLast ':' authority
  port? (String.ofList digits)

/-! ### Reading -/

/-- The path and query of what follows the authority. -/
def pathAndQuery? (cs : List Char) : Option (String × Option String) :=
  let endsPath (c : Char) : Bool := c == '?' || c == '#'
  let path := cs.takeWhile (!endsPath ·)
  let query? := match cs.dropWhile (!endsPath ·) with
    | '?' :: rest => some (rest.takeWhile (· != '#'))
    | _ => none
  if path.all isPathChar && query?.all (·.all isQueryChar) then
    some (String.ofList path, query?.map String.ofList)
  else none

/-- What stands before `://`, and what behind, if that is a scheme. -/
def splitScheme? (cs : List Char) : Option (List Char × List Char) :=
  match cs.dropWhile isSchemeChar with
  | ':' :: '/' :: '/' :: rest => some (cs.takeWhile isSchemeChar, rest)
  | _ => none

/-- The form of a scheme: the two of the web in small letters, others as they are. -/
def normalScheme (scheme : List Char) : String :=
  let s := String.ofList scheme
  if sameIgnoringCase s "http" || sameIgnoringCase s "https" then lower s else s

/-- The target that is neither empty, nor a star, nor a path. -/
def parseFull? (cs : List Char) : Option Uri :=
  let endsAuthority (c : Char) : Bool := c == '/' || c == '?' || c == '#'
  let (scheme?, rest) := match splitScheme? cs with
    | some (scheme, rest) => (some scheme, rest)
    | none => (none, cs)
  let authority := rest.takeWhile (!endsAuthority ·)
  let behind := rest.dropWhile (!endsAuthority ·)
  if !isAuthority authority || authority.isEmpty then none
  else match scheme? with
    | none => if behind.isEmpty then some ⟨none, some (String.ofList authority), "", none⟩ else none
    | some scheme =>
      if scheme.length > maxSchemeLength then none
      else
        (pathAndQuery? behind).map fun (path, query) =>
          ⟨some (normalScheme scheme), some (String.ofList authority),
            if path.isEmpty then "/" else path, query⟩

/-- The target that a text writes. -/
def parse? (s : String) : Option Uri :=
  if s.utf8ByteSize > maxLength then none
  else match s.toList with
    | [] => none
    | ['*'] => some ⟨none, none, "*", none⟩
    | '/' :: rest =>
      (pathAndQuery? ('/' :: rest)).map fun (path, query) => ⟨none, none, path, query⟩
    | cs => parseFull? cs

/-! ### Parts -/

/-- The host, with the brackets that it may have. -/
def host? (u : Uri) : Option String :=
  u.authority.map fun a => String.ofList (hostOf a.toList)

/-- The port, if one is given. -/
def port? (u : Uri) : Option UInt16 := u.authority.bind fun a => portOf? a.toList

/-- Path and query as they stand in the first line of a request. -/
def pathAndQuery (u : Uri) : String :=
  u.path ++ match u.query with
    | some query => "?" ++ query
    | none => ""

end Uri

end ReverseTunnel.Http
