import ReverseTunnel.Text.Basic
import ReverseTunnel.Text.Split

/-!
# Domain names

A tunnel is reached under one label in front of the tunnel domain. The same name is written in
many ways: in capitals, with a port, with a final dot, as part of a URL. Here is the one form
that all of them are brought to, and the label that is read off it.
-/

namespace ReverseTunnel.Domain

open Text

/-- The host in front of a port. A text that opens with a bracket is read up to the bracket
that closes it; otherwise the last colon cuts off a run of digits, unless another colon stands
before it. -/
def stripPort (cs : List Char) : List Char :=
  match cs with
  | '[' :: rest =>
    match splitFirst ']' rest with
    | some (host, _) => host
    | none => rest
  | _ =>
    match splitLast ':' cs with
    | some (host, port) => if !host.contains ':' && port.all isDigit then host else cs
    | none => cs

/-- The host without one dot at its end. -/
def stripDot (cs : List Char) : List Char := (dropEnd? ['.'] cs).getD cs

/-- The characters of `normalize`. -/
def normalizeChars (cs : List Char) : List Char :=
  (stripDot (stripPort (trimBy isBlank cs))).map Char.toLower

/-- The form under which a host is compared: no blanks around it, no port, no final dot, small
letters. -/
def normalize (host : String) : String := String.ofList (normalizeChars host.toList)

/-- The label in front of the tunnel domain that a public host names: exactly one, and not
empty. -/
def label? (host tunnelDomain : String) : Option String := do
  let domain := normalizeChars tunnelDomain.toList
  if domain.isEmpty then none
  else
    let front ← dropEnd? domain (normalizeChars host.toList)
    let label ← dropEnd? ['.'] front
    if label.isEmpty || label.contains '.' then none else some (String.ofList label)

/-- The host of a domain that is given bare or as a URL: what stands behind `://`, before the
path, query or fragment, and behind the last `@`. -/
def ofInput (value : String) : String :=
  let cs := trimBy isBlank value.toList
  let cs := match splitAtMark "://".toList cs with
    | some (_, rest) => rest
    | none => cs
  let cs := cs.takeWhile fun c => c != '/' && c != '?' && c != '#'
  let cs := match splitLast '@' cs with
    | some (_, host) => host
    | none => cs
  normalize (String.ofList cs)

/-- A character of a label: a small letter, a digit or a hyphen. -/
def isLabelChar (c : Char) : Bool := ('a' ≤ c && c ≤ 'z') || isDigit c || c == '-'

/-- A label of the domain name system in small letters: one to 63 characters, no hyphen at
either end. -/
def isLabel (s : String) : Bool :=
  let cs := s.toList
  !cs.isEmpty && cs.length ≤ 63 && cs.head? != some '-' && cs.getLast? != some '-'
    && cs.all isLabelChar

end ReverseTunnel.Domain
