import ReverseTunnel.Capture.Timestamp
import ReverseTunnel.Text.Number
import ReverseTunnel.Text.Split
import ReverseTunnel.Text.Utf8

/-!
# Captured exchanges

What is told about a request and its response, read off the first bytes of either direction.
A direction that does not begin with the head of such a message tells nothing.
-/

namespace ReverseTunnel

open Text

/-- A request and its response, in short. -/
structure Exchange where
  startedAt : Timestamp
  /-- How long it took, in microseconds. -/
  duration : Nat
  method : String
  path : String
  host : Option String
  /-- The status of the response, if its head was seen. -/
  status : Option Nat
  requestHeaders : List (String × String)
  responseHeaders : List (String × String)
  bytesIn : Nat
  bytesOut : Nat
  deriving DecidableEq, Repr

/-- What was collected while an exchange passed. -/
structure ExchangeTaps where
  startedAt : Timestamp
  duration : Nat
  request : Bytes
  response : Bytes
  bytesIn : Nat
  bytesOut : Nat

namespace Exchange

/-- The lines of the head at the start of the bytes, if it is complete and text. -/
def headLines? (bytes : Bytes) : Option (List (List Char)) := do
  let (head, _) ← splitAtMark [0x0D, 0x0A, 0x0D, 0x0A] bytes
  let text ← Utf8.decode? head
  some (splitLines [] text.toList)
where
  /-- The lines of the remaining characters, the characters of the current one newest first. -/
  splitLines (line : List Char) : List Char → List (List Char)
    | [] => [line.reverse]
    | '\r' :: '\n' :: rest => line.reverse :: splitLines [] rest
    | c :: rest => splitLines (c :: line) rest

/-- A header line: a name and a value, blanks around them aside. -/
def header? (line : List Char) : Option (String × String) :=
  (splitFirst ':' line).map fun (name, value) =>
    (String.ofList (trimBy isBlank name), String.ofList (trimBy isBlank value))

/-- Whether a word names a version of the protocol. -/
def isVersion (word : List Char) : Bool := "HTTP/".toList.isPrefixOf word

/-- The method, the path and the headers of a request head. -/
def requestHead? (bytes : Bytes) : Option (String × String × List (String × String)) := do
  let lines ← headLines? bytes
  match lines with
  | [] => none
  | first :: rest =>
    match first.splitOn ' ' with
    | method :: path :: version :: _ =>
      if method.isEmpty || path.isEmpty || !isVersion version then none
      else some (String.ofList method, String.ofList path, rest.filterMap header?)
    | _ => none

/-- The status and the headers of a response head. -/
def responseHead? (bytes : Bytes) : Option (Nat × List (String × String)) := do
  let lines ← headLines? bytes
  match lines with
  | [] => none
  | first :: rest =>
    match first.splitOn ' ' with
    | version :: status :: _ =>
      if isVersion version then
        (unsigned? 65536 (String.ofList status)).map (·, rest.filterMap header?)
      else none
    | _ => none

/-- The exchange that was collected, if its request begins with a head. -/
def ofTaps? (taps : ExchangeTaps) : Option Exchange := do
  let (method, path, requestHeaders) ← requestHead? taps.request
  let response? := responseHead? taps.response
  some {
    startedAt := taps.startedAt
    duration := taps.duration
    method, path, requestHeaders
    host := (requestHeaders.find? fun h => sameIgnoringCase h.1 "host").map (·.2)
    status := response?.map (·.1)
    responseHeaders := (response?.map (·.2)).getD []
    bytesIn := taps.bytesIn
    bytesOut := taps.bytesOut }

end Exchange

/-! ### Recent exchanges -/

/-- The exchanges that passed last, oldest first. -/
structure RecentExchanges where
  exchanges : List Exchange := []

namespace RecentExchanges

/-- How many exchanges are kept. -/
def capacity : Nat := 100

/-- Adds an exchange; the oldest leaves when there are too many. -/
def record (r : RecentExchanges) (e : Exchange) : RecentExchanges :=
  let all := r.exchanges ++ [e]
  ⟨if all.length > capacity then all.drop 1 else all⟩

end RecentExchanges

end ReverseTunnel
