import ReverseTunnel.Address.Socket
import ReverseTunnel.Http.Header
import ReverseTunnel.Text.Split

/-!
# The address of a visitor

A visitor is known by the address that its connection comes from. Behind a proxy that the
operator trusts, it is the address that the proxy names.
-/

namespace ReverseTunnel.Visitor

open Text

/-- The address in a forwarding field: an address or a socket address, with or without
brackets. -/
def parseAddress? (text : String) : Option Ip :=
  let cs := (text.toList.dropWhile (· == '[')).reverse.dropWhile (· == ']') |>.reverse
  match Ip.parseChars? .standard cs with
  | some ip => some ip.unmap
  | none => (SocketAddress.parseChars? cs).map fun socket => socket.ip.unmap

/-- The first entry of the first `X-Forwarded-For` field. -/
def forwardedFor? (headers : Http.Headers) : Option String := do
  let text ← headers.text? "x-forwarded-for"
  let entry := trim (String.ofList (text.toList.takeWhile (· != ',')))
  if entry.isEmpty then none else some entry

/-- The first `X-Real-IP` field. -/
def realIp? (headers : Http.Headers) : Option String := do
  let entry := trim (← headers.text? "x-real-ip")
  if entry.isEmpty then none else some entry

/-- The address of a visitor. With trust, a forwarding field that says something decides, and
gives no address if it is none. -/
def address? (trust : Bool) (headers : Http.Headers) (peer : Ip) : Option Ip :=
  match if trust then (forwardedFor? headers).or (realIp? headers) else none with
  | some entry => parseAddress? entry
  | none => some peer.unmap

end ReverseTunnel.Visitor
