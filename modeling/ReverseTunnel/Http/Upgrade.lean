import ReverseTunnel.Http.Header
import ReverseTunnel.Http.Uri

/-!
# The way in for clients

A client reaches its server with a request to one path of the public listener, by which it asks
to go on with another protocol on the same connection.
-/

namespace ReverseTunnel.Http

open Text

/-- The path at which clients are received. -/
def controlPath : String := "/control"

/-- The protocol that clients go on with. -/
def controlProtocol : String := "sluice-mux/1"

/-- Whether a request asks to go on as a client: the first `Upgrade` field decides. -/
def isControlUpgrade (method : String) (uri : Uri) (headers : Headers) : Bool :=
  method == "GET" && uri.path == controlPath
    && (headers.text? "upgrade").any fun value =>
      sameIgnoringCase (trim value) controlProtocol

end ReverseTunnel.Http
