import ReverseTunnel.Http.Header
import ReverseTunnel.Text.Split

/-!
# Fields that concern one connection

Some fields say how two neighbours use the connection between them, and every request may name
more in its `Connection` field. None of them is passed on; only a request to go on with another
protocol keeps the two fields that ask for it.
-/

namespace ReverseTunnel.Http

open Text

/-- The fields that always concern one connection. -/
def hopByHop : List String := ["connection", "proxy-connection", "keep-alive", "te", "trailer",
  "transfer-encoding", "upgrade"]

/-- The words that the `Connection` fields list, in small letters and without blanks around
them. Fields that are not visible text list nothing. -/
def Headers.connectionWords (headers : Headers) : List String :=
  let texts := (headers.values "connection").filterMap visible?
  (texts.flatMap fun text => text.toList.splitOn ',').map fun word =>
    lower (trim (String.ofList word))

/-- The protocol with which a request asks to go on, if it does. -/
def Headers.upgrade? (headers : Headers) : Option Bytes :=
  if headers.connectionWords.contains "upgrade" then headers.get? "upgrade" else none

/-- The fields without those that concern one connection. -/
def Headers.stripHop (headers : Headers) (keepsUpgrade : Bool) : Headers :=
  let kept (name : String) : Bool :=
    keepsUpgrade && (name == "connection" || name == "upgrade")
  headers.removeAll
    ((headers.connectionWords.filter fun word => !word.isEmpty) ++ hopByHop |>.filter (!kept ·))

end ReverseTunnel.Http
