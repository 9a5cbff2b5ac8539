import ReverseTunnel.Control.Message
import ReverseTunnel.Policy.Basic
import ReverseTunnel.Server.Store

/-!
# Plans of sessions

A session of the server is a plan: a finite tree of calls, each with one continuation for every
reply that it can get. A call is the least that happens at once. Whatever other sessions, the
client or the operating system do, they do between two calls; so the runs of many sessions are
the interleavings of their calls.

## Main definitions

* `Call`, `Call.Reply`: what a session asks for, and what it can be told.
* `Plan`: a session to come, as data. It is a monad, so plans are written one after another.
* `Plan.drive`: follows a plan as long as its calls are replied to.
-/

namespace ReverseTunnel.Server

/-- What the server says to a client. -/
inductive Answer where
  | http (answer : HttpTunnelAnswer)
  | tcp (answer : TcpTunnelAnswer)
  deriving DecidableEq, Repr

namespace Answer

/-- The answer as an object. -/
def toJson : Answer → Json.Value
  | .http answer => answer.toJson
  | .tcp answer => answer.toJson

/-- The answer that carries a rejection. Whoever asked for no known kind of tunnel is told as
if it had asked for a port. -/
def rejected (kind : Option TunnelKind) (r : Rejection) : Answer :=
  match kind with
  | some .http => .http (.rejected r)
  | _ => .tcp (.rejected r)

/-- The answer that grants a name. -/
def grantedName (id url : String) : Answer := .http (.granted id url)

/-- The answer that grants a port. -/
def grantedPort (port : UInt16) : Answer := .tcp (.granted port)

end Answer

/-- What comes first on the stream that a client opened. -/
inductive Reception where
  /-- A message that says at least what it is. -/
  | request (raw : RawRequest)
  /-- Bytes that are no message. -/
  | malformed
  /-- The end of the stream. -/
  | ended

/-- What a session asks for. -/
inductive Call where
  /-- The stream on which the client talks. -/
  | accept
  /-- The first message on it. -/
  | receive
  /-- Whether a token is valid. -/
  | validate (token : String)
  /-- Whom a token identifies. -/
  | identify (token : String)
  /-- Who has reserved a place. -/
  | owner (place : Place)
  /-- To have a place reserved. -/
  | reserve (token : TokenId) (place : Place)
  /-- A slot for one more tunnel of a token. -/
  | acquire (token : TokenId) (limit : Int)
  /-- Leave for one more request of a token. -/
  | create (token : TokenId) (limit : Int)
  /-- To give its slot back. -/
  | release
  /-- A random id that is free. -/
  | draw
  /-- To be found under an id. -/
  | register (id : String) (policy : Policy)
  /-- To be found under it no longer. -/
  | unregister (id : String)
  /-- To be found behind a port. -/
  | bind (port : UInt16)
  /-- To be found behind it no longer. -/
  | unbind (port : UInt16)
  /-- To have an answer sent, and to say nothing more. -/
  | send (answer : Answer)
  /-- To wait until the client or the server goes. -/
  | await
  /-- To give the client some time to read its answer and go. -/
  | linger
  /-- To end the connection. -/
  | close

/-- What a call can be told. `none` says that whoever was asked did not know how to reply. -/
@[reducible] def Call.Reply : Call → Type
  | .accept => Bool
  | .receive => Reception
  | .validate _ => Option Bool
  | .identify _ => Option (Option TokenId)
  | .owner _ => Option (Option TokenId)
  | .reserve _ _ => Bool
  | .acquire _ _ => Bool
  | .create _ _ => Bool
  | .draw => Option String
  | .register _ _ => Bool
  | .bind _ => Bool
  | .send _ => Bool
  | .release | .unregister _ | .unbind _ | .await | .linger | .close => Unit

/-- A session to come: its result, or a call and how it goes on after each reply. -/
inductive Plan (α : Type) where
  | done (result : α)
  | ask (call : Call) (next : call.Reply → Plan α)

namespace Plan

variable {α β S : Type}

/-- One plan after another. -/
def bind : Plan α → (α → Plan β) → Plan β
  | .done a, f => f a
  | .ask call next, f => .ask call fun reply => (next reply).bind f

instance : Monad Plan where
  pure := .done
  bind := bind

/-- Follows a plan through the calls that are replied to, up to the first one that is not. -/
def drive (reply? : (call : Call) → S → Option (call.Reply × S)) : Plan α → S → Plan α × S
  | .done a, s => (.done a, s)
  | .ask call next, s =>
    match reply? call s with
    | none => (.ask call next, s)
    | some (reply, s) => (next reply).drive reply? s

/-- Whether nothing is left to do. -/
def isDone : Plan α → Bool
  | .done _ => true
  | .ask _ _ => false

end Plan

/-- The plan of one call. -/
def call (c : Call) : Plan c.Reply := .ask c .done

/-- A plan that ends early if the request is rejected. -/
abbrev Trial (α : Type) := ExceptT Rejection Plan α

/-- The trial of one call. -/
def ask (c : Call) : Trial c.Reply := ExceptT.lift (call c)

end ReverseTunnel.Server
