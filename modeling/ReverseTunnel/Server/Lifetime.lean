import ReverseTunnel.Server.Rehearsal

/-!
# How long a session lives

A client that connects and stays silent is not waited for without end: it has some time to open
its stream, and some to go after it was turned down. All times are in milliseconds.
-/

namespace ReverseTunnel.Server

/-- The time that a client has to open its stream. -/
def acceptTime : Nat := 10000

/-- The time that a client has to go after it was turned down. -/
def lingerTime : Nat := 5000

/-- What an idle client does, once. -/
inductive IdleAct where
  | nothing
  | leaves
  /-- It opens its stream, writes, and ends the stream or does not. -/
  | writes (input : Bytes) (ends : Bool)
  deriving DecidableEq, Repr

/-- How a session went. -/
structure Lifetime where
  /-- What the client was told. -/
  answer : Option Answer
  /-- When the server ended the session, if it did. -/
  ended : Option Nat
  deriving DecidableEq, Repr

/-- The time of a session, what all sessions share, and the seat of this one. -/
structure IdleState where
  time : Nat := 0
  shared : Shared Unit := {}
  seat : Seat := {}

/-- The reply to a call of a session whose client acts once, after some time. -/
def idleReply? (after : Nat) (act : IdleAct) (call : Call) (s : IdleState) :
    Option (call.Reply × IdleState) := do
  let opens := match act with
    | .writes _ _ => after < acceptTime
    | _ => false
  let arrives ← match call, act with
    | .receive, .writes input ends => Rehearsal.reception? { input, ends }
    | .await, _ => none
    | _, _ => some .ended
  let time := match call with
    | .accept => if act = .nothing then acceptTime else min after acceptTime
    | .linger => s.time + lingerTime
    | _ => s.time
  let (reply, shared, seat) := perform () { opens, arrives } s.shared s.seat call
  some (reply, { time, shared, seat })

/-- The session of a client that acts once, after some time. -/
def lifetime (settings : Settings) (after : Nat) (act : IdleAct) : Lifetime :=
  let (plan, s) := (session settings).drive (idleReply? after act) {}
  ⟨s.seat.answer, if plan.isDone then some s.time else none⟩

end ReverseTunnel.Server
