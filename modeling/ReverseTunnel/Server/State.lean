import ReverseTunnel.Control.Line
import ReverseTunnel.Server.RateLimiter
import ReverseTunnel.Server.Session

/-!
# The state of the server

What all sessions share, what each session has of its own, and what one call does to both. A
step runs one call of one session; which session is next, and whatever is not in the server's
hands, is decided from outside. So a sequence of steps is one interleaving of the sessions.

## Main definitions

* `Shared`, `Seat`: the state that all sessions share, and the state of one.
* `Circumstances`: what is decided outside the server.
* `perform`: the reply to a call, and the state after it.
* `System.step`: one call of one session.
-/

namespace ReverseTunnel.Server

/-- What all sessions share. `σ` names the sessions. -/
structure Shared (σ : Type) where
  store : Store := {}
  limiter : Limiter := {}
  rates : RateLimiter Float := {}
  registry : Registry σ := {}
  /-- The ports that are bound, and by whom. -/
  listeners : Table UInt16 σ := {}

/-- What one session has of its own. -/
structure Seat where
  /-- Its slot, if it has taken one. -/
  slot : Slot := .returned
  /-- What it told its client. -/
  answer : Option Answer := none
  /-- Whether it ended the connection. -/
  closed : Bool := false
  deriving DecidableEq, Repr

/-- What is decided outside the server at the time of a call. -/
structure Circumstances where
  /-- Whether the client opens a stream in time. -/
  opens : Bool := true
  /-- What arrives on that stream. -/
  arrives : Reception := .ended
  /-- Whether the service that is asked about tokens and places works. -/
  works : Bool := true
  /-- Whether the client can still be told something. -/
  connected : Bool := true
  /-- Whether the operating system lets a port be bound. -/
  bindable : Bool := true
  /-- The random ids that are drawn. -/
  draws : List String := []
  /-- The time in nanoseconds. -/
  now : Int := 0

section

variable {σ : Type}

/-- The reply to a call, and the state after it. -/
def perform (me : σ) (c : Circumstances) (shared : Shared σ) (seat : Seat) :
    (call : Call) → call.Reply × Shared σ × Seat
  | .accept => (c.opens, shared, seat)
  | .receive => (c.arrives, shared, seat)
  | .validate token => (if c.works then some (shared.store.valid token) else none, shared, seat)
  | .identify token =>
    (if c.works then some (shared.store.tokenId? token) else none, shared, seat)
  | .owner place => (if c.works then some (shared.store.owner? place) else none, shared, seat)
  | .reserve token place =>
    match if c.works then shared.store.reserve? token place else none with
    | some store => (true, { shared with store }, seat)
    | none => (false, shared, seat)
  | .acquire token limit =>
    match shared.limiter.acquire? token limit with
    | some (slot, limiter) => (true, { shared with limiter }, { seat with slot })
    | none => (false, shared, seat)
  | .create token limit =>
    let (allowed, rates) := shared.rates.allow c.now token limit
    (allowed, { shared with rates }, seat)
  | .release =>
    let (slot, limiter) := shared.limiter.release seat.slot
    ((), { shared with limiter }, { seat with slot })
  | .draw => ((shared.registry.allocate c.draws).toOption, shared, seat)
  | .register id policy =>
    match shared.registry.register ⟨id, me, policy⟩ with
    | .ok (_, registry) => (true, { shared with registry }, seat)
    | .error _ => (false, shared, seat)
  | .unregister id => ((), { shared with registry := shared.registry.unregister id }, seat)
  | .bind port =>
    if c.bindable && !shared.listeners.contains port then
      (true, { shared with listeners := shared.listeners.put port me }, seat)
    else (false, shared, seat)
  | .unbind port => ((), { shared with listeners := shared.listeners.erase port }, seat)
  | .send answer =>
    match encodeLine maxMessageLength answer.toJson with
    | .ok _ =>
      if c.connected then (true, shared, { seat with answer := some answer })
      else (false, shared, seat)
    | .error _ => (false, shared, seat)
  | .await => ((), shared, seat)
  | .linger => ((), shared, seat)
  | .close => ((), shared, { seat with closed := true })

end

/-- A session on its way. -/
structure Running where
  plan : Plan Unit
  seat : Seat := {}

/-- The server with its sessions. -/
structure System (σ : Type) where
  shared : Shared σ := {}
  sessions : Table σ Running := {}

namespace System

variable {σ : Type} [DecidableEq σ]

/-- A client connects. -/
def enter (settings : Settings) (system : System σ) (me : σ) : System σ :=
  { system with sessions := system.sessions.put me { plan := session settings } }

/-- Runs one call of one session. -/
def step (system : System σ) (me : σ) (c : Circumstances) : System σ :=
  match system.sessions.get? me with
  | some ⟨.ask call next, seat⟩ =>
    let (reply, shared, seat) := perform me c system.shared seat call
    ⟨shared, system.sessions.put me ⟨next reply, seat⟩⟩
  | _ => system

end System

end ReverseTunnel.Server
