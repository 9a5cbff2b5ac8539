import ReverseTunnel.Control.Receive
import ReverseTunnel.Server.State

/-!
# Rehearsals

A server among scripted clients, with a clock, ports that other programs hold, and services
that fail when they are told to. It needs no network: each session goes on for as long as
nothing that it waits for is still to come.
-/

namespace ReverseTunnel.Server

/-- What a client does. -/
structure Script where
  /-- What it writes on its stream. -/
  input : Bytes
  /-- Whether it then ends the stream. -/
  ends : Bool := false
  /-- The random ids that are drawn for it. -/
  draws : List String := []
  /-- Whether it is still there. -/
  present : Bool := true

/-- Which requests to services fail. Places are given by their text. -/
structure Faults where
  validation : Bool := false
  identification : Bool := false
  /-- The lookups of places that fail, by how many times the place was looked up. -/
  lookups : List (String × Nat) := []
  /-- The places that cannot be reserved, and who gets them at that moment, if anybody does. -/
  reservations : List (String × Option TokenId) := []

/-- A server among scripted clients. -/
structure Rehearsal where
  settings : Settings
  system : System String := {}
  clients : Table String Script := {}
  faults : Faults := {}
  /-- The places that were looked up. -/
  lookups : List String := []
  /-- The ports that other programs hold. -/
  occupied : List UInt16 := []
  now : Int := 0
  /-- Whether the server is told to stop. -/
  stopping : Bool := false

namespace Rehearsal

/-- The first message of a client. If the client has gone, its stream has ended. -/
def reception? (script : Script) : Option Reception :=
  match Received.ofStream RawRequest.parse? script.input (script.ends || !script.present) with
  | .message raw => some (.request raw)
  | .failed _ => some .malformed
  | .ended => some .ended
  | .pending => none

/-- Whether the service that a call asks works. -/
def works (r : Rehearsal) : Call → Bool
  | .validate _ => !r.faults.validation
  | .identify _ => !r.faults.identification
  | .owner place =>
    !r.faults.lookups.contains (place.text, r.lookups.count place.text + 1)
  | .reserve _ place => !(r.faults.reservations.any (·.1 == place.text))
  | _ => true

/-- What surrounds a call, unless the call has to wait. -/
def circumstances? (r : Rehearsal) (script : Script) (call : Call) : Option Circumstances := do
  let arrives ← match call with
    | .receive => reception? script
    | .await => if script.present && !r.stopping then none else some .ended
    | .linger => if script.present then none else some .ended
    | _ => some .ended
  some {
    arrives
    works := r.works call
    connected := script.present
    bindable := match call with
      | .bind port => !r.occupied.contains port
      | _ => true
    draws := script.draws
    now := r.now }

/-- Notes that a place is looked up, and lets somebody else be faster where that is called
for. -/
def beforeCall (r : Rehearsal) : Call → Rehearsal
  | .owner place => { r with lookups := place.text :: r.lookups }
  | .reserve _ place =>
    match r.faults.reservations.find? (·.1 == place.text) with
    | some (_, some winner) =>
      { r with system.shared.store := r.system.shared.store.assign winner place }
    | _ => r
  | _ => r

/-- The reply to a call of a session, unless the call has to wait. -/
def reply? (me : String) (script : Script) (call : Call) (now : Rehearsal × Seat) :
    Option (call.Reply × Rehearsal × Seat) := do
  let (r, seat) := now
  let c ← r.circumstances? script call
  let r := r.beforeCall call
  let (reply, shared, seat) := perform me c r.system.shared seat call
  some (reply, { r with system.shared := shared }, seat)

/-- Lets a session go on as long as it has nothing to wait for. -/
def settle (r : Rehearsal) (me : String) : Rehearsal :=
  match r.system.sessions.get? me, r.clients.get? me with
  | some running, some script =>
    let (plan, r, seat) := running.plan.drive (reply? me script) (r, running.seat)
    { r with system.sessions := r.system.sessions.put me ⟨plan, seat⟩ }
  | _, _ => r

/-- A client connects and does what its script says. -/
def connect (r : Rehearsal) (me : String) (script : Script) : Rehearsal :=
  { r with
    system := r.system.enter r.settings me
    clients := r.clients.put me script }.settle me

/-- A client goes, and nobody asks for it again. -/
def disconnect (r : Rehearsal) (me : String) : Rehearsal :=
  match r.clients.get? me with
  | none => r
  | some script =>
    let r := { r with clients := r.clients.put me { script with present := false } }.settle me
    { r with clients := r.clients.erase me }

/-- The server is told to stop. -/
def stop (r : Rehearsal) : Rehearsal :=
  r.clients.keys.foldl settle { r with stopping := true }

/-- What a client was told. -/
def answer? (r : Rehearsal) (me : String) : Option Answer :=
  (r.system.sessions.get? me).bind (·.seat.answer)

/-- The clients, and whether each is still connected. -/
def connections (r : Rehearsal) : List (String × Bool) :=
  r.clients.entries.map fun (me, script) =>
    (me, script.present && !((r.system.sessions.get? me).any (·.seat.closed)))

end Rehearsal

end ReverseTunnel.Server
