import ReverseTunnel.Client.HostLine
import ReverseTunnel.TunnelError

/-!
# One direction of a bridge

A direction passes a stream on while other things happen: it reads a piece, counts it, writes it,
sends it on its way, and reads again, until the stream ends and the end is passed on. It may have to
collect the head of the stream first, to give it another host. What comes next is not in its hands;
what can come next are the events below, and a direction can be stopped between any two of them.

`copy` and `copyWithHost` are such a direction that nothing interrupts.
-/

namespace ReverseTunnel

/-- The failure of a stream that takes none of the bytes that it is given. -/
def IoError.writeZero : IoError := ⟨"write zero"⟩

/-- Where one direction stands. -/
inductive Direction.Phase where
  /-- It collects a head that is to get this host. No terminator begins in the first `scanned`
  bytes. -/
  | collecting (host : String) (scanned : Nat)
  /-- It waits for the next piece. -/
  | reading
  /-- These bytes are still to be written. -/
  | writing (pending : Bytes)
  /-- What was written is to be sent on its way. -/
  | flushing
  /-- The stream has ended, and the end is to be passed on. -/
  | closing
  /-- It is over. -/
  | ended (result : Except IoError Nat)
  /-- It was stopped before it was over. -/
  | halted

/-- One direction of a bridge: the bytes read and the bytes written so far, the number of bytes as
others can see it and as the direction will report it, and what is kept for somebody who watches. -/
structure Direction where
  taken : Bytes := []
  delivered : Bytes := []
  counter : Nat := 0
  total : Nat := 0
  preview : Option Preview := none
  phase : Direction.Phase := .reading

namespace Direction

/-- A direction at its beginning: with a host for the head of the stream, if it is to get another
one. -/
def start (host : Option String) (preview : Option Preview) : Direction where
  preview
  phase := host.elim .reading fun host => .collecting host 0

/-- What happens in one direction. -/
inductive Event where
  /-- A piece arrives. -/
  | read (bytes : Bytes)
  /-- The stream to read from ends. -/
  | eof
  /-- The stream to read from fails. -/
  | readFails (failure : IoError)
  /-- So many of the bytes to be written are accepted. -/
  | write (count : Nat)
  /-- The stream to write to fails. -/
  | writeFails (failure : IoError)
  /-- What was written is on its way. -/
  | flushed
  /-- The end was passed on. -/
  | closed
  /-- The task that runs the direction breaks down. -/
  | dies (failure : IoError)

/-- Bytes were read: they are counted, and shown to whoever watches. -/
def take (d : Direction) (bytes : Bytes) : Direction :=
  { d with
    taken := d.taken ++ bytes
    counter := d.counter + bytes.length
    total := d.total + bytes.length
    preview := d.preview.map (·.push bytes) }

/-- Bytes are to be written, if there are any. -/
def send (d : Direction) (bytes : Bytes) : Direction :=
  { d with phase := if bytes.isEmpty then .flushing else .writing bytes }

/-- Some of the bytes to be written were accepted. A stream that takes nothing has failed. -/
def deliver (d : Direction) (pending : Bytes) (count : Nat) : Direction :=
  if count = 0 then { d with phase := .ended (.error .writeZero) }
  else { d with delivered := d.delivered ++ pending.take count }.send (pending.drop count)

/-- What has been read goes on if it is a complete head, or too long for one. -/
def collect (d : Direction) (host : String) (scanned : Nat) : Direction :=
  match Head.lengthFrom? scanned d.taken with
  | some n => d.send (withHostIfComplete d.taken (some n) host)
  | none =>
    if d.taken.length ≥ maxHeadLength then d.send (withHostIfComplete d.taken none host)
    else { d with phase := .collecting host (d.taken.length - (Head.terminator.length - 1)) }

/-- Whether bytes can be what one read gives: there are some, and no more than asked for. -/
def isPiece (limit : Nat) (bytes : Bytes) : Bool := !bytes.isEmpty && bytes.length ≤ limit

/-- One event. What cannot happen in a phase leaves the direction as it is. Whether the end could be
passed on makes no difference. -/
def step (d : Direction) (event : Event) : Direction :=
  match d.phase, event with
  | .ended _, _ | .halted, _ => d
  | _, .dies e => { d with phase := .ended (.error e) }
  | .collecting host scanned, .read bytes =>
    if isPiece headBufferSize bytes then (d.take bytes).collect host scanned else d
  | .collecting host _, .eof => d.send (withHostIfComplete d.taken none host)
  | .collecting _ _, .readFails e => { d with phase := .ended (.error e) }
  | .reading, .read bytes =>
    if isPiece copyBufferSize bytes then (d.take bytes).send bytes else d
  | .reading, .eof => { d with phase := .closing }
  | .reading, .readFails e => { d with phase := .ended (.error e) }
  | .writing pending, .write count => d.deliver pending count
  | .writing _, .writeFails e => { d with phase := .ended (.error e) }
  | .flushing, .flushed => { d with phase := .reading }
  | .flushing, .writeFails e => { d with phase := .ended (.error e) }
  | .closing, .closed | .closing, .writeFails _ => { d with phase := .ended (.ok d.total) }
  | _, _ => d

/-- The direction after some events. -/
def run (d : Direction) (events : List Event) : Direction := events.foldl step d

/-- The direction is stopped, unless it is over. -/
def halt (d : Direction) : Direction :=
  match d.phase with
  | .ended _ => d
  | _ => { d with phase := .halted }

/-- How a direction ended, if it has. -/
def outcome? (d : Direction) : Option (Except TunnelError Unit) :=
  match d.phase with
  | .ended (.ok _) => some (.ok ())
  | .ended (.error e) => some (.error (.io e.message))
  | _ => none

end Direction

end ReverseTunnel
