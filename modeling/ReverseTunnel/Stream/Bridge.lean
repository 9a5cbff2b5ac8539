import ReverseTunnel.Stream.Direction

/-!
# Bridging two connections

A bridge passes bytes between two connections in both directions at once. It ends with the first
direction that ends, or when it is cancelled. The two directions, the cancellation and the task
that watches them take their steps in any order; the steps are the events below.

The watching task looks at everything in one step. What a direction does while another one is looked
at may as well come after the look, since neither waits for the other.
-/

namespace ReverseTunnel

/-- Where the watching task stands. -/
inductive Bridge.Phase where
  /-- Both directions go on. -/
  | running
  /-- An end was seen, and the directions are to be stopped. -/
  | stopped (outcome : Except TunnelError Unit)
  /-- The bridge is over. -/
  | returned (result : Except TunnelError Unit)

/-- A bridge between two connections, the first of which is ahead in every tie. -/
structure Bridge where
  forward : Direction := {}
  backward : Direction := {}
  cancelled : Bool := false
  phase : Bridge.Phase := .running

namespace Bridge

/-- What happens at a bridge. -/
inductive Event where
  | forward (event : Direction.Event)
  | backward (event : Direction.Event)
  | cancel
  /-- The watching task looks whether anything has ended. -/
  | observe
  /-- The direction forward notices that it is to stop. -/
  | haltForward
  /-- The direction backward notices that it is to stop. -/
  | haltBackward
  /-- The watching task gives its result. -/
  | return

/-- What the watching task sees first: the cancellation, then the direction forward, then the
direction backward. -/
def seen? (b : Bridge) : Option (Except TunnelError Unit) :=
  if b.cancelled then some (.error .cancelled) else b.forward.outcome?.or b.backward.outcome?

/-- Whether nothing has been seen that ends the bridge. -/
def isRunning (b : Bridge) : Bool :=
  match b.phase with
  | .running => true
  | _ => false

/-- One event. Once an end was seen, each direction goes on until it notices that it is to stop. -/
def step (b : Bridge) : Event → Bridge
  | .cancel => { b with cancelled := true }
  | .forward event => { b with forward := b.forward.step event }
  | .backward event => { b with backward := b.backward.step event }
  | .observe =>
    match b.phase, b.seen? with
    | .running, some outcome => { b with phase := .stopped outcome }
    | _, _ => b
  | .haltForward => if b.isRunning then b else { b with forward := b.forward.halt }
  | .haltBackward => if b.isRunning then b else { b with backward := b.backward.halt }
  | .return =>
    match b.phase with
    | .stopped outcome =>
      { b with phase := .returned (if b.cancelled then .error .cancelled else outcome) }
    | _ => b

/-- The bridge after some events. -/
def run (b : Bridge) (events : List Event) : Bridge := events.foldl step b

/-- The result of the bridge, when it is over. -/
def result? (b : Bridge) : Option (Except TunnelError Unit) :=
  match b.phase with
  | .returned result => some result
  | _ => none

/-! ### Connections that take everything -/

/-- The events by which bytes pass a direction whose writer takes everything at once. -/
def passing (bytes : Bytes) : List Direction.Event :=
  if bytes.isEmpty then []
  else
    .read (bytes.take copyBufferSize) :: .write copyBufferSize :: .flushed
      :: passing (bytes.drop copyBufferSize)
  termination_by bytes.length
  decreasing_by
    cases bytes with
    | nil => simp_all
    | cons b bs =>
      rw [List.length_drop, List.length_cons, copyBufferSize]
      omega

/-- The ends that are there are passed on. The watching task looks and, if it saw an end, stops the
directions and gives its result. -/
def settle (b : Bridge) : Bridge :=
  b.run [.forward .closed, .backward .closed, .observe, .haltForward, .haltBackward, .return]

end Bridge

end ReverseTunnel
