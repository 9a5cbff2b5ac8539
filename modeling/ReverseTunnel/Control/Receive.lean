import ReverseTunnel.Control.Line

/-!
# The first message on a stream

Both ends of a control stream say one thing and listen for one message. Bytes are taken in as
far as there is room for them; the room doubles until a message is complete, is too large, or
the stream ends.
-/

namespace ReverseTunnel

/-- What came first on a stream. -/
inductive Received (α : Type) where
  | message (message : α)
  | failed (error : LineError)
  /-- The stream ended before a message began. -/
  | ended
  /-- A message is not complete, and more bytes may come. -/
  | pending
  deriving DecidableEq, Repr

namespace Received

variable {α : Type}

/-- The rooms for bytes, one after another. The last one is above the limit for messages, so
that nothing is left open when it is full. -/
def rooms : List Nat := [8192, 16384, 32768, 65536, 131072]

/-- What a decoder says about the end of the stream. -/
def atEnd (parse? : Bytes → Option α) (d : LineDecoder) : Received α :=
  match (d.finish maxMessageLength parse?).1 with
  | .ok (some found) => .message found
  | .ok none => .ended
  | .error e => .failed e

/-- Reads on with the rooms that are left. -/
def within (parse? : Bytes → Option α) (input : Bytes) (ends : Bool) :
    List Nat → LineDecoder → Received α
  | [], d => if ends then atEnd parse? d else .pending
  | room :: rooms, d =>
    let known := d.buffered.length
    match (d.push ((input.drop known).take (room - known))).decode maxMessageLength parse? with
    | (.ok (some found), _) => .message found
    | (.error e, _) => .failed e
    | (.ok none, d) =>
      if room < input.length then within parse? input ends rooms d
      else if ends then atEnd parse? d
      else .pending

/-- The first message of a stream on which these bytes arrive, and then its end or nothing. -/
def ofStream (parse? : Bytes → Option α) (input : Bytes) (ends : Bool) : Received α :=
  within parse? input ends rooms {}

end Received

end ReverseTunnel
