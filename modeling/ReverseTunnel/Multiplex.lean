import ReverseTunnel.Stream.Source
import ReverseTunnel.TunnelError

/-!
# Many streams over one connection

A session carries any number of streams between its two ends. Either end may open one; the
other end finds it in its queue of streams to accept, unless that queue is full. Closing either
end closes the session for both.

What one end of a stream sends lies at the other end until that end looks, which it does when it
reads or writes. Once it has seen that the other end sends no more it looks no further.
-/

namespace ReverseTunnel

/-- The two ends of a session. -/
inductive End where
  | client
  | server
  deriving DecidableEq, Repr

/-- The other end. -/
def End.other : End → End
  | .client => .server
  | .server => .client

/-! ### One end of a stream -/

/-- What arrives at an end of a stream. -/
inductive Arrival where
  | bytes (bytes : Bytes)
  /-- The other end sends no more. -/
  | ending
  /-- The other end was given up. -/
  | reset
  deriving DecidableEq, Repr

/-- How far an end of a stream has got. -/
inductive StreamPhase where
  /-- It sends and hears. -/
  | live
  /-- It sends no more. -/
  | ended
  /-- The other end sends no more. -/
  | deaf
  /-- Neither of them. -/
  | over
  /-- The other end was given up. -/
  | reset
  deriving DecidableEq, Repr

/-- Whether an end may still send. -/
def StreamPhase.sends : StreamPhase → Bool
  | .live | .deaf => true
  | .ended | .over | .reset => false

/-- Whether an end may still hear something. -/
def StreamPhase.hears : StreamPhase → Bool
  | .live | .ended => true
  | .deaf | .over | .reset => false

/-- One end of a stream. -/
structure StreamEnd where
  phase : StreamPhase := .live
  /-- What arrived and was not looked at, oldest first. -/
  arrived : List Arrival := []
  /-- The bytes that were looked at and not read. -/
  buffer : Bytes := []
  deriving DecidableEq, Repr

namespace StreamEnd

/-- Looks at one thing that arrived. -/
def see (e : StreamEnd) : Arrival → StreamEnd
  | .bytes bytes => { e with buffer := e.buffer ++ bytes }
  | .ending =>
    match e.phase with
    | .live => { e with phase := .deaf }
    | .ended => { e with phase := .over }
    | _ => e
  | .reset => { e with phase := .reset }

/-- Looks at things that arrived, until it is known that the other end sends no more. -/
def seeAll (e : StreamEnd) : List Arrival → StreamEnd
  | [] => { e with arrived := [] }
  | arrival :: rest =>
    if e.phase = .deaf then { e with arrived := arrival :: rest }
    else (e.see arrival).seeAll rest

/-- Looks at what arrived. -/
def look (e : StreamEnd) : StreamEnd := e.seeAll e.arrived

/-- Looks before a read: not if everything was read that there will be. -/
def lookToRead (e : StreamEnd) : StreamEnd :=
  if e.buffer.isEmpty && !e.phase.hears then e else e.look

/-- Something arrives, unless both ends are through with the stream. -/
def receive (e : StreamEnd) (arrival : Arrival) : StreamEnd :=
  if e.phase = .over then e else { e with arrived := e.arrived ++ [arrival] }

end StreamEnd

/-! ### Sessions -/

/-- A stream, by its two ends. -/
structure MuxStream where
  client : StreamEnd := {}
  server : StreamEnd := {}
  deriving DecidableEq, Repr

/-- One end of a stream, by the number of the stream. -/
structure StreamHandle where
  stream : Nat
  side : End
  deriving DecidableEq, Repr

/-- The same stream at the other end. -/
def StreamHandle.other (h : StreamHandle) : StreamHandle := { h with side := h.side.other }

/-- A session: its streams by number, and the streams that each end has still to accept. -/
structure MuxSession where
  streams : Array MuxStream := #[]
  clientQueue : List Nat := []
  serverQueue : List Nat := []
  closed : Bool := false
  deriving DecidableEq, Repr

namespace MuxSession

/-- How many streams an end may have still to accept. -/
def backlog : Nat := 256

/-- The streams that an end has still to accept. -/
def queue (s : MuxSession) : End → List Nat
  | .client => s.clientQueue
  | .server => s.serverQueue

/-- The session with another queue at an end. -/
def setQueue (s : MuxSession) (side : End) (queue : List Nat) : MuxSession :=
  match side with
  | .client => { s with clientQueue := queue }
  | .server => { s with serverQueue := queue }

/-- The end of a stream that a handle stands for. -/
def streamEnd (s : MuxSession) (h : StreamHandle) : StreamEnd :=
  match s.streams[h.stream]?, h.side with
  | some stream, .client => stream.client
  | some stream, .server => stream.server
  | none, _ => {}

/-- The session with another end of a stream. -/
def setEnd (s : MuxSession) (h : StreamHandle) (e : StreamEnd) : MuxSession :=
  { s with streams := s.streams.modify h.stream fun stream =>
      match h.side with
      | .client => { stream with client := e }
      | .server => { stream with server := e } }

/-- Sends something to the other end of a stream. -/
def send (s : MuxSession) (h : StreamHandle) (arrival : Arrival) : MuxSession :=
  if s.closed then s else s.setEnd h.other ((s.streamEnd h.other).receive arrival)

/-! ### Opening and accepting -/

/-- Gives up one end of a stream. -/
def giveUp (s : MuxSession) (h : StreamHandle) : MuxSession :=
  let e := s.streamEnd h
  if e.phase = .over then s else (s.send h .reset).setEnd h { phase := .over }

/-- Opens a stream. The other end gives it up if it has too many still to accept. -/
def openStream (s : MuxSession) (side : End) : Except TunnelError (StreamHandle × MuxSession) :=
  if s.closed then .error .connectionClosed
  else
    let h : StreamHandle := ⟨s.streams.size, side⟩
    let waiting := s.queue side.other
    let s := { s with streams := s.streams.push {} }
    if waiting.length ≥ backlog then .ok (h, s.giveUp h.other)
    else .ok (h, s.setQueue side.other (waiting ++ [h.stream]))

/-- Takes the next stream that the other end has opened, if there is one. -/
def accept (s : MuxSession) (side : End) :
    Except TunnelError (Option StreamHandle × MuxSession) :=
  if s.closed then .error .connectionClosed
  else match s.queue side with
    | [] => .ok (none, s)
    | number :: rest => .ok (some ⟨number, side⟩, s.setQueue side rest)

/-- Opens streams until so many are open or one cannot be opened, and says how many were. -/
def openMany (s : MuxSession) (side : End) : Nat → Nat × MuxSession
  | 0 => (0, s)
  | n + 1 =>
    match s.openStream side with
    | .ok (_, s) =>
      let (opened, s) := s.openMany side n
      (opened + 1, s)
    | .error _ => (0, s)

/-- Takes all streams that the other end has opened, and says how many. -/
def acceptAll (s : MuxSession) (side : End) : Nat × MuxSession :=
  if s.closed then (0, s) else ((s.queue side).length, s.setQueue side [])

/-! ### Sending and reading -/

/-- Sends bytes, and says whether that was possible. To send none is always possible. -/
def write (s : MuxSession) (h : StreamHandle) (bytes : Bytes) : Bool × MuxSession :=
  if bytes.isEmpty then (true, s)
  else
    let e := (s.streamEnd h).look
    let s := s.setEnd h e
    if s.closed || !e.phase.sends then (false, s) else (true, s.send h (.bytes bytes))

/-- What a read of a fixed number of bytes finds. -/
inductive ReadOutcome where
  | bytes (bytes : Bytes)
  /-- The stream ends before so many bytes. -/
  | eof
  /-- More bytes may come, but have not. -/
  | pending
  deriving DecidableEq, Repr

/-- Reads exactly so many bytes. Bytes that were too few are gone. -/
def readExact (s : MuxSession) (h : StreamHandle) (count : Nat) : ReadOutcome × MuxSession :=
  if count = 0 then (.bytes [], s)
  else
    let e := (s.streamEnd h).lookToRead
    let s := s.setEnd h { e with buffer := e.buffer.drop count }
    if e.buffer.length ≥ count then (.bytes (e.buffer.take count), s)
    else if s.closed || !e.phase.hears then (.eof, s)
    else (.pending, s)

/-- Ends the way on which a handle sends. To end it a second time gives up hearing, too. -/
def finish (s : MuxSession) (h : StreamHandle) : MuxSession :=
  let e := s.streamEnd h
  match e.phase with
  | .live => (s.send h .ending).setEnd h { e with phase := .ended }
  | .deaf => (s.send h .ending).setEnd h { e with phase := .over }
  | .ended | .over | .reset => s.setEnd h { e with phase := .over }

/-- Closes the session, for both ends. -/
def close (s : MuxSession) : MuxSession := { s with closed := true }

end MuxSession

end ReverseTunnel
