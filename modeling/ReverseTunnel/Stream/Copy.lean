import ReverseTunnel.Stream.Preview

/-!
# Copying a stream

What is read is counted, then written, piece by piece, until the stream ends; then the end is
passed on. The count is of bytes read, so that it stands ahead of the bytes written while a
piece is on its way.
-/

namespace ReverseTunnel

/-- The most bytes that are read at once. -/
def copyBufferSize : Nat := 32768

/-- What a copy left behind: the source and the sink, the bytes counted, and its result, the
number of bytes copied. -/
structure CopyRun where
  tap : Tap
  sink : Sink
  counter : Nat
  result : Except IoError Nat

/-- Copies until the stream ends or fails, with `counter` bytes counted and `total` of them
copied so far. -/
def copyFrom (tap : Tap) (sink : Sink) (counter total : Nat) : CopyRun :=
  match h : tap.read copyBufferSize with
  | (.error e, tap) => ⟨tap, sink, counter, .error e⟩
  | (.ok got, tap') =>
    if hne : got = [] then ⟨tap', sink.finish, counter, .ok total⟩
    else
      match sink.write got with
      | (.error e, sink) => ⟨tap', sink, counter + got.length, .error e⟩
      | (.ok (), sink) =>
        have := Tap.remaining_lt h hne
        copyFrom tap' sink (counter + got.length) (total + got.length)
  termination_by tap.remaining

/-- Copies a whole stream. -/
def copy (tap : Tap) (sink : Sink) : CopyRun := copyFrom tap sink 0 0

end ReverseTunnel
