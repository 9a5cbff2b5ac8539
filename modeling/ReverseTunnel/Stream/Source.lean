import ReverseTunnel.Bytes

/-!
# Streams of bytes

A stream is read in pieces, and how large they are is for the other side to decide. Here a
source is a list of the pieces that will arrive, and a sink a store with the room that is left
in it.

## Main results

* `Source.bytes_read`: a read returns the first bytes that will arrive, and leaves the others.
* `Source.remaining_read`: so it takes away as many as it returns.
-/

namespace ReverseTunnel

/-- A failure of a stream. -/
structure IoError where
  message : String
  deriving DecidableEq, Repr

/-! ### Sources -/

/-- A stream to read from: the pieces that will arrive, and the failure that ends it, if it
does not simply end. -/
structure Source where
  chunks : List Bytes
  failure : Option IoError := none
  deriving DecidableEq, Repr

namespace Source

/-- All the bytes that will arrive. -/
def bytes (s : Source) : Bytes := s.chunks.flatten

/-- The number of bytes that will arrive. -/
def remaining (s : Source) : Nat := s.bytes.length

/-- Reads once: one piece, or as much of it as asked for. Nothing at all means the end. -/
def read (limit : Nat) (s : Source) : Except IoError Bytes × Source :=
  match s.chunks.dropWhile List.isEmpty with
  | [] => (s.failure.elim (.ok []) .error, { s with chunks := [] })
  | chunk :: rest =>
    (.ok (chunk.take limit),
      { s with chunks := if chunk.length ≤ limit then rest else chunk.drop limit :: rest })

/-- Empty pieces in front hold no bytes, so a read may skip them. -/
theorem flatten_dropWhile_isEmpty {α : Type} (chunks : List (List α)) :
    (chunks.dropWhile List.isEmpty).flatten = chunks.flatten := by
  induction chunks with
  | nil => rfl
  | cons chunk rest ih =>
    cases chunk with
    | nil => simpa using ih
    | cons b bs => simp

/-- A read returns the first bytes and leaves the others. -/
theorem bytes_read {limit : Nat} {s s' : Source} {got : Bytes}
    (h : s.read limit = (.ok got, s')) : s.bytes = got ++ s'.bytes := by
  unfold read at h
  have hf := flatten_dropWhile_isEmpty s.chunks
  split at h
  · rename_i hd
    rw [hd] at hf
    cases hfail : s.failure with
    | none =>
      simp only [hfail, Option.elim, Prod.mk.injEq, Except.ok.injEq] at h
      obtain ⟨rfl, rfl⟩ := h
      simp [bytes, ← hf]
    | some e => simp [hfail] at h
  · rename_i chunk rest hd
    rw [hd] at hf
    simp only [Prod.mk.injEq, Except.ok.injEq] at h
    obtain ⟨rfl, rfl⟩ := h
    unfold bytes
    rw [← hf]
    by_cases hle : chunk.length ≤ limit
    · simp [hle, List.take_of_length_le hle]
    · simp only [hle, if_false, List.flatten_cons, ← List.append_assoc,
        List.take_append_drop]

/-- A read takes away as many bytes as it returns. -/
theorem remaining_read {limit : Nat} {s s' : Source} {got : Bytes}
    (h : s.read limit = (.ok got, s')) : s.remaining = got.length + s'.remaining := by
  rw [remaining, bytes_read h, List.length_append, remaining]

end Source

/-! ### Sinks -/

/-- A stream to write to: what was written, the room that is left with the failure that comes
when it is used up, and whether the end was announced. -/
structure Sink where
  written : Bytes := []
  bound : Option (Nat × IoError) := none
  ended : Bool := false
  deriving DecidableEq, Repr

namespace Sink

/-- Writes all of the bytes, or as many as there is room for. -/
def write (bytes : Bytes) (s : Sink) : Except IoError Unit × Sink :=
  match s.bound with
  | none => (.ok (), { s with written := s.written ++ bytes })
  | some (room, failure) =>
    (if bytes.length ≤ room then .ok () else .error failure,
      { s with
        written := s.written ++ bytes.take room
        bound := some (room - bytes.length, failure) })

/-- Announces the end. -/
def finish (s : Sink) : Sink := { s with ended := true }

end Sink

end ReverseTunnel
