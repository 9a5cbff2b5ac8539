import ReverseTunnel.Control.Receive
import ReverseTunnel.Proofs.Control.RoundTrip

/-!
# One line is one message

Either end of a control stream takes bytes in as far as it has room for them. While the room is
smaller than the line it has seen no end of line, and gets more room; as soon as the line fits, it
is read. What comes of it does not depend on the rooms, if the last one is large enough, nor on
whether the stream ends behind the line.

## Main results

* `within_of_line`: a line that fits into one of the rooms is read.
* `ofStream_of_spoken`: so is every message within the limit.
* `ofStream_eq`: the text that is received does not depend on what it is read as.
-/

namespace ReverseTunnel.Received

open LineDecoder

variable {α : Type} {parse? : Bytes → Option α} {message : α} {line : Bytes}

/-- A line that says a message is read as that message by a decoder that is asked for it. -/
theorem read_of_readLine (h : readLine parse? line = .ok message) :
    LineDecoder.read parse? line = .ok (some message) := by
  rw [readLine] at h
  rw [LineDecoder.read]
  rcases hparsed : parse? (Bytes.trim line) with _ | found
  · rw [hparsed] at h
    cases h
  · rw [hparsed] at h
    cases h
    rfl

/-- The decoder after it was given what its room holds. -/
def filled (d : LineDecoder) (input : Bytes) (room : Nat) : LineDecoder :=
  d.push ((input.drop d.buffered.length).take (room - d.buffered.length))

section

variable {d : LineDecoder} {room : Nat}

/-- Of a line that is too long for the room a part is taken in. -/
theorem filled_of_le (htaken : d.buffered <+: line) (hroom : room ≤ line.length) :
    (filled d (line ++ [Bytes.newline]) room).buffered <+: line := by
  rw [filled, LineDecoder.push]
  generalize d.buffered = taken at htaken ⊢
  obtain ⟨rest, rfl⟩ := htaken
  rw [List.length_append] at hroom
  rw [List.append_assoc, List.drop_left, List.take_append_of_le_length (by omega)]
  exact (List.prefix_append_right_inj taken).mpr (List.take_prefix _ rest)

/-- A room that is large enough takes the rest of the line in, and its end. -/
theorem filled_of_gt (htaken : d.buffered <+: line) (hroom : line.length < room) :
    (filled d (line ++ [Bytes.newline]) room).buffered = line ++ [Bytes.newline] := by
  rw [filled, LineDecoder.push]
  generalize d.buffered = taken at htaken ⊢
  obtain ⟨rest, rfl⟩ := htaken
  rw [List.length_append] at hroom
  have hall : (rest ++ [Bytes.newline]).length ≤ room - taken.length := by
    rw [List.length_append, List.length_singleton]
    omega
  rw [List.append_assoc, List.drop_left, List.take_of_length_le hall]

end

/-- **A line that fits into one of the rooms is read.** What was taken in so far is a part of the
line. -/
theorem within_of_line (hoLine : Bytes.newline ∉ line) (hread : readLine parse? line = .ok message)
    (hfits : line.length ≤ maxMessageLength) (ends : Bool) {rooms : List Nat} {d : LineDecoder}
    (hmarked : Marked d) (htaken : d.buffered <+: line)
    (hroom : ∃ room ∈ rooms, line.length < room) :
    within parse? (line ++ [Bytes.newline]) ends rooms d = .message message := by
  induction rooms generalizing d with
  | nil =>
    obtain ⟨room, hroom, -⟩ := hroom
    exact absurd hroom List.not_mem_nil
  | cons room rooms ih =>
    rw [within, ← filled]
    have hfilled : Marked (filled d (line ++ [Bytes.newline]) room) := hmarked.push _
    by_cases hlarge : line.length < room
    · rw [hfilled.decode_of_line maxMessageLength parse? hoLine (filled_of_gt htaken hlarge),
        if_neg (Nat.not_lt.mpr hfits), read_of_readLine hread]
    · have hpart := filled_of_le htaken (Nat.le_of_not_lt hlarge)
      have hnone : Bytes.newline ∉ (filled d (line ++ [Bytes.newline]) room).buffered :=
        fun hmem => hoLine (hpart.subset hmem)
      have hshort := Nat.le_trans hpart.length_le hfits
      have hmore : room < (line ++ [Bytes.newline]).length := by
        rw [List.length_append, List.length_singleton]
        omega
      rw [Marked.decode_of_not_mem maxMessageLength parse? hnone, if_neg (Nat.not_lt.mpr hshort)]
      dsimp only
      rw [if_pos hmore]
      refine ih (.waiting hnone) hpart ?_
      obtain ⟨large, hmem, hlt⟩ := hroom
      rcases List.mem_cons.mp hmem with rfl | hmem
      · exact absurd hlt hlarge
      · exact ⟨large, hmem, hlt⟩

/-- **A message within the limit is the first one on its stream**, whether or not the stream
ends. -/
theorem ofStream_of_spoken {text : Json.Value} (hspoken : Spoken parse? text message)
    (hfits : text.print.length ≤ maxMessageLength) (ends : Bool) :
    ofStream parse? (text.print ++ [Bytes.newline]) ends = .message message := by
  have hroom : ∃ room ∈ rooms, text.print.length < room :=
    ⟨131072, by decide, Nat.lt_of_le_of_lt hfits (by decide)⟩
  exact within_of_line hspoken.oneLine hspoken.readLine hfits ends (.unmarked [])
    (List.nil_prefix) hroom

/-! ### What is read, whatever it is read as -/

/-- What is received if the text of a message is read as one. -/
def readAs (parse? : Bytes → Option α) : Received Bytes → Received α
  | .message text => (parse? text).elim (.failed (.json "")) .message
  | .failed e => .failed e
  | .ended => .ended
  | .pending => .pending

/-- What is decoded if the text of a line is read as a message. -/
def decodedAs (parse? : Bytes → Option α) :
    Except LineError (Option Bytes) → Except LineError (Option α)
  | .ok (some text) => (parse? text).elim (.error (.json "")) (.ok ∘ some)
  | .ok none => .ok none
  | .error e => .error e

/-- What a line is read as can be found in two steps: first its text, then what the text says. -/
theorem read_eq (parse? : Bytes → Option α) (line : Bytes) :
    LineDecoder.read parse? line = decodedAs parse? (LineDecoder.read some line) := by
  rw [LineDecoder.read, LineDecoder.read]
  simp only [decodedAs]
  cases parse? (Bytes.trim line) <;> rfl

/-- A decoder can be asked for texts first, and these be read after. What it keeps is the same. -/
theorem decode_eq (parse? : Bytes → Option α) (limit : Nat) (d : LineDecoder) :
    d.decode limit parse? =
      (decodedAs parse? (d.decode limit some).1, (d.decode limit some).2) := by
  simp only [LineDecoder.decode]
  split
  · split <;> rfl
  · split
    · rfl
    · rw [read_eq]

/-- So can a decoder that is asked at the end. -/
theorem finish_eq (parse? : Bytes → Option α) (limit : Nat) (d : LineDecoder) :
    (d.finish limit parse?).1 = decodedAs parse? (d.finish limit some).1 := by
  rw [LineDecoder.finish, LineDecoder.finish, decode_eq parse?]
  rcases d.decode limit some with ⟨e | _ | text, d'⟩
  · rfl
  · simp only [decodedAs]
    split
    · rfl
    · exact read_eq parse? _
  · simp only [decodedAs]
    cases parse? text <;> rfl

/-- What is received at the end of a stream can be found in the same two steps. -/
theorem atEnd_eq (parse? : Bytes → Option α) (d : LineDecoder) :
    atEnd parse? d = (atEnd some d).readAs parse? := by
  rw [atEnd, atEnd, finish_eq]
  rcases (d.finish maxMessageLength some).1 with e | _ | text
  · rfl
  · rfl
  · simp only [decodedAs, readAs]
    cases parse? text <;> rfl

/-- So can what is received within a stream, whatever the pieces. -/
theorem within_eq (parse? : Bytes → Option α) (input : Bytes) (ends : Bool) (rooms : List Nat)
    (d : LineDecoder) :
    within parse? input ends rooms d = (within some input ends rooms d).readAs parse? := by
  induction rooms generalizing d with
  | nil =>
    rw [within, within]
    split
    · exact atEnd_eq parse? d
    · rfl
  | cons room rooms ih =>
    rw [within, within, decode_eq parse?]
    generalize (d.push _).decode maxMessageLength some = decoded
    rcases decoded with ⟨e | _ | text, d'⟩
    · rfl
    · simp only [decodedAs]
      split
      · exact ih d'
      · split
        · exact atEnd_eq parse? d'
        · rfl
    · simp only [decodedAs, readAs]
      cases parse? text <;> rfl

/-- **The text that is received does not depend on what it is read as.** -/
theorem ofStream_eq (parse? : Bytes → Option α) (input : Bytes) (ends : Bool) :
    ofStream parse? input ends = (ofStream some input ends).readAs parse? :=
  within_eq parse? input ends rooms {}

end ReverseTunnel.Received
