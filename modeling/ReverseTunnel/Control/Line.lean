import ReverseTunnel.Json.Value

/-!
# Lines of the control channel

A control message is one line of JSON. The decoder is given bytes as they arrive and hands out
one message per line; it remembers how far it has looked for the end of the line, so that no
byte is looked at twice. A line above the limit is refused and stays where it is.
-/

namespace ReverseTunnel

/-- The most bytes that a control message may have. -/
def maxMessageLength : Nat := 65536

/-- Why a message could not be read or written. -/
inductive LineError where
  /-- The message has this many bytes, or at least this many, and that is too many. -/
  | tooLarge (length : Nat)
  /-- The line is not the JSON of such a message. -/
  | json (reason : String)
  /-- The connection failed. -/
  | io (reason : String)
  deriving DecidableEq, Repr

/-- The wording of the error. -/
def LineError.message : LineError → String
  | .tooLarge length =>
    s!"Control message too large: {length} bytes (max {maxMessageLength})"
  | .json reason => "JSON error: " ++ reason
  | .io reason => "IO error: " ++ reason

/-! ### Reading -/

/-- The bytes that have arrived and were not handed out, and how many of them are known to hold
no end of line. -/
structure LineDecoder where
  buffered : Bytes := []
  scanned : Nat := 0
  deriving DecidableEq, Repr

namespace LineDecoder

variable {α : Type}

/-- More bytes arrive. -/
def push (d : LineDecoder) (bytes : Bytes) : LineDecoder :=
  { d with buffered := d.buffered ++ bytes }

/-- The message of one line, blanks around it aside. -/
def read (parse? : Bytes → Option α) (line : Bytes) : Except LineError (Option α) :=
  match parse? (Bytes.trim line) with
  | some message => .ok (some message)
  | none => .error (.json "")

/-- Takes one line out, if one is complete, and reads its message. A line that is no message is
taken out too; one above the limit is not. -/
def decode (limit : Nat) (parse? : Bytes → Option α) (d : LineDecoder) :
    Except LineError (Option α) × LineDecoder :=
  match (d.buffered.drop d.scanned).idxOf? Bytes.newline with
  | none =>
    if d.buffered.length > limit then (.error (.tooLarge d.buffered.length), d)
    else (.ok none, { d with scanned := d.buffered.length })
  | some offset =>
    let stop := d.scanned + offset
    if stop > limit then (.error (.tooLarge stop), { d with scanned := 0 })
    else (read parse? (d.buffered.take stop), ⟨d.buffered.drop (stop + 1), 0⟩)

/-- Takes one message out when no more bytes will come: what is left behind the last end of
line is a message too, unless it is blank. -/
def finish (limit : Nat) (parse? : Bytes → Option α) (d : LineDecoder) :
    Except LineError (Option α) × LineDecoder :=
  match d.decode limit parse? with
  | (.ok none, d) =>
    if (Bytes.trim d.buffered).isEmpty then (.ok none, {})
    else (read parse? d.buffered, {})
  | answer => answer

/-- Takes messages out as long as there are any, but at most `fuel` times; what the last try
said comes last. -/
def drainFor (limit : Nat) (parse? : Bytes → Option α) :
    (fuel : Nat) → LineDecoder → List (Except LineError (Option α)) × LineDecoder
  | 0, d => ([], d)
  | fuel + 1, d =>
    match d.decode limit parse? with
    | (.ok (some message), d) =>
      let (rest, d) := d.drainFor limit parse? fuel
      (.ok (some message) :: rest, d)
    | (answer, d) => ([answer], d)

/-- Takes messages out as long as there are any. Each message takes at least one byte with
it. -/
def drain (limit : Nat) (parse? : Bytes → Option α) (d : LineDecoder) :
    List (Except LineError (Option α)) × LineDecoder :=
  d.drainFor limit parse? (d.buffered.length + 1)

end LineDecoder

/-! ### Writing -/

/-- The line of a message, if the message is within the limit. -/
def encodeLine (limit : Nat) (message : Json.Value) : Except LineError Bytes :=
  let text := message.print
  if text.length > limit then .error (.tooLarge text.length) else .ok (text ++ [Bytes.newline])

/-- Puts the line of a message behind what a buffer holds. A message above the limit leaves the
buffer as it was. -/
def writeLine (limit : Nat) (buffer : Bytes) (message : Json.Value) :
    Except LineError Unit × Bytes :=
  match encodeLine limit message with
  | .ok line => (.ok (), buffer ++ line)
  | .error e => (.error e, buffer)

end ReverseTunnel
