import ReverseTunnel.Stream.Copy
import ReverseTunnel.Text.Split
import ReverseTunnel.Text.Utf8
import ReverseTunnel.Text.Quoted

/-!
# Which host the local service sees

A service may need another host than the public one in the `Host` line of its requests. Only
the head of the first request of a stream is changed, and of the head only that line.
-/

namespace ReverseTunnel

open Text

/-- What the `Host` line says when a request reaches the local service. -/
inductive HostMode where
  /-- The public host, as it came. -/
  | preserve
  /-- The address of the local service. -/
  | localAddress
  /-- A fixed host. -/
  | fixed (host : String)
  deriving DecidableEq, Repr

namespace HostMode

/-- The mode that a text names: `preserve` or nothing, `rewrite`, or the fixed host itself,
which may hold neither spaces nor ASCII control characters. The refused text is given back. -/
def parse (s : String) : Except String HostMode :=
  let value := trim s
  let word := lower value
  if word == "" || word == "preserve" then .ok .preserve
  else if word == "rewrite" then .ok .localAddress
  else if value.toList.any fun c => c.toNat < 0x20 || c == ' ' || c.toNat == 0x7F then .error value
  else .ok (.fixed value)

/-- The wording for a text that is no mode. -/
def invalidMessage (value : String) : String := "invalid host header value: " ++ quoted value

/-- The host to put into requests, unless they are left alone. -/
def target? (mode : HostMode) (localAddress : String) : Option String :=
  match mode with
  | .preserve => none
  | .localAddress => some localAddress
  | .fixed host => some host

end HostMode

/-! ### The head of a request -/

namespace Head

/-- A carriage return and a line feed. -/
def lineEnd : Bytes := [0x0D, 0x0A]

/-- The blank line that ends a head, with the end of the line before it. -/
def terminator : Bytes := [0x0D, 0x0A, 0x0D, 0x0A]

/-- The length of the head at the start of the bytes, its terminator included, if it is
complete. -/
def length? (bytes : Bytes) : Option Nat :=
  (splitAtMark terminator bytes).map fun (head, _) => head.length + terminator.length

/-- The length of the head at the start of the bytes, if it is complete, with its terminator looked
for behind the first `scanned` bytes. -/
def lengthFrom? (scanned : Nat) (bytes : Bytes) : Option Nat :=
  (length? (bytes.drop scanned)).map (scanned + ·)

/-- Whether a header line names the host. -/
def isHostLine (line : Bytes) : Bool :=
  match splitFirst 0x3A line with
  | some (name, _) => Bytes.lower (Bytes.trim name) == Utf8.encode "host"
  | none => false

/-- The lines with the first host line changed and the others left out. -/
def replaceFirst (hostLine : Bytes) : List Bytes → Option (List Bytes)
  | [] => none
  | line :: lines =>
    if isHostLine line then some (hostLine :: lines.filter fun l => !isHostLine l)
    else (replaceFirst hostLine lines).map (line :: ·)

/-- The header lines with exactly one host line: in the place of the first, or in front. -/
def setHost (host : String) (lines : List Bytes) : List Bytes :=
  let hostLine := Utf8.encode ("Host: " ++ host)
  (replaceFirst hostLine lines).getD (hostLine :: lines)

/-- A line without a carriage return at its end. -/
def stripReturn (line : Bytes) : Bytes := (dropEnd? [0x0D] line).getD line

/-- The head with exactly one host line. The request line and all other header lines stay as
they are. -/
def withHost (head : Bytes) (host : String) : Bytes :=
  let body := (dropEnd? terminator head).getD head
  let lines := match (body.splitOn Bytes.newline).map stripReturn with
    | [] => []
    | requestLine :: headers => requestLine :: setHost host headers
  lines.flatMap (· ++ lineEnd) ++ lineEnd

end Head

/-! ### Copying with another host -/

/-- A head that has not ended after this many bytes is left alone. -/
def maxHeadLength : Nat := 65536

/-- The most bytes that are read at once while the end of the head is looked for. -/
def headBufferSize : Nat := 4096

/-- The beginning of a stream: the source that is left, the bytes read, and the length of the
head if its end was found, unless the stream failed. -/
structure HeadRun where
  tap : Tap
  read : Bytes
  length : Except IoError (Option Nat)

/-- Reads until the head is complete, the limit is reached or the stream ends or fails. No
terminator begins in the first `scanned` bytes; one that begins behind them may be cut by the end
of what was read so far. -/
def readHead (tap : Tap) (read : Bytes) (scanned : Nat) : HeadRun :=
  match Head.lengthFrom? scanned read with
  | some n => ⟨tap, read, .ok (some n)⟩
  | none =>
    if read.length ≥ maxHeadLength then ⟨tap, read, .ok none⟩
    else
      match h : tap.read headBufferSize with
      | (.error e, tap) => ⟨tap, read, .error e⟩
      | (.ok got, tap') =>
        if hne : got = [] then ⟨tap', read, .ok none⟩
        else
          have := Tap.remaining_lt h hne
          readHead tap' (read ++ got) (read.length - (Head.terminator.length - 1))
  termination_by tap.remaining

/-- The bytes to write for the bytes read: the head with another host and what was read behind
it, or all of it unchanged. -/
def withHostIfComplete (read : Bytes) (length? : Option Nat) (host : String) : Bytes :=
  match length? with
  | some n => Head.withHost (read.take n) host ++ read.drop n
  | none => read

/-- Copies a stream of requests, the first of them with another host. A head that does not end
within the limit passes unchanged. The counter tells the bytes read. -/
def copyWithHost (tap : Tap) (sink : Sink) (host : String) : CopyRun :=
  let head := readHead tap [] 0
  let counter := head.read.length
  match head.length with
  | .error e => ⟨head.tap, sink, counter, .error e⟩
  | .ok length? =>
    match sink.write (withHostIfComplete head.read length? host) with
    | (.error e, sink) => ⟨head.tap, sink, counter, .error e⟩
    | (.ok (), sink) => copyFrom head.tap sink counter counter

end ReverseTunnel
