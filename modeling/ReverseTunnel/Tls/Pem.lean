import ReverseTunnel.Text.Base64
import ReverseTunnel.Text.Split
import ReverseTunnel.Text.Utf8
import ReverseTunnel.Tls.Key

/-!
# Certificates and keys in text form

A PEM text has sections between `-----BEGIN X-----` and `-----END X-----` with base 64 between
them. What stands outside of sections, and sections of other kinds, is passed over.
-/

namespace ReverseTunnel.Pem

open Text

/-- The kinds of sections that are looked into. -/
inductive Label where
  | certificate
  | privateKey (form : KeyForm)
  | other
  deriving DecidableEq, Repr

/-- The kind of a section by its label, if it is one that is looked into. -/
def Label.ofBytes? (label : Bytes) : Option Label :=
  let isOne (names : List String) : Bool := names.any fun name => Utf8.encode name == label
  if isOne ["CERTIFICATE"] then some .certificate
  else if isOne ["PRIVATE KEY"] then some (.privateKey .wrapped)
  else if isOne ["RSA PRIVATE KEY"] then some (.privateKey .primes)
  else if isOne ["EC PRIVATE KEY"] then some (.privateKey .curve)
  else if isOne ["PUBLIC KEY", "X509 CRL", "CERTIFICATE REQUEST", "ECHCONFIG"] then some .other
  else none

/-- A section with its content. -/
structure Section where
  label : Label
  content : Bytes
  deriving DecidableEq, Repr

/-- The key in a section that holds one. -/
def Section.key? (s : Section) : Option (KeyForm × Bytes) :=
  match s.label with
  | .privateKey form => some (form, s.content)
  | _ => none

/-- Why a text gives no certificates or no key. -/
inductive Error where
  /-- A section does not end. -/
  | unfinished
  /-- The first line of a section is malformed. -/
  | badStart
  /-- The content of a section is not base 64. -/
  | badContent
  | noCertificate
  | noKey
  deriving DecidableEq, Repr

/-- The wording of the error. -/
def Error.reason : Error → String
  | .unfinished => "Failed to parse certificates: section end missing"
  | .badStart => "Failed to parse certificates: illegal section start"
  | .badContent => "Failed to parse certificates: invalid base64"
  | .noCertificate => "No certificate found in PEM content"
  | .noKey => "No private key found in PEM content"

/-- The label of a line that begins a section: all that stands before its closing dashes, blanks
included. The line itself may end in blanks. -/
def startLabel? (line : Bytes) : Option (Except Error Bytes) :=
  (dropStart? (Utf8.encode "-----BEGIN ") line).map fun rest =>
    let text := (rest.reverse.dropWhile fun b => b == 0x20 || b == 0x2D).reverse
    let behind := rest.drop text.length
    if behind.count 0x2D = 5 then .ok (text ++ behind.takeWhile (· != 0x2D)) else .error .badStart

/-- The bytes of base 64 text. Blanks in it, vertical tabs among them, do not count. Padding may
be left out altogether, and bits that are too few for a byte are not looked at. -/
def content? (text : Bytes) : Option Bytes :=
  let isBlank (b : UInt8) : Bool := Bytes.isBlank b || b == 0x0B
  let cs := (text.filter fun b => !isBlank b).map fun b => Char.ofNat b.toNat
  let data := cs.takeWhile (· != '=')
  let padding := cs.drop data.length
  let missing := (4 - data.length % 4) % 4
  if missing = 3 || !(padding.isEmpty || padding == List.replicate missing '=') then none
  else
    (Base64.decode? (data ++ List.replicate missing 'A')).map (·.take (data.length * 3 / 4))

/-- Lines end at a line feed or a carriage return. -/
def lines (text : Bytes) : List Bytes :=
  (text.map fun b => if b == 0x0D then Bytes.newline else b).splitOn Bytes.newline

/-- Reads the remaining lines up to the first section that satisfies `stop`, with the label of
the section that is open and its lines so far, newest first, and the sections already read,
newest first. -/
def readLines (stop : Section → Bool) (found : List Section)
    (openSection : Option (Bytes × List Bytes)) : List Bytes → Except Error (List Section)
  | [] => if openSection.isSome then .error .unfinished else .ok found.reverse
  | line :: rest =>
    match startLabel? line, openSection with
    | some (.error e), _ => .error e
    | some (.ok label), none => readLines stop found (some (label, [])) rest
    | some (.ok label), some (_, body) => readLines stop found (some (label, body)) rest
    | none, none => readLines stop found none rest
    | none, some (label, body) =>
      if (Utf8.encode "-----END " ++ label ++ Utf8.encode "-----").isPrefixOf line then
        match Label.ofBytes? label with
        | none => readLines stop found none rest
        | some kind =>
          match content? body.reverse.flatten with
          | none => .error .badContent
          | some content =>
            let found := ⟨kind, content⟩ :: found
            if stop ⟨kind, content⟩ then .ok found.reverse else readLines stop found none rest
      else readLines stop found (some (label, line :: body)) rest

/-- The contents of the certificates of a text, at least one. -/
def certificates (text : String) : Except Error (List Bytes) := do
  let found ← readLines (fun _ => false) [] none (lines (Utf8.encode text))
  let certificates := found.filter (·.label = .certificate)
  if certificates.isEmpty then .error .noCertificate else .ok (certificates.map (·.content))

/-- The first key of a text, with its form. What follows it is not looked at. -/
def privateKey (text : String) : Except Error (KeyForm × Bytes) := do
  let found ← readLines (·.key?.isSome) [] none (lines (Utf8.encode text))
  match found.findSome? Section.key? with
  | some key => .ok key
  | none => .error .noKey

end ReverseTunnel.Pem
