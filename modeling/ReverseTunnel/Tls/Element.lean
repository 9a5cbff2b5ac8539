import ReverseTunnel.Bytes

/-!
# Elements of the distinguished encoding

Certificates and keys are written as elements: a tag, the length of the content, the content.
Each length has one spelling, the shortest, and contents of 65535 bytes or more are refused.
Both directions are here; `Element.read?` takes one element off the front of some bytes.
-/

namespace ReverseTunnel.Element

/-! ### Tags -/

/-- A truth value. -/
def boolean : UInt8 := 0x01

/-- A whole number. -/
def integer : UInt8 := 0x02

/-- A run of bits, behind a byte that says how many bits of the last byte do not count. -/
def bits : UInt8 := 0x03

/-- A run of bytes. -/
def octets : UInt8 := 0x04

/-- The name of a notion, as a path in the tree of registered names. -/
def identifier : UInt8 := 0x06

/-- Elements in a row. -/
def sequence : UInt8 := 0x30

/-- The field with a number, around an element of its own. -/
def field (n : UInt8) : UInt8 := 0xA0 + n

/-! ### Reading and writing -/

/-- A length in its shortest spelling, and the bytes behind it. -/
def length? : Bytes → Option (Nat × Bytes)
  | 0x81 :: a :: rest => if a < 0x80 then none else some (a.toNat, rest)
  | 0x82 :: a :: b :: rest =>
    let n := a.toNat * 256 + b.toNat
    if n < 256 || n ≥ 65535 then none else some (n, rest)
  | a :: rest => if a < 0x80 then some (a.toNat, rest) else none
  | [] => none

/-- The content of the element with a tag that stands in front, and the bytes behind it. -/
def read? (tag : UInt8) : Bytes → Option (Bytes × Bytes)
  | [] => none
  | first :: rest => do
    let (n, rest) ← length? rest
    if first != tag || rest.length < n then none else some (rest.take n, rest.drop n)

/-- The content of an element that is all there is. -/
def only? (tag : UInt8) (bytes : Bytes) : Option Bytes :=
  match read? tag bytes with
  | some (content, []) => some content
  | _ => none

/-- The bytes behind elements with some tags, one after another. -/
def skip? (tags : List UInt8) (bytes : Bytes) : Option Bytes :=
  tags.foldlM (fun bytes tag => (read? tag bytes).map (·.2)) bytes

/-- The contents of the elements of one tag that make up some bytes. -/
def all? (tag : UInt8) (bytes : Bytes) : Option (List Bytes) :=
  go bytes.length bytes
where
  go : Nat → Bytes → Option (List Bytes)
    | _, [] => some []
    | 0, _ => none
    | fuel + 1, bytes => do
      let (content, rest) ← read? tag bytes
      some (content :: (← go fuel rest))

/-- The element with a tag and a content. -/
def write (tag : UInt8) (content : Bytes) : Bytes :=
  let n := content.length
  let length :=
    if n < 128 then [UInt8.ofNat n]
    else if n < 256 then [0x81, UInt8.ofNat n]
    else [0x82, UInt8.ofNat (n / 256), UInt8.ofNat (n % 256)]
  tag :: length ++ content

end ReverseTunnel.Element
