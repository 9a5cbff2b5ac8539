import ReverseTunnel.Address.Ip

/-!
# Names that a certificate can prove

A connection is encrypted toward a name: a name of the domain name system, or an address.
-/

namespace ReverseTunnel.Tls

open Text

/-- A character of a label: a letter, a digit, an underscore or a hyphen. -/
def isNameChar (c : Char) : Bool := c.isAlphanum || c == '_' || c == '-'

/-- A label: one to 63 characters, no hyphen at either end. -/
def isNameLabel (cs : List Char) : Bool :=
  !cs.isEmpty && cs.length ≤ 63 && cs.all isNameChar && cs.head? != some '-'
    && cs.getLast? != some '-'

/-- A name of the domain name system: labels with dots between them, of which the last one is
not a number. A dot may stand at the end if the name is not a number there either. -/
def isDnsName (name : String) : Bool :=
  let labels := name.toList.splitOn '.'
  let labels := if labels.getLast? == some [] then labels.dropLast else labels
  name.utf8ByteSize ≤ 253 && !labels.isEmpty && labels.all isNameLabel
    && !(labels.getLast?.any fun label => label.all isDigit)

/-- A name that a certificate can prove. -/
def isServerName (name : String) : Bool := isDnsName name || (Ip.parse? name).isSome

end ReverseTunnel.Tls
