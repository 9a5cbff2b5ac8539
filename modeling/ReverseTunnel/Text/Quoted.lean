import ReverseTunnel.Text.Unprintable

/-!
# Quoted text

Messages show a value that was refused between double quotes, escaped so that no value can
break out of its quotes or disturb the line it stands on.
-/

namespace ReverseTunnel.Text

/-- One character inside quotes. -/
def quotedChar (c : Char) : List Char :=
  if c = '"' then ['\\', '"']
  else if c = '\\' then ['\\', '\\']
  else if c = '\t' then ['\\', 't']
  else if c = '\r' then ['\\', 'r']
  else if c = '\n' then ['\\', 'n']
  else if c = '\x00' then ['\\', '0']
  else if isUnprintable c then
    ['\\', 'u', '\x7b'] ++ Nat.toDigits 16 c.toNat ++ ['\x7d']
  else [c]

/-- The text between double quotes: quotes and backslashes escaped, unprintable characters
written by their number in hexadecimal. -/
def quoted (s : String) : String :=
  String.ofList ('"' :: s.toList.flatMap quotedChar ++ ['"'])

end ReverseTunnel.Text
