import Geoflow.Text.Printable

set_option autoImplicit false

namespace Geoflow.Text

def numberedEscape (c : Char) : List Char :=
  ['\\', 'u', '\x7b'] ++ Nat.toDigits 16 c.toNat ++ ['\x7d']

def quotedChar (c : Char) : List Char :=
  if c = '\x00' then ['\\', '0']
  else if c = '\t' then ['\\', 't']
  else if c = '\r' then ['\\', 'r']
  else if c = '\n' then ['\\', 'n']
  else if c = '"' then ['\\', '"']
  else if c = '\\' then ['\\', '\\']
  else if isPrintable c then [c]
  else numberedEscape c

def quoted (s : String) : String :=
  String.ofList ('"' :: s.toList.flatMap quotedChar ++ ['"'])

/-- One character in single quotes, where a double quote needs no escape and a single one does. -/
def quotedSingle (c : Char) : String :=
  let body := if c = '"' then ['"'] else if c = '\'' then ['\\', '\''] else quotedChar c
  String.ofList ('\'' :: body ++ ['\''])

end Geoflow.Text
