import Geoflow.Binary64.Shortest
import Geoflow.Json.Basic

set_option autoImplicit false

namespace Geoflow.Json

def escapeChar (c : Char) : List Char :=
  if c = '"' then ['\\', '"']
  else if c = '\\' then ['\\', '\\']
  else if c = '\x08' then ['\\', 'b']
  else if c = '\x0c' then ['\\', 'f']
  else if c = '\n' then ['\\', 'n']
  else if c = '\r' then ['\\', 'r']
  else if c = '\t' then ['\\', 't']
  else if c.toNat < 32 then
    ['\\', 'u', '0', '0', Nat.digitChar (c.toNat / 16), Nat.digitChar (c.toNat % 16)]
  else [c]

def literal (s : String) : List Char := '"' :: s.toList.flatMap escapeChar ++ ['"']

mutual

def chars : Json → List Char
  | .null => ['n', 'u', 'l', 'l']
  | .bool true => ['t', 'r', 'u', 'e']
  | .bool false => ['f', 'a', 'l', 's', 'e']
  | .int n => Numeral.ofInt n
  | .float x => x.toJsonText.toList
  | .str s => literal s
  | .arr [] => ['[', ']']
  | .arr (item :: items) => '[' :: chars item ++ charsOfItems items
  | .obj [] => ['\x7b', '\x7d']
  | .obj ((name, value) :: entries) =>
    '\x7b' :: literal name ++ ':' :: chars value ++ charsOfEntries entries

/-- The items after the first one, with the closing bracket. -/
def charsOfItems : List Json → List Char
  | [] => [']']
  | item :: items => ',' :: chars item ++ charsOfItems items

/-- The entries after the first one, with the closing brace. -/
def charsOfEntries : List (String × Json) → List Char
  | [] => ['\x7d']
  | (name, value) :: entries =>
    ',' :: literal name ++ ':' :: chars value ++ charsOfEntries entries

end

/-- The compact text of a document: no blanks, and in strings only quotes, backslashes and controls
escaped. -/
def render (doc : Json) : String := String.ofList doc.chars

end Geoflow.Json
