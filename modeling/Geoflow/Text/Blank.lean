set_option autoImplicit false

namespace Geoflow.Text

/-- Unicode White_Space. The zero width space and the byte order mark are not in it. -/
def isBlank (c : Char) : Bool :=
  let n := c.toNat
  (9 ≤ n && n ≤ 13) || n == 32 || n == 0x85 || n == 0xA0 || n == 0x1680 ||
    (0x2000 ≤ n && n ≤ 0x200A) || n == 0x2028 || n == 0x2029 || n == 0x202F ||
    n == 0x205F || n == 0x3000

def trimmed (cs : List Char) : List Char :=
  ((cs.dropWhile isBlank).reverse.dropWhile isBlank).reverse

def trim (s : String) : String := String.ofList (trimmed s.toList)

def consField (c : Char) : List (List Char) → Bool → List (List Char)
  | field :: rest, true => (c :: field) :: rest
  | fields, _ => [c] :: fields

/-- The maximal runs of characters that are not blank, in order. The flag says whether the
character before the rest belongs to a field. -/
def fieldsFrom : List Char → List (List Char)
  | [] => []
  | c :: rest =>
    if isBlank c then fieldsFrom rest
    else consField c (fieldsFrom rest) (rest.head?.any fun d => !isBlank d)

def fields (s : String) : List String := (fieldsFrom s.toList).map String.ofList

def joined (separator : List Char) : List (List Char) → List Char
  | [] => []
  | [part] => part
  | part :: rest => part ++ separator ++ joined separator rest

/-- Splits at every occurrence of one character; there is one part more than occurrences. -/
def splitAt (mark : Char) : List Char → List (List Char)
  | [] => [[]]
  | c :: rest =>
    if c = mark then [] :: splitAt mark rest
    else match splitAt mark rest with
      | [] => [[c]]
      | part :: parts => (c :: part) :: parts

def occurs (word : List Char) : List Char → Bool
  | [] => word.isEmpty
  | c :: rest => word.isPrefixOf (c :: rest) || occurs word rest

end Geoflow.Text
