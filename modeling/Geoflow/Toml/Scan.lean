import Geoflow.Text.Blank

set_option autoImplicit false

namespace Geoflow.Toml

def isBareChar (c : Char) : Bool := c.isAlphanum || c == '_' || c == '-'

def isGap (c : Char) : Bool := c == ' ' || c == '\t'

def skipGaps (cs : List Char) : List Char := cs.dropWhile isGap

/-- A character that may stand in comments and literal strings: no control but the tab. -/
def isPlain (c : Char) : Bool := c == '\t' || (32 ≤ c.toNat && c.toNat != 127)

def newline? : List Char → Option (List Char)
  | '\n' :: rest => some rest
  | '\r' :: '\n' :: rest => some rest
  | _ => none

def skipComment : List Char → List Char
  | '#' :: rest => rest.dropWhile isPlain
  | cs => cs

def endLine? (cs : List Char) : Option (List Char) :=
  match skipComment (skipGaps cs) with
  | [] => some []
  | rest => newline? rest

/-- Passes over gaps, newlines and comments. The flag says whether a comment is open. -/
def skipLines : Bool → List Char → List Char
  | _, '\n' :: rest => skipLines false rest
  | _, '\r' :: '\n' :: rest => skipLines false rest
  | true, c :: rest => if isPlain c then skipLines true rest else c :: rest
  | false, c :: rest =>
    if isGap c then skipLines false rest
    else if c = '#' then skipLines true rest
    else c :: rest
  | _, [] => []

end Geoflow.Toml
