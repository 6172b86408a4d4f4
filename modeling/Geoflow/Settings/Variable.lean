import Geoflow.Binary64.Decimal
import Geoflow.Json.Basic
import Geoflow.Toml.Quoted

set_option autoImplicit false

namespace Geoflow.Variable

def isBlank (c : Char) : Bool :=
  c == ' ' || c == '\t' || c == '\n' || c == '\r' || c == '\x0c'

def skipBlanks (cs : List Char) : List Char := cs.dropWhile isBlank

def isMark (c : Char) : Bool := c == ',' || c == '{' || c == '}' || c == '[' || c == ']'

/-- A word: a number with a point, a whole number of 64 bits with or without sign, or a text. -/
def word (cs : List Char) : Json :=
  let text := Text.trimmed cs
  let number : Option Binary64 := if text.contains '.' then Binary64.read? text else none
  match number with
  | some x => .float x
  | none =>
    match Numeral.readInt? text with
    | some n =>
      if Int64.minValue.toInt ≤ n ∧ n < UInt64.size then .int n else .str (String.ofList text)
    | none => .str (String.ofList text)

def quoted? : List Char → Option (List Char × List Char)
  | '"' :: rest => Toml.basic? rest
  | _ => none

def name? (cs : List Char) : Option (String × List Char) :=
  match cs with
  | '"' :: _ => (quoted? cs).map fun (text, after) => (String.ofList text, after)
  | _ =>
    let text := cs.takeWhile Toml.isBareChar
    if text.isEmpty then none else some (String.ofList text, cs.dropWhile Toml.isBareChar)

def afterWord? (word cs : List Char) : Option (List Char) :=
  if word.isPrefixOf cs then some (cs.drop word.length) else none

mutual

/-- A value with the blanks around it, and what follows. The number bounds the steps. -/
def value? : Nat → List Char → Option (Json × List Char)
  | 0, _ => none
  | fuel + 1, cs => do
    let cs := skipBlanks cs
    let (v, rest) ← match afterWord? "true".toList cs, afterWord? "false".toList cs, cs with
      | some rest, _, _ => some (.bool true, rest)
      | none, some rest, _ => some (.bool false, rest)
      | none, none, '{' :: rest => do
        let (entries, after) ← entries? fuel rest
        some (.ofEntries entries, after)
      | none, none, '[' :: rest => do
        let (items, after) ← items? fuel rest
        some (.arr items, after)
      | none, none, '"' :: _ =>
        (quoted? cs).map fun (text, after) => (.str (String.ofList text), after)
      | none, none, '\'' :: c :: '\'' :: after => some (.str (String.singleton c), after)
      | none, none, '\'' :: _ => none
      | none, none, _ => some (word (cs.takeWhile (!isMark ·)), cs.dropWhile (!isMark ·))
    some (v, skipBlanks rest)

def items? : Nat → List Char → Option (List Json × List Char)
  | 0, _ => none
  | fuel + 1, cs =>
    match cs with
    | ']' :: after => some ([], after)
    | _ => do
      let (item, rest) ← value? fuel cs
      match rest with
      | ']' :: after => some ([item], after)
      | ',' :: rest => do
        let (items, after) ← items? fuel rest
        some (item :: items, after)
      | _ => none

def entries? : Nat → List Char → Option (List (String × Json) × List Char)
  | 0, _ => none
  | fuel + 1, cs =>
    match cs with
    | '}' :: after => some ([], after)
    | _ => do
      let (name, rest) ← name? (skipBlanks cs)
      match skipBlanks rest with
      | '=' :: rest => do
        let (v, rest) ← value? fuel rest
        match rest with
        | '}' :: after => some ([(name, v)], after)
        | ',' :: rest => do
          let (entries, after) ← entries? fuel rest
          some ((name, v) :: entries, after)
        | _ => none
      | _ => none

end

/-- The value of a variable: a truth value, a number, a quoted text, a list in brackets or settings
in braces where it has that form from end to end. Otherwise it is a text, without the blanks around
it unless a bracket, brace or comma is in it. -/
def read (text : String) : Json :=
  let cs := text.toList
  match value? (2 * cs.length + 2) cs with
  | some (v, []) => v
  | _ => .str text

end Geoflow.Variable
