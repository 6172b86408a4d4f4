import Geoflow.Binary64.Shortest
import Geoflow.Json.Basic
import Geoflow.Text.Blank
import Geoflow.Text.Utf8

set_option autoImplicit false

namespace Geoflow

inductive SqlValue where
  | null
  | int (n : Int64)
  | float (x : Binary64)
  | text (s : String)
  | bytes (b : List UInt8)
  | bool (b : Bool)
  deriving DecidableEq, Repr

namespace SqlValue

def isNumberChar (c : Char) : Bool :=
  Numeral.isDigit c || c == '+' || c == '-' || c == '.' || c == 'e' || c == 'E'

/-- The longest front part of a text, of at most `n` characters, that is a decimal literal. -/
def leadingDecimal? (cs : List Char) : Nat → Option Decimal
  | 0 => none
  | n + 1 =>
    match Decimal.read? (cs.take (n + 1)) with
    | some d => some d
    | none => leadingDecimal? cs n

/-- The number at the start of a text. A text that is a number as a whole counts only if it is
finite; otherwise the longest decimal literal it starts with counts, and zero if there is none. -/
def parseLenient (cs : List Char) : Binary64 :=
  let trimmed := Text.trimmed cs
  match Binary64.read? trimmed with
  | some x => if x.isFinite then x else .zero false
  | none =>
    match leadingDecimal? trimmed (trimmed.takeWhile isNumberChar).length with
    | some d => d.toBinary64
    | none => .zero false

def boolText (b : Bool) : String := if b then "true" else "false"

def bytesText (b : List UInt8) : String := String.ofList (Utf8.decodeLossy b)

def asBinary64 : SqlValue → Binary64
  | .int n => .ofInt n.toInt
  | .float x => x
  | .text s => parseLenient s.toList
  | .bytes b => parseLenient (Utf8.decodeLossy b)
  | .null => .zero false
  | .bool _ => .zero false

def asText : SqlValue → String
  | .null => ""
  | .int n => String.ofList (Numeral.ofInt n.toInt)
  | .float x => x.toText
  | .text s => s
  | .bytes b => bytesText b
  | .bool b => boolText b

def toJson : SqlValue → Json
  | .null => .null
  | .int n => .int n.toInt
  | .float x => .ofBinary64 x
  | .text s => .str s
  | .bytes b => .str (bytesText b)
  | .bool b => .bool b

end SqlValue

end Geoflow
