import Geoflow.Cell.Exact
import Geoflow.Cell.Interval
import Geoflow.Extract.Error
import Geoflow.Json.Printer
import Geoflow.Row.Basic
import Geoflow.Time.Instant

set_option autoImplicit false

namespace Geoflow

inductive Cell where
  | null
  /-- Whole numbers, truth values, days and microseconds from a fixed point in time. -/
  | whole (n : Int)
  | single (bits : UInt32)
  | double (x : Binary64)
  /-- Texts, documents and other octets. -/
  | octets (b : List UInt8)
  /-- A decimal in groups of digits. -/
  | grouped (d : GroupedDecimal)
  | notANumber
  | interval (i : Interval)
  /-- Year, month, day, and as much of a time of day as is not zero; none at all for no date. -/
  | calendar (fields : List Nat)
  /-- A time with its sign: days, hours, minutes, seconds, microseconds. -/
  | clock (negative : Bool) (days hours minutes seconds micros : Nat)
  deriving DecidableEq, Repr

inductive CellFault where
  | notText (fault : Utf8.Fault)
  | notANumber
  | decimal (fault : ExactDecimal.Fault)
  | document
  | invalidDate (year month day : Nat)
  | invalidTime (hour minute second micros : Nat)
  | mismatchedType (typeName : String)
  /-- A cell of another form than its type has. -/
  | unexpectedForm
  deriving DecidableEq, Repr

def CellFault.message : CellFault → String
  | .notText fault => fault.message
  | .notANumber => "BigDecimal does not support NaN values"
  | .decimal fault => fault.message
  | .document => "malformed document"
  | .invalidDate year month day =>
    "server returned invalid date: " ++ Numeral.ofNat year ++ "/" ++ Numeral.ofNat month ++ "/"
      ++ Numeral.ofNat day
  | .invalidTime hour minute second micros =>
    "server returned invalid time: " ++ String.ofList (Numeral.padded 2 hour ++ ':' ::
      Numeral.padded 2 minute ++ ':' :: Numeral.padded 2 second) ++ "; micros: "
      ++ Numeral.ofNat micros
  | .mismatchedType typeName =>
    "mismatched types; Rust type `alloc::vec::Vec<u8>` (as SQL type `BLOB`) is not compatible with"
      ++ " SQL type `" ++ typeName ++ "`"
  | .unexpectedForm => "unexpected form"

/-- How a column is read, by the name of its type; a type without a rule of its own is dropped to
null. -/
inductive ColumnKind where
  | bool
  | int
  | unsigned
  | single
  | double
  | decimal
  | text
  | bytes
  | uuid
  | document
  | timestampTz
  | timestamp
  | date
  | time
  | interval
  | other
  deriving DecidableEq, Repr

namespace Cell

def textValue (b : List UInt8) : Except CellFault SqlValue :=
  match Utf8.decode b with
  | .ok cs => .ok (.text (String.ofList cs))
  | .error fault => .error (.notText fault)

/-- The compact text of a document, with the names of its objects in order. -/
def documentValue (b : List UInt8) : Except CellFault SqlValue :=
  match Json.parseInput? (.ofOctets b) with
  | some d => .ok (.text d.render)
  | none => .error .document

def dateValue (d : Time.Date) : SqlValue := .text (String.ofList d.chars)

def timeValue (second nanos : Nat) : SqlValue :=
  .text (String.ofList (Time.clockChars second nanos))

def localValue (d : Time.Date) (second nanos : Nat) : SqlValue :=
  .text (String.ofList (d.chars ++ ' ' :: Time.clockChars second nanos))

def intValue (n : Int) : SqlValue := .int (Int64.ofInt n)

/-- A number without sign is a whole number as far as the signed range goes, and a double above. -/
def unsignedValue (n : UInt64) : SqlValue :=
  if n.toNat < Nat.pow 2 63 then .int (Int64.ofNat n.toNat) else .float (.ofInt n.toNat)

end Cell

structure RowFault where
  column : Nat
  fault : CellFault
  deriving DecidableEq, Repr

def RowFault.message (f : RowFault) : String :=
  "error occurred while decoding column " ++ Numeral.ofNat f.column ++ ": " ++ f.fault.message

structure Column where
  name : String
  typeName : String
  deriving DecidableEq, Repr

/-- Reads the cells of a row from left to right, the first of them being in column number `i`. -/
def readCells (decode : String → Cell → Except CellFault SqlValue) :
    Nat → List Column → List Cell → Except RowFault (List (String × SqlValue))
  | i, column :: columns, cell :: cells =>
    match decode column.typeName cell with
    | .error fault => .error ⟨i, fault⟩
    | .ok value => (readCells decode (i + 1) columns cells).map ((column.name, value) :: ·)
  | _, _, _ => .ok []

def readRow (decode : String → Cell → Except CellFault SqlValue) (columns : List Column)
    (cells : List Cell) : Except RowFault Row :=
  (readCells decode 0 columns cells).map Row.mk

end Geoflow
