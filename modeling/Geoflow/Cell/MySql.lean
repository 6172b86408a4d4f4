import Geoflow.Cell.Basic
import Geoflow.Json.Printer

set_option autoImplicit false

namespace Geoflow.MySql

def kindOf (typeName : String) : ColumnKind :=
  match typeName with
  | "BOOLEAN" => .bool
  | "TINYINT" | "SMALLINT" | "MEDIUMINT" | "INT" | "BIGINT" => .int
  | "TINYINT UNSIGNED" | "SMALLINT UNSIGNED" | "MEDIUMINT UNSIGNED" | "INT UNSIGNED"
  | "BIGINT UNSIGNED" => .unsigned
  | "FLOAT" => .single
  | "DOUBLE" => .double
  | "DECIMAL" => .decimal
  | "CHAR" | "VARCHAR" | "TINYTEXT" | "TEXT" | "MEDIUMTEXT" | "LONGTEXT" | "ENUM" | "SET" => .text
  | "BINARY" | "VARBINARY" | "TINYBLOB" | "BLOB" | "MEDIUMBLOB" | "LONGBLOB" | "BIT" => .bytes
  | "JSON" => .document
  | "TIMESTAMP" => .timestampTz
  | "DATETIME" => .timestamp
  | "DATE" => .date
  | "TIME" => .time
  | _ => .other

/-- The types whose cells are neither text nor octets, although they are sent as such. -/
def isMismatched (typeName : String) : Bool := typeName = "SET" || typeName = "BIT"

/-- A time of day in seconds and nanoseconds, if it is one. In the last second of a minute there may
be a leap second. -/
def timeOfDay? (hour minute second micros : Nat) : Option (Nat × Nat) :=
  if hour < 24 ∧ minute < 60 ∧ second < 60 ∧
      (micros < 1000000 ∨ (second = 59 ∧ micros < 2000000)) then
    some (hour * 3600 + minute * 60 + second, micros * 1000)
  else none

def readDate (year month day : Nat) : Except CellFault Time.Date :=
  let d : Time.Date := ⟨year, month, day⟩
  if d.isValid then .ok d else .error (.invalidDate year month day)

def readCalendar : List Nat → Except CellFault (Time.Date × Nat × Nat)
  | year :: month :: day :: rest => do
    let date ← readDate year month day
    let (hour, minute, second, micros) := match rest with
      | hour :: minute :: second :: micros => (hour, minute, second, micros.headD 0)
      | _ => (0, 0, 0, 0)
    match timeOfDay? hour minute second micros with
    | some (seconds, nanos) => return (date, seconds, nanos)
    | none => throw (.invalidTime hour minute second micros)
  | _ => .error .unexpectedForm

def readInstant (fields : List Nat) : Except CellFault Instant := do
  let (date, seconds, nanos) ← readCalendar fields
  return ⟨date.toDays * 86400 + seconds, nanos⟩

def textOrBytes (b : List UInt8) : SqlValue := (Cell.textValue b).toOption.getD (.bytes b)

/-- Reads a cell that is not null. A time that is no time of day is dropped, and so is its sign. -/
def readKind (typeName : String) : ColumnKind → Cell → Except CellFault SqlValue
  | .bool, .whole n => .ok (.bool (n != 0))
  | .int, .whole n => .ok (Cell.intValue n)
  | .unsigned, .whole n => .ok (Cell.unsignedValue (UInt64.ofInt n))
  | .single, .single bits => .ok (.float (.ofSingle bits))
  | .double, .double x => .ok (.float x)
  | .decimal, .octets b => do
    let cs ← (Utf8.decode b).mapError CellFault.notText
    let d ← (ExactDecimal.read cs).mapError CellFault.decimal
    return .text d.toText
  | .text, .octets b =>
    if isMismatched typeName then .error (.mismatchedType typeName) else .ok (textOrBytes b)
  | .bytes, .octets b =>
    if isMismatched typeName then .error (.mismatchedType typeName) else .ok (.bytes b)
  | .document, .octets b => Cell.documentValue b
  | .timestampTz, .calendar fields => do return .text (← readInstant fields).toOffsetText
  | .timestamp, .calendar fields => do
    let (date, seconds, nanos) ← readCalendar fields
    return Cell.localValue date seconds nanos
  | .date, .calendar (year :: month :: day :: _) => do
    return Cell.dateValue (← readDate year month day)
  | .time, .clock _ days hours minutes seconds micros =>
    .ok (match timeOfDay? (days * 24 + hours) minutes seconds micros with
      | some (second, nanos) => Cell.timeValue second nanos
      | none => .null)
  | .other, _ => .ok .null
  | _, _ => .error .unexpectedForm

/-- Reads a cell of a column of a type; the date without fields is null. -/
def readCell (typeName : String) : Cell → Except CellFault SqlValue
  | .null => .ok .null
  | .calendar [] => .ok .null
  | cell => readKind typeName (kindOf typeName) cell

end Geoflow.MySql
