import Geoflow.Cell.Basic
import Geoflow.Json.Printer
import Geoflow.Text.Hex

set_option autoImplicit false

namespace Geoflow.Postgres

def kindOf (typeName : String) : ColumnKind :=
  match typeName with
  | "BOOL" => .bool
  | "INT2" | "INT4" | "INT8" => .int
  | "FLOAT4" => .single
  | "FLOAT8" => .double
  | "NUMERIC" => .decimal
  | "TEXT" | "VARCHAR" | "BPCHAR" | "CHAR" | "NAME" | "CITEXT" => .text
  | "BYTEA" => .bytes
  | "UUID" => .uuid
  | "JSON" | "JSONB" => .document
  | "TIMESTAMPTZ" => .timestampTz
  | "TIMESTAMP" => .timestamp
  | "DATE" => .date
  | "TIME" => .time
  | "INTERVAL" => .interval
  | _ => .other

/-- The start of 2000 in seconds from 1970. -/
def epochSeconds : Int := 946684800

def microsPerDay : Int := 86400000000

/-- The instant of a count of microseconds. -/
def instantOf (micros : Int) : Instant :=
  ⟨epochSeconds + micros / 1000000, (micros % 1000000).toNat * 1000⟩

def dateOf (days : Int) : Time.Date := .ofDays (epochSeconds / 86400 + days)

/-- The sixteen octets of an identifier in five groups of hexadecimal digits. -/
def uuidText (b : List UInt8) : String :=
  let ds := Hex.encode b
  String.ofList (ds.take 8 ++ '-' :: (ds.drop 8).take 4 ++ '-' :: (ds.drop 12).take 4
    ++ '-' :: (ds.drop 16).take 4 ++ '-' :: ds.drop 20)

def readKind (typeName : String) : ColumnKind → Cell → Except CellFault SqlValue
  | .bool, .whole n => .ok (.bool (n != 0))
  | .int, .whole n => .ok (Cell.intValue n)
  | .single, .single bits => .ok (.float (.ofSingle bits))
  | .double, .double x => .ok (.float x)
  | .decimal, .grouped d => .ok (.text d.toExact.toText)
  | .decimal, .notANumber => .error .notANumber
  | .text, .octets b => Cell.textValue b
  | .bytes, .octets b => .ok (.bytes b)
  | .uuid, .octets b => .ok (.text (uuidText b))
  | .document, .octets b => Cell.documentValue b
  | .timestampTz, .whole micros => .ok (.text (instantOf micros).toOffsetText)
  | .timestamp, .whole micros =>
    let t := instantOf micros
    .ok (Cell.localValue (.ofDays (t.seconds / 86400)) (t.seconds % 86400).toNat t.nanos)
  | .date, .whole days => .ok (Cell.dateValue (dateOf days))
  | .time, .whole micros =>
    let ofDay := (micros % microsPerDay).toNat
    .ok (Cell.timeValue (ofDay / 1000000) (ofDay % 1000000 * 1000))
  | .interval, .interval i => .ok (.text i.toText)
  | .other, .octets b =>
    if typeName = "UNKNOWN" then .ok ((Cell.textValue b).toOption.getD .null) else .ok .null
  | .other, _ => .ok .null
  | _, _ => .error .unexpectedForm

def readCell (typeName : String) : Cell → Except CellFault SqlValue
  | .null => .ok .null
  | cell => readKind typeName (kindOf typeName) cell

end Geoflow.Postgres
