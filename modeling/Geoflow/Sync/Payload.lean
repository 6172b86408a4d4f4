import Geoflow.Json.Reader

set_option autoImplicit false

namespace Geoflow

structure CoordinatePoint where
  latitude : Binary64
  longitude : Binary64
  timestamp : Option String := none
  /-- Entries ordered by name. -/
  metadata : List (String × Json) := []

/-- What an external system answers: a batch of points. -/
structure CoordinatePayload where
  batchId : String := ""
  points : List CoordinatePoint

structure IngestReceipt where
  batchId : String
  accepted : UInt64
  deriving DecidableEq, Repr

namespace CoordinatePoint

def read {δ : Type} [Document δ] : δ → Except ReadError CoordinatePoint :=
  readShape "struct CoordinatePoint" 4 fun fs =>
    CoordinatePoint.mk <$> fs.required 0 "latitude" readBinary64
      <*> fs.required 1 "longitude" readBinary64
      <*> fs.withDefault 2 "timestamp" (readOption readString) none
      <*> fs.withDefault 3 "metadata" readMap []

def toJson (p : CoordinatePoint) : Json :=
  .ofEntries [("latitude", .ofBinary64 p.latitude), ("longitude", .ofBinary64 p.longitude),
    ("timestamp", .ofOption .str p.timestamp), ("metadata", .obj p.metadata)]

end CoordinatePoint

namespace CoordinatePayload

def read {δ : Type} [Document δ] : δ → Except ReadError CoordinatePayload :=
  readShape "struct CoordinatePayload" 2 fun fs =>
    CoordinatePayload.mk <$> fs.withDefault 0 "batch_id" readString ""
      <*> fs.required 1 "points" (readList CoordinatePoint.read)

def toJson (p : CoordinatePayload) : Json :=
  .ofEntries [("batch_id", .str p.batchId), ("points", .arr (p.points.map CoordinatePoint.toJson))]

end CoordinatePayload

namespace IngestReceipt

def read {δ : Type} [Document δ] : δ → Except ReadError IngestReceipt :=
  readShape "struct IngestReceipt" 2 fun fs =>
    IngestReceipt.mk <$> fs.required 0 "batch_id" readString
      <*> fs.required 1 "accepted" readSize

def toJson (r : IngestReceipt) : Json :=
  .ofEntries [("batch_id", .str r.batchId), ("accepted", .int r.accepted.toNat)]

end IngestReceipt

/-- Reads a value from JSON text. A part of the text that no field takes need only be well-formed,
and a field may stand there once only. -/
def readText {α : Type} (read : Json.Nested → Except ReadError α) (input : Json.Input) :
    Except ReadError α :=
  match Json.Raw.parse? input with
  | some raw => read ⟨raw, Json.depthLimit⟩
  | none => .error .meaningless

end Geoflow
