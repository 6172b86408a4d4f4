import Geoflow.Text.Blank
import Geoflow.Sql.Config

set_option autoImplicit false

namespace Geoflow

/-- A saved pipeline. Its document has two halves, which a `PipelineConfig` and a `ScheduleConfig`
read, each by its own field names. -/
structure Pipeline where
  id : Int64
  ownerId : Int64
  dataSourceId : Int64
  name : String
  config : Json

structure ScheduleConfig where
  cron : Option String := none
  cronActive : Bool := false
  deriving DecidableEq, Repr

def readDocument {δ : Type} [Document δ] (d : δ) : Except ReadError Json := Document.toJson d

namespace Pipeline

def read {δ : Type} [Document δ] : δ → Except ReadError Pipeline :=
  readShape "struct Pipeline" 5 fun fs =>
    Pipeline.mk <$> fs.required 0 "id" readInt64
      <*> fs.required 1 "owner_id" readInt64
      <*> fs.required 2 "data_source_id" readInt64
      <*> fs.required 3 "name" readString
      <*> fs.required 4 "config" readDocument

def toJson (p : Pipeline) : Json :=
  .ofEntries [("id", .int p.id.toInt), ("owner_id", .int p.ownerId.toInt),
    ("data_source_id", .int p.dataSourceId.toInt), ("name", .str p.name), ("config", p.config)]

end Pipeline

namespace ScheduleConfig

def read {δ : Type} [Document δ] : δ → Except ReadError ScheduleConfig :=
  readShape "struct ScheduleConfig" 2 fun fs =>
    ScheduleConfig.mk <$> fs.withDefault 0 "cron" (readOption readString) none
      <*> fs.withDefault 1 "cron_active" readBool false

def toJson (c : ScheduleConfig) : Json :=
  .ofEntries [("cron", .ofOption .str c.cron), ("cron_active", .bool c.cronActive)]

/-- The cron text of a pipeline that is to be scheduled: active, and not blank. -/
def activeCron (c : ScheduleConfig) : Option String :=
  if c.cronActive then (c.cron.map Text.trim).filter fun cron => !cron.isEmpty else none

end ScheduleConfig

end Geoflow
