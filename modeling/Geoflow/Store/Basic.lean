import Geoflow.Json.Printer
import Geoflow.Json.Raw
import Geoflow.Pipeline
import Geoflow.Run.Session
import Geoflow.Source
import Geoflow.Store.Table
import Geoflow.Sync.External

set_option autoImplicit false

namespace Geoflow

/-- A stored data source; its port is any whole number. -/
structure SourceRow where
  ownerId : Int64
  name : String
  provider : String
  host : String
  port : Int
  database : String
  username : String
  password : String
  deriving DecidableEq, Repr

structure PipelineRow where
  ownerId : Int64
  dataSourceId : Int64
  name : String
  config : String
  deriving DecidableEq, Repr

structure SyncRow where
  ownerId : Int64
  name : String
  url : String
  method : String
  authHeaderKey : String
  authHeaderValue : String
  cronSchedule : String
  lastSyncAt : Option String := none
  deriving DecidableEq, Repr

/-- A stored session; its counts are kept as signed numbers of the same bits. -/
structure SessionRow where
  ownerId : Int64
  totalCount : Int64
  accurateCount : Int64
  fairlyCount : Int64
  inaccurateCount : Int64
  errorCount : Int64
  createdAt : String
  deriving DecidableEq, Repr

structure PointRow where
  ownerId : Int64
  batchId : String
  latitude : Binary64
  longitude : Binary64
  reportedAt : Option String
  metadata : String
  deriving DecidableEq, Repr

/-- The contents of a store. -/
structure Store where
  sources : Table SourceRow := {}
  pipelines : Table PipelineRow := {}
  syncs : Table SyncRow := {}
  sessions : Table SessionRow := {}
  points : Table PointRow := {}

/-- The store after a call, and what the call gave. -/
abbrev StoreAnswer (α : Type) := Store × Except StoreError α

namespace SourceRow

def read (key : Nat) (r : SourceRow) : Except StoreError DataSource :=
  if 0 ≤ r.port ∧ r.port < UInt16.size then
    .ok { id := Int64.ofNat key, ownerId := r.ownerId, name := r.name, provider := r.provider
          host := r.host, port := UInt16.ofNat r.port.toNat, database := r.database
          username := r.username, password := r.password }
  else .error (.database (.outOfRange r.port 5))

def ofSource (s : DataSource) : SourceRow :=
  { ownerId := s.ownerId, name := s.name, provider := s.provider, host := s.host
    port := s.port.toNat, database := s.database, username := s.username, password := s.password }

end SourceRow

def PipelineRow.read (key : Nat) (r : PipelineRow) : Except StoreError Pipeline :=
  match Json.parse? r.config with
  | some config => .ok ⟨Int64.ofNat key, r.ownerId, r.dataSourceId, r.name, config⟩
  | none => .error .serialization

namespace SyncRow

/-- The sync in a row; a time that cannot be read is none. -/
def read (key : Nat) (r : SyncRow) : ExternalSync :=
  { id := Int64.ofNat key, ownerId := r.ownerId, name := r.name, url := r.url, method := r.method
    authHeaderKey := r.authHeaderKey, authHeaderValue := r.authHeaderValue
    cronSchedule := r.cronSchedule, lastSyncAt := r.lastSyncAt.bind Instant.readPlain? }

def ofSync (s : ExternalSync) : SyncRow :=
  { ownerId := s.ownerId, name := s.name, url := s.url, method := s.method
    authHeaderKey := s.authHeaderKey, authHeaderValue := s.authHeaderValue
    cronSchedule := s.cronSchedule }

end SyncRow

namespace SessionRow

/-- The session in a row; a time that cannot be read is the start of 1970. -/
def read (r : SessionRow) : RunSession :=
  { ownerId := r.ownerId, totalCount := r.totalCount.toUInt64
    accurateCount := r.accurateCount.toUInt64, fairlyCount := r.fairlyCount.toUInt64
    inaccurateCount := r.inaccurateCount.toUInt64, errorCount := r.errorCount.toUInt64
    createdAt := (Instant.readPlain? r.createdAt).getD .epoch }

def ofSession (s : RunSession) : SessionRow :=
  { ownerId := s.ownerId, totalCount := s.totalCount.toInt64
    accurateCount := s.accurateCount.toInt64, fairlyCount := s.fairlyCount.toInt64
    inaccurateCount := s.inaccurateCount.toInt64, errorCount := s.errorCount.toInt64
    createdAt := s.createdAt.toOffsetText }

end SessionRow

end Geoflow
