import Geoflow.Store.Basic
import Geoflow.Sync.Payload

set_option autoImplicit false

namespace Geoflow.Store

def insertSession (s : Store) (session : RunSession) : StoreAnswer Int64 :=
  match s.sessions.insert (.ofSession session) with
  | (_, .error fault) => (s, .error (.database fault))
  | (sessions, .ok key) => ({ s with sessions }, .ok (Int64.ofNat key))

/-- The newest sessions of an owner, newest first. -/
def listSessions (s : Store) (ownerId : Int64) (limit : UInt32) : List RunSession :=
  ((s.sessions.rows.reverse.filter fun row => row.2.ownerId == ownerId).take limit.toNat).map
    fun row => row.2.read

/-- A number as its column keeps it; a zero has no sign there. -/
def storedNumber (x : Binary64) : Binary64 := if x.isZero then .zero false else x

def pointRow (ownerId : Int64) (batchId : String) (p : CoordinatePoint) : PointRow :=
  { ownerId, batchId, latitude := storedNumber p.latitude, longitude := storedNumber p.longitude
    reportedAt := p.timestamp, metadata := (Json.obj p.metadata).render }

/-- Adds a point; a coordinate that is no number counts as missing. -/
def insertPoint (t : Table PointRow) (ownerId : Int64) (batchId : String) (p : CoordinatePoint) :
    Table PointRow × Except DatabaseFault Nat :=
  if t.blocked then (t, .error .blocked)
  else if p.latitude.isNaN then (t, .error (.missingValue "sync_points.latitude"))
  else if p.longitude.isNaN then (t, .error (.missingValue "sync_points.longitude"))
  else t.insert (pointRow ownerId batchId p)

def insertEach (t : Table PointRow) (ownerId : Int64) (batchId : String) :
    List CoordinatePoint → Table PointRow × Except DatabaseFault Unit
  | [] => (t, .ok ())
  | p :: rest =>
    match insertPoint t ownerId batchId p with
    | (t, .ok _) => insertEach t ownerId batchId rest
    | (t, .error fault) => (t, .error fault)

/-- Stores the points of a payload and says how many there are. If one is refused, those before it
are taken back. -/
def insertPoints (s : Store) (ownerId : Int64) (payload : CoordinatePayload) : StoreAnswer Nat :=
  match insertEach s.points ownerId payload.batchId payload.points with
  | (points, .ok _) => ({ s with points }, .ok payload.points.length)
  | (_, .error fault) => (s, .error (.database fault))

def pointsOf (s : Store) (batchId : String) : List PointRow :=
  (s.points.rows.map (·.2)).filter fun row => row.batchId == batchId

def countPoints (s : Store) (batchId : String) : Nat := (s.pointsOf batchId).length

def ingest (s : Store) (ownerId : Int64) (payload : CoordinatePayload) :
    StoreAnswer IngestReceipt :=
  let (s, answer) := s.insertPoints ownerId payload
  (s, answer.map fun count => ⟨payload.batchId, UInt64.ofNat count⟩)

end Geoflow.Store
