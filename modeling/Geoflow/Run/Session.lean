import Geoflow.Time.Instant
import Geoflow.Validation.Result

set_option autoImplicit false

namespace Geoflow

structure RunSession where
  ownerId : Int64
  totalCount : UInt64
  accurateCount : UInt64
  fairlyCount : UInt64
  inaccurateCount : UInt64
  errorCount : UInt64
  createdAt : Instant
  deriving DecidableEq, Repr

/-- The buckets of results. -/
inductive Bucket where
  | accurate
  | fairly
  | inaccurate
  | error
  deriving DecidableEq, Repr

/-- The bucket of a result; an error counts before any label, and a label that is none of the three
counts as an error. -/
def ValidationResult.bucket (r : ValidationResult) : Bucket :=
  if r.error.isSome then .error
  else if r.accuracyLevel = "accurate" then .accurate
  else if r.accuracyLevel = "fairly_accurate" then .fairly
  else if r.accuracyLevel = "inaccurate" then .inaccurate
  else .error

namespace RunSession

def empty (ownerId : Int64) (createdAt : Instant) : RunSession :=
  ⟨ownerId, 0, 0, 0, 0, 0, createdAt⟩

def record (s : RunSession) (r : ValidationResult) : RunSession :=
  let counted := { s with totalCount := s.totalCount + 1 }
  match r.bucket with
  | .accurate => { counted with accurateCount := s.accurateCount + 1 }
  | .fairly => { counted with fairlyCount := s.fairlyCount + 1 }
  | .inaccurate => { counted with inaccurateCount := s.inaccurateCount + 1 }
  | .error => { counted with errorCount := s.errorCount + 1 }

def read {δ : Type} [Document δ] : δ → Except ReadError RunSession :=
  readShape "struct RunSession" 7 fun fs =>
    RunSession.mk <$> fs.required 0 "owner_id" readInt64
      <*> fs.required 1 "total_count" readUInt64
      <*> fs.required 2 "accurate_count" readUInt64
      <*> fs.required 3 "fairly_count" readUInt64
      <*> fs.required 4 "inaccurate_count" readUInt64
      <*> fs.required 5 "error_count" readUInt64
      <*> fs.required 6 "created_at" readInstant

def toJson (s : RunSession) : Json :=
  .ofEntries [("owner_id", .int s.ownerId.toInt), ("total_count", .int s.totalCount.toNat),
    ("accurate_count", .int s.accurateCount.toNat), ("fairly_count", .int s.fairlyCount.toNat),
    ("inaccurate_count", .int s.inaccurateCount.toNat), ("error_count", .int s.errorCount.toNat),
    ("created_at", s.createdAt.toJson)]

end RunSession

end Geoflow
