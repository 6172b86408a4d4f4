import Geoflow.Run.Session

set_option autoImplicit false

namespace Geoflow

def accuracyLabels : List String := ["accurate", "fairly_accurate", "inaccurate"]

namespace ValidationResult

variable {r : ValidationResult}

/-- A result that no label places: it carries an error, or a label that is none of the three. -/
def isUnplaced (r : ValidationResult) : Bool :=
  r.error.isSome || !accuracyLabels.contains r.accuracyLevel

theorem bucket_eq_error_iff : r.bucket = .error ↔ r.isUnplaced = true := by
  unfold bucket isUnplaced accuracyLabels
  by_cases failed : r.error.isSome = true
  · simp [failed]
  · rw [if_neg failed, Bool.eq_false_iff.mpr failed, Bool.false_or]
    split
    · simp [*]
    · split
      · simp [*]
      · split <;> simp [*]

end ValidationResult

namespace RunSession

def count (s : RunSession) : Bucket → UInt64
  | .accurate => s.accurateCount
  | .fairly => s.fairlyCount
  | .inaccurate => s.inaccurateCount
  | .error => s.errorCount

theorem count_record (s : RunSession) (r : ValidationResult) (bucket : Bucket) :
    (s.record r).count bucket = s.count bucket + if r.bucket = bucket then 1 else 0 := by
  unfold record
  cases r.bucket <;> cases bucket <;> simp [count]

theorem count_foldl (results : List ValidationResult) (s : RunSession) (bucket : Bucket) :
    (results.foldl record s).count bucket =
      s.count bucket + .ofNat (results.countP (·.bucket = bucket)) := by
  induction results generalizing s with
  | nil => simp
  | cons r rest ih =>
    rw [List.foldl_cons, ih, count_record, List.countP_cons, UInt64.ofNat_add, UInt64.add_assoc]
    by_cases here : r.bucket = bucket
    · simp [here, UInt64.add_comm]
    · simp [here]

theorem count_empty (ownerId : Int64) (now : Instant) (bucket : Bucket) :
    (empty ownerId now).count bucket = 0 := by
  cases bucket <;> rfl

/-- The counter of errors counts the results that no label places. -/
theorem errorCount_foldl (results : List ValidationResult) (ownerId : Int64) (now : Instant) :
    (results.foldl record (.empty ownerId now)).errorCount =
      .ofNat (results.countP ValidationResult.isUnplaced) := by
  have counted := count_foldl results (.empty ownerId now) .error
  have same : results.countP (·.bucket = .error) = results.countP ValidationResult.isUnplaced :=
    List.countP_congr fun r _ => by simp [ValidationResult.bucket_eq_error_iff]
  rwa [count_empty, UInt64.zero_add, same] at counted

end RunSession

theorem totalCount_foldl (results : List ValidationResult) (session : RunSession) :
    (results.foldl RunSession.record session).totalCount =
      session.totalCount + UInt64.ofNat results.length := by
  induction results generalizing session with
  | nil => simp
  | cons result rest ih =>
    have counted : (session.record result).totalCount = session.totalCount + 1 := by
      unfold RunSession.record
      cases result.bucket <;> rfl
    rw [List.foldl_cons, ih, counted, List.length_cons, UInt64.ofNat_add, UInt64.add_assoc,
      UInt64.add_comm 1]
    rfl

end Geoflow
