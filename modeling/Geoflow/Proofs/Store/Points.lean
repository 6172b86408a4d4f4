import Geoflow.Proofs.Store.Lookup
import Geoflow.Store.Results

set_option autoImplicit false

namespace Geoflow

/-- Two numbers are the same number, the sign of zero aside. -/
def Binary64.SameNumber (x y : Binary64) : Prop := x = y ∨ x.isZero ∧ y.isZero

/-- The column that a point leaves without a value. -/
def CoordinatePoint.missing? (p : CoordinatePoint) : Option String :=
  if p.latitude.isNaN then some "sync_points.latitude"
  else if p.longitude.isNaN then some "sync_points.longitude"
  else none

/-- A row that holds a point, with its owner and its batch. -/
structure PointRow.Holds (ownerId : Int64) (batchId : String) (p : CoordinatePoint)
    (row : PointRow) : Prop where
  ownerId : row.ownerId = ownerId
  batchId : row.batchId = batchId
  latitude : row.latitude.SameNumber p.latitude
  longitude : row.longitude.SameNumber p.longitude
  reportedAt : row.reportedAt = p.timestamp
  metadata : row.metadata = (Json.obj p.metadata).render

namespace Table

variable {ρ : Type} {t : Table ρ}

def pushAll (t : Table ρ) (rows : List ρ) : Table ρ := rows.foldl push t

theorem Sound.pushAll (sound : t.Sound) (rows : List ρ)
    (room : t.issued + rows.length ≤ greatestId) : (t.pushAll rows).Sound := by
  induction rows generalizing t with
  | nil => exact sound
  | cons row rest ih =>
    rw [List.length_cons] at room
    exact ih (sound.push (by omega) row) (by rw [issued_push]; omega)

theorem rows_pushAll (t : Table ρ) (rows : List ρ) :
    ∃ fresh, (t.pushAll rows).rows = t.rows ++ fresh ∧ fresh.map Prod.snd = rows := by
  induction rows generalizing t with
  | nil => exact ⟨[], (List.append_nil _).symm, rfl⟩
  | cons row rest ih =>
    obtain ⟨fresh, behind, contents⟩ := ih (t.push row)
    refine ⟨(t.issued + 1, row) :: fresh, ?_, congrArg (row :: ·) contents⟩
    rw [pushAll, List.foldl_cons, ← pushAll, behind, push, List.append_assoc, List.singleton_append]

end Table

namespace Store

variable {s : Store} {t : Table PointRow} {ownerId : Int64} {batchId : String} {p : CoordinatePoint}
  {points : List CoordinatePoint} {payload : CoordinatePayload} {column : String}

theorem storedNumber_same (x : Binary64) : (storedNumber x).SameNumber x := by
  rw [storedNumber]
  split
  · rename_i zero
    exact Or.inr ⟨by decide, zero⟩
  · exact Or.inl rfl

theorem pointRow_holds (ownerId : Int64) (batchId : String) (p : CoordinatePoint) :
    PointRow.Holds ownerId batchId p (pointRow ownerId batchId p) :=
  ⟨rfl, rfl, storedNumber_same _, storedNumber_same _, rfl, rfl⟩

theorem insertPoint_of_missing (sound : t.Sound) (missing : p.missing? = some column) :
    insertPoint t ownerId batchId p = (t, .error (.missingValue column)) := by
  rw [insertPoint, if_neg sound.not_blocked]
  rw [CoordinatePoint.missing?] at missing
  split at missing
  · rename_i latitude
    rw [if_pos latitude, Option.some.inj missing]
  · rename_i latitude
    split at missing
    · rename_i longitude
      rw [if_neg latitude, if_pos longitude, Option.some.inj missing]
    · cases missing

theorem insertPoint_of_whole (sound : t.Sound) (whole : p.missing? = none) :
    insertPoint t ownerId batchId p = t.insert (pointRow ownerId batchId p) := by
  rw [insertPoint, if_neg sound.not_blocked]
  rw [CoordinatePoint.missing?] at whole
  split at whole
  · cases whole
  · rename_i latitude
    split at whole
    · cases whole
    · rename_i longitude
      rw [if_neg latitude, if_neg longitude]

theorem insertEach_cons_of_whole (sound : t.Sound) (whole : p.missing? = none) (room : t.HasRoom) :
    insertEach t ownerId batchId (p :: points) =
      insertEach (t.push (pointRow ownerId batchId p)) ownerId batchId points := by
  rw [insertEach, insertPoint_of_whole sound whole, sound.insert_of_room room]

theorem insertEach_cons_of_full (sound : t.Sound) (whole : p.missing? = none) (full : ¬ t.HasRoom) :
    insertEach t ownerId batchId (p :: points) = (t, .error .full) := by
  rw [insertEach, insertPoint_of_whole sound whole, sound.insert_of_full full]

theorem insertEach_cons_of_missing (sound : t.Sound) (missing : p.missing? = some column) :
    insertEach t ownerId batchId (p :: points) = (t, .error (.missingValue column)) := by
  rw [insertEach, insertPoint_of_missing sound missing]

/-- Points that all come in have their coordinates, and numbers were left for them. -/
theorem insertEach_of_ok (sound : t.Sound) {u : Table PointRow}
    (taken : insertEach t ownerId batchId points = (u, .ok ())) :
    u = t.pushAll (points.map (pointRow ownerId batchId)) ∧ (∀ p ∈ points, p.missing? = none) ∧
      t.issued + points.length ≤ Table.greatestId := by
  induction points generalizing t with
  | nil =>
    cases taken
    exact ⟨rfl, List.forall_mem_nil _, sound.room⟩
  | cons p rest ih =>
    cases missing : p.missing? with
    | some column =>
      rw [insertEach_cons_of_missing sound missing] at taken
      cases taken
    | none =>
      by_cases room : t.HasRoom
      · rw [insertEach_cons_of_whole sound missing room] at taken
        obtain ⟨table, whole, fits⟩ := ih (sound.push room _) taken
        rw [Table.issued_push] at fits
        refine ⟨table, List.forall_mem_cons.mpr ⟨missing, whole⟩, ?_⟩
        rw [List.length_cons]
        omega
      · rw [insertEach_cons_of_full sound missing room] at taken
        cases taken

/-- With numbers left for all, the first missing coordinate decides. -/
theorem insertEach_answer (ownerId : Int64) (batchId : String) (sound : t.Sound)
    (room : t.issued + points.length ≤ Table.greatestId) :
    (insertEach t ownerId batchId points).2 =
      match points.findSome? CoordinatePoint.missing? with
      | none => .ok ()
      | some column => .error (.missingValue column) := by
  induction points generalizing t with
  | nil => rfl
  | cons p rest ih =>
    rw [List.length_cons] at room
    cases missing : p.missing? with
    | some column =>
      rw [insertEach_cons_of_missing sound missing, List.findSome?_cons, missing]
    | none =>
      have hasRoom : t.HasRoom := by omega
      rw [insertEach_cons_of_whole sound missing hasRoom, List.findSome?_cons, missing]
      exact ih (sound.push hasRoom _) (by rw [Table.issued_push]; omega)

/-- A store that takes a payload as a whole or not at all. -/
structure IngestsWhole (s : Store) (ownerId : Int64) (payload : CoordinatePayload) : Prop where
  /-- Exactly the points come in, behind all others, and nothing else changes. -/
  stored : ∀ after count, s.insertPoints ownerId payload = (after, .ok count) →
    count = payload.points.length ∧ ∃ fresh,
      after = { s with points := after.points } ∧ after.points.rows = s.points.rows ++ fresh ∧
      List.Forall₂ (PointRow.Holds ownerId payload.batchId) payload.points (fresh.map Prod.snd)
  refused : ∀ after e, s.insertPoints ownerId payload = (after, .error e) → after = s
  /-- As long as there are numbers left, a payload is refused only for a missing coordinate. -/
  answer : s.points.issued + payload.points.length ≤ Table.greatestId →
    (s.insertPoints ownerId payload).2 =
      match payload.points.findSome? CoordinatePoint.missing? with
      | none => .ok payload.points.length
      | some column => .error (.database (.missingValue column))

def addPoints (s : Store) (ownerId : Int64) (payload : CoordinatePayload) : Store :=
  let rows := payload.points.map (pointRow ownerId payload.batchId)
  { s with points := s.points.pushAll rows }

/-- A payload comes in as a whole, or is refused without effect. -/
theorem insertPoints_cases (sound : s.points.Sound) (ownerId : Int64)
    (payload : CoordinatePayload) :
    s.insertPoints ownerId payload = (s.addPoints ownerId payload, .ok payload.points.length) ∧
        s.points.issued + payload.points.length ≤ Table.greatestId ∨
    ∃ fault, s.insertPoints ownerId payload = (s, .error (.database fault)) := by
  rw [insertPoints]
  split
  · rename_i table _ taken
    obtain ⟨rfl, -, room⟩ := insertEach_of_ok sound taken
    exact Or.inl ⟨rfl, room⟩
  · rename_i fault _
    exact Or.inr ⟨fault, rfl⟩

theorem insertPoints_of_error {after : Store} {e : StoreError}
    (refused : s.insertPoints ownerId payload = (after, .error e)) : after = s := by
  rw [insertPoints] at refused
  split at refused
  · cases refused
  · cases refused
    rfl

theorem ingestsWhole (sound : s.points.Sound) (ownerId : Int64) (payload : CoordinatePayload) :
    s.IngestsWhole ownerId payload where
  stored after count taken := by
    obtain ⟨whole, -⟩ | ⟨fault, refused⟩ := insertPoints_cases sound ownerId payload
    · rw [whole] at taken
      cases taken
      obtain ⟨fresh, behind, contents⟩ :=
        s.points.rows_pushAll (payload.points.map (pointRow ownerId payload.batchId))
      refine ⟨rfl, fresh, rfl, behind, ?_⟩
      rw [contents, List.forall₂_map_right_iff, List.forall₂_same]
      exact fun p _ => pointRow_holds ownerId payload.batchId p
    · rw [refused] at taken
      cases taken
  refused _ _ := insertPoints_of_error
  answer room := by
    have decides := insertEach_answer ownerId payload.batchId sound room
    rw [insertPoints]
    split
    · rename_i taken
      rw [taken] at decides
      split at decides
      · rfl
      · cases decides
    · rename_i taken
      rw [taken] at decides
      split at decides
      · cases decides
      · cases decides
        rfl

end Store

end Geoflow
