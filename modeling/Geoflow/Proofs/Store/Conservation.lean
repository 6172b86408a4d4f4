import Geoflow.Proofs.Store.Transcript

set_option autoImplicit false

namespace Geoflow

def StoreEntry.pointsUnder (batchId : String) : StoreEntry → List (Int64 × CoordinatePoint)
  | ⟨.insertPoints ownerId payload, .ok _⟩ =>
    if payload.batchId = batchId then payload.points.map (ownerId, ·) else []
  | _ => []

def StoreEntry.countUnder (batchId : String) : StoreEntry → Nat
  | ⟨.insertPoints _ payload, .ok _⟩ =>
    if payload.batchId = batchId then payload.points.length else 0
  | _ => 0

theorem StoreEntry.length_pointsUnder (batchId : String) (entry : StoreEntry) :
    (entry.pointsUnder batchId).length = entry.countUnder batchId := by
  unfold pointsUnder countUnder
  split
  · split
    · rw [List.length_map]
    · rfl
  · rfl

namespace Store

variable {s t : Store} {change : StoreChange} {reply : Except StoreError StoreReply}
  {ownerId : Int64} {batchId : String} {payload : CoordinatePayload}

/-- The stored points of a batch are the given ones, in their order. -/
def Keeps (s : Store) (batchId : String) (given : List (Int64 × CoordinatePoint)) : Prop :=
  List.Forall₂ (fun entry row => PointRow.Holds entry.1 batchId entry.2 row) given
    (s.pointsOf batchId)

theorem pointsOf_addPoints (s : Store) (ownerId : Int64) (payload : CoordinatePayload)
    (batchId : String) : (s.addPoints ownerId payload).pointsOf batchId = s.pointsOf batchId ++
      if payload.batchId = batchId then payload.points.map (pointRow ownerId batchId) else [] := by
  obtain ⟨fresh, behind, contents⟩ :=
    s.points.rows_pushAll (payload.points.map (pointRow ownerId payload.batchId))
  rw [pointsOf, pointsOf, addPoints]
  dsimp only
  rw [behind, List.map_append, List.filter_append, contents]
  congr 1
  split
  · rename_i same
    rw [List.filter_eq_self.mpr, same]
    intro row mem
    obtain ⟨p, -, rfl⟩ := List.mem_map.mp mem
    exact beq_iff_eq.mpr same
  · rename_i other
    rw [List.filter_eq_nil_iff]
    intro row mem
    obtain ⟨p, -, rfl⟩ := List.mem_map.mp mem
    exact fun passes => other (beq_iff_eq.mp passes)

theorem keeps_addPoints {given : List (Int64 × CoordinatePoint)} (keeps : s.Keeps batchId given) :
    (s.addPoints ownerId payload).Keeps batchId
      (given ++ if payload.batchId = batchId then payload.points.map (ownerId, ·) else []) := by
  rw [Keeps, pointsOf_addPoints]
  refine List.rel_append keeps ?_
  split
  · rw [List.forall₂_map_left_iff, List.forall₂_map_right_iff, List.forall₂_same]
    exact fun p _ => pointRow_holds ownerId batchId p
  · exact .nil

/-- Nothing but a payload that is taken changes what is stored of a batch. -/
theorem Effect.keeps {given : List (Int64 × CoordinatePoint)} (effect : Effect s change t reply)
    (keeps : s.Keeps batchId given) :
    t.Keeps batchId (given ++ StoreEntry.pointsUnder batchId ⟨change, reply⟩) := by
  cases effect with
  | insertPoints ownerId payload => exact keeps_addPoints keeps
  | refused fault =>
    have nothing : StoreEntry.pointsUnder batchId ⟨change, .error (.database fault)⟩ = [] := by
      cases change <;> rfl
    rwa [nothing, List.append_nil]
  | insertSource | insertPipeline | updateConfig | deletePipeline | insertSync | updateLastSync
  | insertSession =>
    simp only [StoreEntry.pointsUnder, List.append_nil]
    exact keeps

theorem after_keeps (changes : List StoreChange) (batchId : String) :
    (after changes).Keeps batchId
      ((transcript {} changes).flatMap (StoreEntry.pointsUnder batchId)) := by
  refine transcript_induction
    (motive := fun log s => s.Keeps batchId (log.flatMap (StoreEntry.pointsUnder batchId)))
    .nil ?_ changes
  intro log s change t reply _ keeps effect
  rw [List.flatMap_append, List.flatMap_singleton]
  exact effect.keeps keeps

/-- In every store with a history a payload is taken as a whole or not at all, and the points of a
batch are those of the payloads under its name that were taken. -/
theorem points_conserved (changes : List StoreChange) :
    (∀ ownerId payload, (after changes).IngestsWhole ownerId payload) ∧
      ∀ batchId, (after changes).countPoints batchId =
          ((transcript {} changes).map (StoreEntry.countUnder batchId)).sum ∧
        (after changes).Keeps batchId
          ((transcript {} changes).flatMap (StoreEntry.pointsUnder batchId)) := by
  refine ⟨ingestsWhole (after_sound changes).points, fun batchId => ?_⟩
  have keeps := after_keeps changes batchId
  refine ⟨?_, keeps⟩
  rw [countPoints, ← keeps.length_eq, List.length_flatMap]
  congr 1
  exact List.map_congr_left fun entry _ => entry.length_pointsUnder batchId

end Store

end Geoflow
