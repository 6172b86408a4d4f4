import Geoflow.Proofs.Schedule.JobKey
import Geoflow.Schedule.Scheduler

set_option autoImplicit false

namespace Geoflow.Registry

/-- Entries in strictly ascending order of their keys. -/
def Ordered (r : Registry) : Prop := r.Pairwise fun a b => a.key.Precedes b.key

@[simp] theorem mem_erase {r : Registry} {key : JobKey} {entry : Registration} :
    entry ∈ r.erase key ↔ entry ∈ r ∧ entry.key ≠ key := by
  simp [erase]

@[simp] theorem mem_insert {r : Registry} {new entry : Registration} :
    entry ∈ r.insert new ↔ entry = new ∨ entry ∈ r := by
  induction r with
  | nil => simp [insert]
  | cons other rest ih =>
    simp only [insert]
    split
    · simp only [List.mem_cons, ih]
      exact or_left_comm
    · exact List.mem_cons

theorem Ordered.erase {r : Registry} (ordered : r.Ordered) (key : JobKey) :
    (r.erase key).Ordered :=
  List.Pairwise.filter _ ordered

theorem Ordered.insert {r : Registry} (ordered : r.Ordered) (new : Registration)
    (absent : ∀ entry ∈ r, entry.key ≠ new.key) : (r.insert new).Ordered := by
  induction r with
  | nil => simp [Registry.insert, Ordered]
  | cons other rest ih =>
    obtain ⟨first, later⟩ := List.pairwise_cons.mp ordered
    have distinct : other.key ≠ new.key := absent other List.mem_cons_self
    simp only [Registry.insert]
    split
    · rename_i below
      refine List.pairwise_cons.mpr
        ⟨?_, ih later fun e mem => absent e (List.mem_cons_of_mem _ mem)⟩
      intro entry mem
      rcases mem_insert.mp mem with rfl | mem
      · exact ⟨below, distinct⟩
      · exact first entry mem
    · rename_i notBelow
      have precedes := JobKey.precedes_of_not_le (Bool.eq_false_iff.mpr notBelow)
      refine List.pairwise_cons.mpr ⟨?_, ordered⟩
      intro entry mem
      rcases List.mem_cons.mp mem with rfl | mem
      · exact precedes
      · exact precedes.trans (first entry mem)

/-- A key has at most one entry. -/
theorem Ordered.unique {r : Registry} (ordered : r.Ordered) {a b : Registration} (left : a ∈ r)
    (right : b ∈ r) (same : a.key = b.key) : a = b := by
  induction r with
  | nil => simp at left
  | cons other rest ih =>
    obtain ⟨first, later⟩ := List.pairwise_cons.mp ordered
    rcases List.mem_cons.mp left with rfl | inLeft <;>
      rcases List.mem_cons.mp right with rfl | inRight
    · rfl
    · exact absurd same (first b inRight).2
    · exact absurd same.symm (first a inLeft).2
    · exact ih later inLeft inRight

theorem Ordered.nodup {r : Registry} (ordered : r.Ordered) : r.Nodup :=
  List.Pairwise.imp (fun precedes same => precedes.2 (congrArg Registration.key same)) ordered

theorem find?_eq_none {r : Registry} {key : JobKey} :
    r.find? key = none ↔ ∀ entry ∈ r, entry.key ≠ key := by
  simp [find?]

theorem key_of_find? {r : Registry} {key : JobKey} {entry : Registration}
    (found : r.find? key = some entry) : entry.key = key := by
  simpa using List.find?_some found

theorem mem_of_find? {r : Registry} {key : JobKey} {entry : Registration}
    (found : r.find? key = some entry) : entry ∈ r :=
  List.mem_of_find?_eq_some found

theorem erase_of_absent {r : Registry} {key : JobKey} (absent : ∀ entry ∈ r, entry.key ≠ key) :
    r.erase key = r := by
  refine List.filter_eq_self.mpr ?_
  intro entry mem
  simpa using absent entry mem

theorem isSome_find?_iff {r : Registry} {key : JobKey} :
    (r.find? key).isSome = true ↔ ∃ entry ∈ r, entry.key = key := by
  simp [find?]

end Geoflow.Registry
